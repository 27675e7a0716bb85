import Reattempt.Text.Range

/-!
# White space

The separators, the line ends and the tabulators of Unicode.
-/
namespace Reattempt.Text

def blanks : Ranges := [
  (0x9, 0xD), (0x1C, 0x20), (0x85, 0x85), (0xA0, 0xA0), (0x1680, 0x1680), (0x2000, 0x200A),
  (0x2028, 0x2029), (0x202F, 0x202F), (0x205F, 0x205F), (0x3000, 0x3000)]

def isBlank (c : Char) : Bool := blanks.contains c.toNat

def strip (cs : List Char) : List Char :=
  ((cs.dropWhile isBlank).reverse.dropWhile isBlank).reverse

/-- White space of the ASCII range that may surround a numeral. -/
def isAsciiBlank (c : Char) : Bool := c = ' ' || (9 ≤ c.toNat && c.toNat ≤ 13)

@[simp] theorem strip_nil : strip [] = [] := rfl

end Reattempt.Text
