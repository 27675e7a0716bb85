import Reattempt.Text.Printable

/-!
# Quoted text

A text in quotes, on one line: the mark that encloses it, the backslash and whatever is not shown
are escaped. The double mark is used only where the single one would need escapes.
-/
namespace Reattempt.Text

def hexDigits (width n : Nat) : List Char :=
  let ds := Nat.toDigits 16 n
  List.replicate (width - ds.length) '0' ++ ds

/-- The mark that encloses a text. -/
def quoteMark (cs : List Char) : Char := if '\x27' ∈ cs ∧ '"' ∉ cs then '"' else '\x27'

/-- The shortest numeric escape that has room for a code point. -/
def numericEscape (n : Nat) : List Char :=
  if n < 0x100 then '\\' :: 'x' :: hexDigits 2 n
  else if n < 0x10000 then '\\' :: 'u' :: hexDigits 4 n
  else '\\' :: 'U' :: hexDigits 8 n

def escapeChar (shown : Char → Bool) (mark c : Char) : List Char :=
  if c = mark ∨ c = '\\' then ['\\', c]
  else if c = '\n' then ['\\', 'n']
  else if c = '\r' then ['\\', 'r']
  else if c = '\t' then ['\\', 't']
  else if shown c then [c]
  else numericEscape c.toNat

def enclose (shown : Char → Bool) (cs : List Char) : List Char :=
  let mark := quoteMark cs
  mark :: cs.flatMap (escapeChar shown mark) ++ [mark]

/-- A text in quotes; printable characters are shown. -/
def quoted (s : String) : String := String.ofList (enclose isPrintable s.toList)

def isAsciiPrintable (c : Char) : Bool := 0x20 ≤ c.toNat && c.toNat < 0x7F

/-- A string of bytes in quotes; a byte is shown if it is a printable ASCII character. -/
def quotedBytes (bs : List UInt8) : String :=
  String.ofList ('b' :: enclose isAsciiPrintable (bs.map fun b => Char.ofNat b.toNat))

/-- The same text with every other character than ASCII escaped. -/
def asciiOnly (s : String) : String :=
  String.ofList (s.toList.flatMap fun c => if c.toNat < 0x80 then [c] else numericEscape c.toNat)

end Reattempt.Text
