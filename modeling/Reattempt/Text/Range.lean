/-!
# Ranges of code points
-/
namespace Reattempt.Text

/-- A set of code points, as closed ranges. -/
abbrev Ranges := List (Nat × Nat)

def Ranges.contains (rs : Ranges) (n : Nat) : Bool := rs.any fun r => r.1 ≤ n && n ≤ r.2

@[simp] theorem Ranges.contains_nil (n : Nat) : Ranges.contains [] n = false := rfl

@[simp] theorem Ranges.contains_cons (a b n : Nat) (rs : Ranges) :
    Ranges.contains ((a, b) :: rs) n = ((a ≤ n && n ≤ b) || Ranges.contains rs n) := rfl

end Reattempt.Text
