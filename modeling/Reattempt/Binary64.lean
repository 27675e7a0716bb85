/-!
# Binary floating point numbers

A finite number is a whole number of units of `2 ^ -1074`, the smallest positive number of the
format. Every exact question about such numbers is then a question about integers: they are
compared as integers, and an operation is its exact result followed by one rounding.
-/
namespace Reattempt

/-- A double precision number. Both zeros are `finite _ 0`; all not-a-numbers are one. -/
inductive Binary64 where
  | nan
  | infinite (negative : Bool)
  | finite (negative : Bool) (units : Nat)
  deriving DecidableEq, Repr, Inhabited

/-- A place on the extended number line, measured in units of `2 ^ -1074`. -/
inductive Extent where
  | below
  | exact (units : Int)
  | above
  deriving DecidableEq, Repr

namespace Extent

def lt : Extent → Extent → Bool
  | .below, .below => false
  | .below, _ => true
  | .exact a, .exact b => a < b
  | .exact _, .above => true
  | _, _ => false

def le (a b : Extent) : Bool := !b.lt a

@[simp] theorem lt_exact (a b : Int) : (exact a).lt (exact b) = decide (a < b) := rfl

@[simp] theorem lt_irrefl (a : Extent) : a.lt a = false := by
  cases a <;> simp [lt]

theorem lt_trans {a b c : Extent} (hab : a.lt b) (hbc : b.lt c) : a.lt c := by
  cases a <;> cases b <;> cases c <;> simp_all [lt]
  omega

end Extent

namespace Binary64

def unitsPerOne : Nat := Nat.pow 2 1074

/-- The least magnitude, in units, that no finite number reaches. -/
def overflow : Nat := Nat.pow 2 2098

/-- The distance between neighbours at magnitude `n`: 53 binary digits are kept. -/
def spacing (n : Nat) : Nat := Nat.pow 2 (n.log2 - 52)

/-- The whole number nearest to `a / b`; a tie goes to the even neighbour. -/
def nearest (a b : Nat) : Nat :=
  let q := a / b
  let r := 2 * (a % b)
  if r < b then q else if b < r then q + 1 else q + q % 2

/-- The number nearest to `a / b` units. -/
def ofUnits (negative : Bool) (a b : Nat) : Binary64 :=
  let s := spacing (a / b)
  let n := nearest a (b * s) * s
  if n < overflow then .finite negative n else .infinite negative

/-- The number nearest to `a / b`. -/
def ofRatio (negative : Bool) (a b : Nat) : Binary64 := ofUnits negative (a * unitsPerOne) b

def ofInt (i : Int) : Binary64 := ofRatio (i < 0) i.natAbs 1

def zero : Binary64 := .finite false 0

def isFinite : Binary64 → Bool
  | .finite .. => true
  | _ => false

/-- A finite number as a signed count of units; both zeros are zero. -/
def signed (negative : Bool) (units : Nat) : Int := if negative then -(units : Int) else units

/-- Where a number lies; a not-a-number lies nowhere. -/
def extent? : Binary64 → Option Extent
  | .nan => none
  | .infinite true => some .below
  | .infinite false => some .above
  | .finite neg n => some (.exact (signed neg n))

/-- The sum of two zeros of one sign keeps it; any other zero sum is positive. -/
protected def add : Binary64 → Binary64 → Binary64
  | .nan, _ => .nan
  | _, .nan => .nan
  | .infinite a, .infinite b => if a = b then .infinite a else .nan
  | .infinite a, .finite .. => .infinite a
  | .finite .., .infinite b => .infinite b
  | .finite a m, .finite b n =>
    let s := signed a m + signed b n
    if s = 0 then .finite (a && b) 0 else ofUnits (s < 0) s.natAbs 1

protected def mul : Binary64 → Binary64 → Binary64
  | .nan, _ => .nan
  | _, .nan => .nan
  | .infinite a, .infinite b => .infinite (a != b)
  | .infinite a, .finite b n => if n = 0 then .nan else .infinite (a != b)
  | .finite a m, .infinite b => if m = 0 then .nan else .infinite (a != b)
  | .finite a m, .finite b n => ofUnits (a != b) (m * n) unitsPerOne

instance : Add Binary64 := ⟨Binary64.add⟩
instance : Mul Binary64 := ⟨Binary64.mul⟩

@[simp] theorem nan_add (x : Binary64) : .nan + x = .nan := rfl

@[simp] theorem nan_mul (x : Binary64) : .nan * x = .nan := rfl

@[simp] theorem extent?_nan : extent? .nan = none := rfl

theorem extent?_isSome {x : Binary64} : x.extent?.isSome ↔ x ≠ .nan := by
  cases x <;> simp [extent?]
  split <;> simp_all

end Binary64

end Reattempt
