import Reattempt.Binary64.Shortest

/-!
# Numbers of mixed kind

Delays, limits and factors may be whole numbers of any size, binary numbers or truth values, which
count as zero and one. Kinds are compared by their exact value and never by rounding; arithmetic
stays exact as long as both sides are whole.
-/
namespace Reattempt

inductive Number where
  | flag (b : Bool)
  | whole (i : Int)
  | real (x : Binary64)
  deriving DecidableEq, Repr, Inhabited

namespace Number

/-- The value of a whole number or a truth value. -/
def int? : Number → Option Int
  | .flag b => some (if b then 1 else 0)
  | .whole i => some i
  | .real _ => none

/-- The nearest binary number. -/
def toBinary : Number → Binary64
  | .flag b => .ofInt (if b then 1 else 0)
  | .whole i => .ofInt i
  | .real x => x

/-- The exact place of a number; a not-a-number has none. -/
def extent? : Number → Option Extent
  | .flag b => some (.exact ((if b then 1 else 0) * Binary64.unitsPerOne))
  | .whole i => some (.exact (i * Binary64.unitsPerOne))
  | .real x => x.extent?

def lt (a b : Number) : Bool :=
  match a.extent?, b.extent? with
  | some x, some y => x.lt y
  | _, _ => false

def le (a b : Number) : Bool :=
  match a.extent?, b.extent? with
  | some x, some y => x.le y
  | _, _ => false

/-- Equality of value across kinds: one, the truth and one as a binary number are equal. -/
def eq (a b : Number) : Bool :=
  match a.extent?, b.extent? with
  | some x, some y => x = y
  | _, _ => false

instance : LT Number := ⟨fun a b => a.lt b⟩
instance : LE Number := ⟨fun a b => a.le b⟩
instance (a b : Number) : Decidable (a < b) := inferInstanceAs (Decidable (a.lt b = true))
instance (a b : Number) : Decidable (a ≤ b) := inferInstanceAs (Decidable (a.le b = true))
instance (n : Nat) : OfNat Number n := ⟨.whole n⟩

/-- Whether the nearest binary number is finite whenever the number is whole. -/
def convertible (n : Number) : Bool := n.int?.isNone || n.toBinary.isFinite

/-- Neither infinite nor not-a-number, nor too large a whole number for the question. -/
def isFinite (n : Number) : Bool := n.toBinary.isFinite

def isTruthy : Number → Bool
  | .flag b => b
  | .whole i => i ≠ 0
  | .real x => x.extent? ≠ some (.exact 0)

/-- Whole numbers are combined exactly, anything else as binary numbers. -/
def lift (f : Int → Int → Int) (g : Binary64 → Binary64 → Binary64) (a b : Number) : Number :=
  match a.int?, b.int? with
  | some i, some j => .whole (f i j)
  | _, _ => .real (g a.toBinary b.toBinary)

instance : Add Number := ⟨lift (· + ·) (· + ·)⟩
instance : Mul Number := ⟨lift (· * ·) (· * ·)⟩

@[simp] theorem whole_add (i j : Int) : (whole i + whole j : Number) = whole (i + j) := rfl

@[simp] theorem whole_mul (i j : Int) : (whole i * whole j : Number) = whole (i * j) := rfl

/-- A sum mixes kinds only if the whole side can be converted. -/
def mixes (a b : Number) : Bool :=
  (a.int?.isSome && b.int?.isSome) || (a.convertible && b.convertible)

/-- Whole numbers in decimal, truth values by name, binary numbers in their shortest form. -/
def text : Number → String
  | .flag true => "True"
  | .flag false => "False"
  | .whole i => toString i
  | .real x => x.text

theorem lt_irrefl (a : Number) : ¬ a < a := by
  show ¬ a.lt a = true
  simp only [lt]
  cases a.extent? <;> simp

theorem lt_trans {a b c : Number} (hab : a < b) (hbc : b < c) : a < c := by
  change a.lt b = true at hab
  change b.lt c = true at hbc
  show a.lt c = true
  simp only [lt] at hab hbc ⊢
  cases ha : a.extent? <;> cases hb : b.extent? <;> cases hc : c.extent? <;> simp_all
  exact Extent.lt_trans hab hbc

@[simp] theorem whole_lt_whole {i j : Int} : (whole i < whole j) ↔ i < j := by
  show (whole i).lt (whole j) = true ↔ _
  have h : (0 : Int) < Binary64.unitsPerOne := by decide +kernel
  simp only [lt, extent?, Extent.lt_exact, decide_eq_true_eq]
  exact ⟨fun g => Int.lt_of_mul_lt_mul_right g (Int.le_of_lt h), fun g => Int.mul_lt_mul_of_pos_right g h⟩

@[simp] theorem whole_le_whole {i j : Int} : (whole i ≤ whole j) ↔ i ≤ j := by
  show (whole i).le (whole j) = true ↔ _
  have h := whole_lt_whole (i := j) (j := i)
  have h' : (whole j).lt (whole i) = true ↔ j < i := h
  simp only [lt, extent?] at h'
  simp only [le, extent?, Extent.le, Bool.not_eq_true']
  rw [← Bool.not_eq_true, h']
  omega

end Number

end Reattempt
