import Reattempt.Value

/-!
# Comparing values with numbers
-/
namespace Reattempt

/-- Values of two kinds that no order compares. -/
def Fault.unordered (symbol : String) (left right : Value) : Fault :=
  typeError ("'" ++ symbol ++ "' not supported between instances of '" ++ left.kind ++
    "' and '" ++ right.kind ++ "'")

namespace Value

def number? : Value → Option Number
  | .num n => some n
  | _ => Option.none

/-- A value as a number, where anything else cannot be compared with one. -/
def comparable (symbol : String) (v : Value) : Except Fault Number :=
  match v with
  | .num n => .ok n
  | v => .error (Fault.unordered symbol v (int 0))

/-- A value whose finiteness can be asked for: a number, and if whole not too large. -/
def measurable (v : Value) : Except Fault Number :=
  match v with
  | .num n => if n.convertible then .ok n else .error Fault.unconvertible
  | v => .error (Fault.typeError ("must be real number, not " ++ v.kind))

@[simp] theorem number?_num (n : Number) : number? (.num n) = some n := rfl

@[simp] theorem comparable_num (symbol : String) (n : Number) : comparable symbol (.num n) = .ok n := rfl

theorem measurable_eq_ok {v : Value} {n : Number} :
    v.measurable = .ok n ↔ v = .num n ∧ n.convertible := by
  cases v <;> simp [measurable]
  split <;> simp_all
  · exact fun h => h ▸ ‹_›
  · rintro rfl; simp_all

end Value

end Reattempt
