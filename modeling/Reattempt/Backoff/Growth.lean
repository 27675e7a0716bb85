import Reattempt.Number

/-!
# Growing delays

Delays that grow by a factor, or like the Fibonacci numbers, up to a cap, and end when a budget is
used up. Growth is stated over any numbers with sums and products, which need not always exist.
-/
namespace Reattempt.Backoff

/-- The numbers that delays are made of. -/
class Scalar (α : Type) where
  sum? : α → α → Option α
  product? : α → α → Option α
  /-- Whether the first is at least the second. -/
  reaches : α → α → Bool

instance : Scalar Number where
  sum? a b := if a.mixes b then some (a + b) else none
  product? a b := if a.mixes b then some (a * b) else none
  reaches a b := b ≤ a

/-- The delay that is due, and what the next one is made of. -/
inductive Growth (α : Type) where
  | byFactor (factor delay : α)
  | bySum (previous delay : α)
  deriving DecidableEq, Repr, Inhabited

namespace Growth

variable {α : Type} [Scalar α]

def delay : Growth α → α
  | .byFactor _ d => d
  | .bySum _ d => d

def withDelay (d : α) : Growth α → Growth α
  | .byFactor f _ => .byFactor f d
  | .bySum p _ => .bySum p d

def next? : Growth α → Option (Growth α)
  | .byFactor f d => (Scalar.product? d f).map (.byFactor f)
  | .bySum p d => (Scalar.sum? p d).map (.bySum d)

/-- Whether the delay has reached the cap. -/
def capped (cap : Option α) (g : Growth α) : Bool := cap.any (Scalar.reaches g.delay)

def clip (cap : Option α) (g : Growth α) : Growth α :=
  match cap with
  | some c => if Scalar.reaches g.delay c then g.withDelay c else g
  | none => g

omit [Scalar α] in
@[simp] theorem delay_withDelay (d : α) (g : Growth α) : (g.withDelay d).delay = d := by
  cases g <;> rfl

/-- What follows a delay; at the cap it stays as it is. -/
def follow? (cap : Option α) (g : Growth α) : Option (Growth α) :=
  if g.capped cap then some g else g.next?

end Growth

/-- A cursor over growing delays. -/
structure Growing (α : Type) where
  cap : Option α
  budget : Option Number
  growth : Growth α
  /-- How many delays have been handed out. -/
  given : Nat
  deriving DecidableEq, Repr, Inhabited

/-- One advance: a delay, the end, or a delay that does not exist. -/
inductive Step (α : Type) where
  | delay (d : α)
  | exhausted
  | lost
  deriving DecidableEq, Repr

namespace Growing

variable {α : Type} [Scalar α]

def withinBudget (g : Growing α) : Bool := g.budget.all fun b => (Number.whole g.given) < b

/-- Growth takes place on the advance after the delay that it starts from. -/
def advance (g : Growing α) : Step α × Option (Growing α) :=
  match if g.given = 0 then some g.growth else g.growth.follow? g.cap with
  | none => (.lost, none)
  | some grown =>
    if g.withinBudget then
      let due := grown.clip g.cap
      (.delay due.delay, some { g with growth := due, given := g.given + 1 })
    else (.exhausted, none)

/-- Delays from the least one on, each the one before times the factor. -/
def exponential (least factor : α) (cap : Option α) (budget : Option Number) : Growing α :=
  ⟨cap, budget, .byFactor factor least, 0⟩

/-- Delays from the least one on, each the sum of the two before, the first of which are `zero` and it. -/
def fibonacci (zero least : α) (cap : Option α) (budget : Option Number) : Growing α :=
  ⟨cap, budget, .bySum zero least, 0⟩

/-- What is left of a cursor after so many advances: nothing once it has come to its end. -/
def left (g : Growing α) : Nat → Option (Growing α)
  | 0 => some g
  | n + 1 => (g.left n).bind fun g => g.advance.2

/-- The `n`-th advance, from zero. The end is permanent. -/
def nth (g : Growing α) (n : Nat) : Step α := (g.left n).elim .exhausted fun g => g.advance.1

theorem left_succ (g : Growing α) (n : Nat) : g.left (n + 1) = (g.left n).bind fun g => g.advance.2 := rfl

end Growing

end Reattempt.Backoff
