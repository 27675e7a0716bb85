import Reattempt.Backoff.Cursor
import Reattempt.Backoff.Limits
import Reattempt.Value.Equality

/-!
# Backoff policies

A policy says how long to wait before each retry and how often to retry. Its parameters are checked
whenever it is made or changed, so every policy there is can be trusted; each cursor it builds
starts afresh.
-/
namespace Reattempt.Backoff

inductive Strategy where
  | constant
  | exponential
  | fibonacci
  deriving DecidableEq, Repr, Inhabited

/-- One delay for every retry. -/
structure Constant where
  delay : Number
  budget : Option Number
  deriving DecidableEq, Repr, Inhabited

/-- Delays that grow by a factor, up to a cap. -/
structure Exponential where
  least : Number
  cap : Option Number
  factor : Number
  budget : Option Number
  deriving DecidableEq, Repr, Inhabited

/-- Delays that are each the sum of the two before, up to a cap. -/
structure Fibonacci where
  least : Number
  cap : Option Number
  budget : Option Number
  deriving DecidableEq, Repr, Inhabited

inductive Policy where
  | constant (p : Constant)
  | exponential (p : Exponential)
  | fibonacci (p : Fibonacci)
  deriving DecidableEq, Repr, Inhabited

def Strategy.title : Strategy → String
  | .constant => "ConstantBuilder"
  | .exponential => "ExponentialBuilder"
  | .fibonacci => "FibonacciBuilder"

def one : Value := .num (.real (.ofInt 1))

/-- The parameters of a strategy with their defaults. -/
def Strategy.parameters : Strategy → List (String × Value)
  | .constant => [("delay", one), ("max_times", .int 3)]
  | .exponential => [("min_delay", one), ("max_delay", .num (.real (.ofInt 60))),
      ("factor", .num (.real (.ofInt 2))), ("max_times", .int 3)]
  | .fibonacci => [("min_delay", one), ("max_delay", .num (.real (.ofInt 60))), ("max_times", .int 3)]

def Strategy.signature (s : Strategy) : Signature :=
  ⟨s.title ++ ".__init__", true, s.parameters.map fun (name, d) => Signature.optional name d, false⟩

def optionalNumber : Option Number → Value
  | none => .none
  | some n => .num n

theorem optionalNumber_injective {a b : Option Number} (h : optionalNumber a = optionalNumber b) : a = b := by
  cases a <;> cases b <;> cases h <;> rfl

namespace Constant

def make (delay budget : Value) : Except Fault Constant := do
  let d ← checkDelay "delay" delay
  let b ← checkBudget budget
  return ⟨d, b⟩

/-- The count of a budget that has to be a whole number. -/
def count (budget : Number) : Except Fault Nat := ((Value.num budget).index).map Int.toNat

def build (p : Constant) : Except Fault Cursor :=
  match p.budget with
  | none => .ok (.repeating p.delay none)
  | some b => do return .repeating p.delay (some (← count b))

end Constant

namespace Exponential

def make (least cap factor budget : Value) : Except Fault Exponential := do
  let d ← checkDelay "min_delay" least
  let c ← checkCap d cap
  let b ← checkBudget budget
  let f ← checkFactor factor
  return ⟨d, c, f, b⟩

def build (p : Exponential) : Cursor := .growing (.exponential p.least p.factor p.cap p.budget)

end Exponential

namespace Fibonacci

def make (least cap budget : Value) : Except Fault Fibonacci := do
  let d ← checkDelay "min_delay" least
  let c ← checkCap d cap
  let b ← checkBudget budget
  return ⟨d, c, b⟩

def build (p : Fibonacci) : Cursor := .growing (.fibonacci (.real .zero) p.least p.cap p.budget)

end Fibonacci

namespace Policy

def strategy : Policy → Strategy
  | .constant _ => .constant
  | .exponential _ => .exponential
  | .fibonacci _ => .fibonacci

/-- The parameters of a policy, in the order of its strategy. -/
def values : Policy → List Value
  | .constant p => [.num p.delay, optionalNumber p.budget]
  | .exponential p => [.num p.least, optionalNumber p.cap, .num p.factor, optionalNumber p.budget]
  | .fibonacci p => [.num p.least, optionalNumber p.cap, optionalNumber p.budget]

def fields (p : Policy) : List (String × Value) := (p.strategy.parameters.map (·.1)).zip p.values

/-- Checks parameters given in the order of the strategy. -/
def ofValues : Strategy → List Value → Except Fault Policy
  | .constant, [d, b] => (Constant.make d b).map .constant
  | .exponential, [d, c, f, b] => (Exponential.make d c f b).map .exponential
  | .fibonacci, [d, c, b] => (Fibonacci.make d c b).map .fibonacci
  | s, _ => .error (s.signature.missing [])

/-- A policy from named parameters; those not named have their defaults. -/
def make (s : Strategy) (keywords : Keywords) : Except Fault Policy := do
  ofValues s (← s.signature.bind [] keywords)

/-- The policy with another value for one parameter. -/
def replace (p : Policy) (field : String) (v : Value) : Except Fault Policy :=
  ofValues p.strategy (p.fields.map fun (name, old) => if name = field then v else old)

/-- Three retries after one, two and four seconds. -/
def default : Policy :=
  .exponential ⟨.real (.ofInt 1), some (.real (.ofInt 60)), .real (.ofInt 2), some 3⟩

/-- The parameters that have a method to remove them. -/
def removable (field : String) : Bool := field = "max_delay" || field = "max_times"

/-- Changes a policy by the method that is named after the parameter. The parameter itself is no
method. -/
def change (p : Policy) (method : String) (args : List Value) : Except Fault Policy :=
  let names := p.strategy.parameters.map (·.1)
  let title := p.strategy.title ++ "." ++ method
  match names.find? fun n => method = "with_" ++ n with
  | some n => do
    match ← Signature.bind ⟨title, true, [Signature.required n], false⟩ args [] with
    | [v] => p.replace n v
    | _ => p.replace n .none
  | none =>
    match names.find? fun n => removable n && method = "without_" ++ n with
    | some n => do
      let _ ← Signature.bind ⟨title, true, [], false⟩ args []
      p.replace n .none
    | none =>
      match p.fields.lookup method with
      | some v => .error (Fault.uncallable v.kind)
      | none => .error (Fault.lacking p.strategy.title method)

def display (p : Policy) : String :=
  callText p.strategy.title (p.fields.map fun (name, v) => name ++ "=" ++ v.display)

/-- A fresh cursor. -/
def build : Policy → Except Fault Cursor
  | .constant p => p.build
  | .exponential p => .ok p.build
  | .fibonacci p => .ok p.build

/-- Policies of one strategy with equal parameters are equal. -/
def eq (p q : Policy) : Bool := p.strategy = q.strategy && Value.eqList p.values q.values

@[simp] theorem length_values (p : Policy) : p.values.length = p.strategy.parameters.length := by
  cases p <;> rfl

end Policy

end Reattempt.Backoff
