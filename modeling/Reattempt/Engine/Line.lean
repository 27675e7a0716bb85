import Reattempt.Value.Display

/-!
# Log lines of an engine

An engine reports every failed attempt in one line: either the retry that follows and its delay, or
why there is none.
-/
namespace Reattempt

/-- Why a failure is final. -/
inductive Reason where
  | notRetryable
  | backoffExhausted
  deriving DecidableEq, Repr, Inhabited

inductive Line where
  | stopped (attempt : Nat) (reason : Reason) (error : Value)
  | scheduled (attempt : Nat) (delay error : Value)
  deriving Inhabited

def Reason.name : Reason → String
  | .notRetryable => "not_retryable"
  | .backoffExhausted => "backoff_exhausted"

namespace Line

def attempt : Line → Nat
  | .stopped n .. => n
  | .scheduled n .. => n

def error : Line → Value
  | .stopped _ _ e => e
  | .scheduled _ _ e => e

/-- A delay to the thousandth of a second. -/
def seconds (delay : Value) : Except Fault String :=
  match delay with
  | .num n => if n.convertible then .ok (n.toBinary.fixed 3) else .error Fault.unconvertible
  | v => .error (Fault.typeError ("must be real number, not " ++ v.kind))

/-- The line, unless its delay cannot be written or its error cannot be shown. -/
def text : Line → Except Fault String
  | .stopped n reason e => do
    return "retry stopped attempt=" ++ toString n ++ " reason=" ++ reason.name ++ " exc=" ++ (← e.shown)
  | .scheduled n delay e => do
    return "retry attempt=" ++ toString n ++ " delay=" ++ (← seconds delay) ++ "s exc=" ++ (← e.shown)

end Line

end Reattempt
