import Reattempt.Fault.Complaint
import Reattempt.Value.Order

/-!
# Limits of policies

A delay is a finite number of seconds that is not negative, a factor a finite number from one on, a
cap at least the first delay, and a budget of retries is not negative.
-/
namespace Reattempt.Backoff

def delayReason : String := "must be a finite, non-negative number of seconds"

def factorReason : String := "must be a finite number >= 1"

def budgetReason : String := "must be >= 0 or None for unbounded"

def checkDelay (name : String) (v : Value) : Except Fault Number := do
  let n ← v.measurable
  if !n.isFinite || n < 0 then .error (Fault.invalidSetting name v delayReason) else return n

/-- No cap, or a cap at or above the first delay. -/
def checkCap (least : Number) (v : Value) : Except Fault (Option Number) :=
  match v with
  | .none => .ok none
  | v => do
    let n ← checkDelay "max_delay" v
    if n < least then
      .error (Fault.invalidSetting "max_delay" v ("must be >= min_delay (" ++ least.text ++ ")"))
    else return some n

def checkFactor (v : Value) : Except Fault Number := do
  let n ← v.measurable
  if !n.isFinite || n < 1 then .error (Fault.invalidSetting "factor" v factorReason) else return n

/-- No budget, or one of any number that is not below zero. A number of too many digits cannot be written into the
complaint. -/
def checkBudget (v : Value) : Except Fault (Option Number) :=
  match v with
  | .none => .ok none
  | v => do
    let n ← v.comparable "<"
    if n < 0 then
      let x ← Fault.wrongSetting .own (.str "max_times") v (.str budgetReason)
      .error x
    else return some n

@[simp] theorem checkCap_none (least : Number) : checkCap least .none = .ok none := rfl

@[simp] theorem checkBudget_none : checkBudget .none = .ok none := rfl

end Reattempt.Backoff
