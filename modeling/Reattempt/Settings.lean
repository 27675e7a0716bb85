import Reattempt.Backoff.Policy
import Reattempt.Text.Blank
import Reattempt.Text.Letter

/-!
# Retry settings

A description of a backoff policy in plain values, which are checked when the settings are made but
not when they are assigned later. A cap that is not positive is no cap.
-/
namespace Reattempt

open Backoff

structure Settings where
  strategy : Value
  minDelay : Value
  maxDelay : Value
  factor : Value
  maxTimes : Value
  unbounded : Value
  deriving Inhabited

def Backoff.Strategy.name : Strategy → String
  | .constant => "constant"
  | .exponential => "exponential"
  | .fibonacci => "fibonacci"

def Backoff.Strategy.all : List Strategy := [.constant, .exponential, .fibonacci]

def Backoff.Strategy.ofName? (s : String) : Option Strategy := Strategy.all.find? (·.name = s)

namespace Settings

def defaults : Settings where
  strategy := .str "exponential"
  minDelay := one
  maxDelay := .num (.real (.ofInt 60))
  factor := .num (.real (.ofInt 2))
  maxTimes := .int 3
  unbounded := .bool false

def fields (s : Settings) : List (String × Value) := [
  ("strategy", s.strategy), ("min_delay", s.minDelay), ("max_delay", s.maxDelay),
  ("factor", s.factor), ("max_times", s.maxTimes), ("unbounded", s.unbounded)]

def signature : Signature :=
  ⟨"RetrySettings.__init__", true, defaults.fields.map fun (name, d) => Signature.optional name d, false⟩

/-- Assigns a field without any check. -/
def assign (s : Settings) (field : String) (v : Value) : Settings :=
  match field with
  | "strategy" => { s with strategy := v }
  | "min_delay" => { s with minDelay := v }
  | "max_delay" => { s with maxDelay := v }
  | "factor" => { s with factor := v }
  | "max_times" => { s with maxTimes := v }
  | "unbounded" => { s with unbounded := v }
  | _ => s

def stripped (s : String) : String := String.ofList (Text.lower (Text.strip s.toList))

def byteBlank (b : UInt8) : Bool := Text.isAsciiBlank (Char.ofNat b.toNat)

def strippedBytes (bs : List UInt8) : List UInt8 :=
  (((bs.dropWhile byteBlank).reverse.dropWhile byteBlank).reverse).map fun b =>
    if 0x41 ≤ b && b ≤ 0x5A then b + 0x20 else b

/-- A strategy in lower case, without blanks around it. -/
def normalized : Value → Except Fault Value
  | .str s => .ok (.str (stripped s))
  | .bytes bs => .ok (.bytes (strippedBytes bs))
  | v => .error (v.lacks "strip")

def strategyReason : String := "expected one of ['constant', 'exponential', 'fibonacci']"

def checkStrategy (v : Value) : Except Fault Strategy :=
  match v with
  | .str s =>
    match Strategy.ofName? s with
    | some strategy => .ok strategy
    | none => .error (Fault.invalidSetting "strategy" v strategyReason)
  | v => .error (Fault.invalidSetting "strategy" v strategyReason)

/-- A cap counts only if it is positive. -/
def isCap (v : Value) : Except Fault Bool := do
  let n ← v.comparable ">"
  return decide (0 < n)

/-- Checks the fields in turn; the result has its strategy normalized. -/
def validate (s : Settings) : Except Fault Settings := do
  let s := { s with strategy := ← normalized s.strategy }
  let strategy ← checkStrategy s.strategy
  let least ← checkDelay "min_delay" s.minDelay
  if strategy ≠ .constant then
    if ← isCap s.maxDelay then
      let _ ← checkCap least s.maxDelay
  let _ ← checkFactor s.factor
  let _ ← checkBudget s.maxTimes
  return s

/-- Settings from named fields; those not named have their defaults. -/
def make (keywords : Keywords) : Except Fault Settings := do
  match ← signature.bind [] keywords with
  | [strategy, minDelay, maxDelay, factor, maxTimes, unbounded] =>
    validate ⟨strategy, minDelay, maxDelay, factor, maxTimes, unbounded⟩
  | _ => validate defaults

/-- The policy that the settings describe. An unknown strategy counts as exponential. -/
def toPolicy (s : Settings) : Except Fault Policy := do
  let budget := if s.unbounded.isTruthy then .none else s.maxTimes
  let cap := if ← isCap s.maxDelay then s.maxDelay else .none
  match s.strategy with
  | .str "constant" => Policy.ofValues .constant [s.minDelay, budget]
  | .str "fibonacci" => Policy.ofValues .fibonacci [s.minDelay, cap, budget]
  | _ => Policy.ofValues .exponential [s.minDelay, cap, s.factor, budget]

def display (s : Settings) : String :=
  callText "RetrySettings" (s.fields.map fun (name, v) => name ++ "=" ++ v.display)

def eq (s t : Settings) : Bool := Value.eqList (s.fields.map (·.2)) (t.fields.map (·.2))

end Settings

end Reattempt
