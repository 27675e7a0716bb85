import Reattempt.Fault.Creation
import Reattempt.Value.Order

/-!
# Operations for rehearsals

An operation with a script does what the script says for each of its calls; a flaky operation fails
so many times and then succeeds.
-/
namespace Reattempt.Rehearsal

/-- What a collaborator calls on the engine that is calling it. -/
inductive Reentry where
  | call
  | run
  | when
  | sleep
  | display
  deriving DecidableEq, Repr, Inhabited

inductive Reaction where
  | ret (v : Value)
  | raise (f : Fault)
  | reenter (m : Reentry)
  deriving Inhabited

/-- How a scripted operation is called: at once, as a coroutine, or as a function whose result is to
be waited for; an object has no name of its own. -/
inductive Style where
  | sync
  | coro
  | awaitable
  | object
  | objectCoro
  deriving DecidableEq, Repr, Inhabited

structure Script where
  name : String
  doc : Option String
  style : Style
  suspensions : Nat
  /-- Whether each call adds its number to a list that is the first argument. -/
  mutates : Bool
  reactions : List Reaction
  deriving Inhabited

namespace Style

def isObject : Style → Bool
  | .object | .objectCoro => true
  | _ => false

/-- Whether nothing happens until the call is waited for. -/
def isLazy : Style → Bool
  | .coro | .objectCoro => true
  | _ => false

end Style

namespace Script

/-- What call number `i` does; the last reaction repeats, and without any there is nothing to do. -/
def reaction (s : Script) (i : Nat) : Reaction :=
  (s.reactions[i]?).getD (s.reactions.getLastD (.raise Fault.outOfRange))

def display (s : Script) : String := if s.style.isObject then "<op " ++ s.name ++ ">" else s.name

def text (s : Script) : String := if s.style.isObject then "op:" ++ s.name else s.name

end Script

structure Flaky where
  failTimes : Value
  error : Value
  value : Value
  asResult : Value
  /-- The arguments of every call so far. -/
  received : List (List Value × Keywords)
  deriving Inhabited

namespace Flaky

def signature : Signature :=
  ⟨"FlakyOperation.__init__", true, [Signature.optional "fail_times" (.int 0),
    Signature.keyword "error" .none, Signature.keyword "value" (.str "ok"),
    Signature.keyword "as_result" (.bool false)], false⟩

/-- What a flaky operation says about itself. -/
def doc : String := "\n".intercalate [
  "Operation that fails ``fail_times`` times, then succeeds with ``value``.",
  "",
  "    ``fail_times=None`` fails forever. Failures raise ``error`` or, with",
  "    ``as_result=True``, return ``Err(error)``. Every call is recorded in",
  "    :attr:`received` as ``(args, kwargs)``.",
  "",
  "    ``error`` may be an exception class, instantiated afresh per failure, or",
  "    an instance. An instance is reused so tests can assert identity; its",
  "    traceback is reset before each raise so it does not accumulate frames",
  "    across retries.",
  "",
  "    ``await op(...)`` is the async form; ``op.sync(...)`` the blocking one.",
  "    "]

def defaultError (source : Nat) : Value :=
  .fault (.plain .connectionError (.minted source 0) [.str "flaky operation failed"] [])

def make (source : Nat) (keywords : Keywords) : Except Fault Flaky := do
  match ← signature.bind [] keywords with
  | [failTimes, error, value, asResult] =>
    let error := match error with
      | .none => defaultError source
      | error => error
    return ⟨failTimes, error, value, asResult, []⟩
  | _ => return ⟨.int 0, defaultError source, .str "ok", .bool false, []⟩

def calls (f : Flaky) : Nat := f.received.length

/-- Whether call number `n` fails; without a limit every call does. -/
def fails (f : Flaky) (n : Nat) : Except Fault Bool :=
  match f.failTimes with
  | .none => .ok true
  | .num limit => .ok (decide (Number.whole n ≤ limit))
  | v => .error (Fault.unordered "<=" (.int 0) v)

/-- The error of call number `n`: a class is made into a new fault for each failure. -/
def failure (f : Flaky) (source n : Nat) : Except Fault Value :=
  match f.error with
  | .cls c => do return .fault (← Fault.make c (.minted source n) [] [])
  | v => .ok v

def raised (v : Value) : Fault :=
  match v with
  | .fault x => x
  | _ => Fault.typeError "exceptions must derive from BaseException"

/-- A call takes any arguments; `plain` tells the plain form from the one to wait for. -/
def callSignature (plain : Bool) : Signature :=
  ⟨if plain then "FlakyOperation.sync" else "FlakyOperation.__call__", true, [], true⟩

/-- One call: it is recorded first. -/
def call (f : Flaky) (source : Nat) (args : List Value) (keywords : Keywords) :
    Except Fault Value × Flaky :=
  let f := { f with received := f.received ++ [(args, keywords)] }
  let outcome : Except Fault Value := do
    if ← f.fails f.calls then
      let error ← f.failure source f.calls
      if f.asResult.isTruthy then return .err error else throw (raised error)
    else return f.value
  (outcome, f)

/-- A call as an engine makes it. One with a keyword that names the operation itself is refused, and not recorded. -/
def invoke (f : Flaky) (plain : Bool) (source : Nat) (args : List Value) (keywords : Keywords) :
    Except Fault Value × Flaky :=
  match (callSignature plain).refused? [] keywords with
  | some x => (.error x, f)
  | none => f.call source args keywords

end Flaky

/-- An operation with the number of its calls so far. -/
inductive Operation where
  | scripted (s : Script) (calls : Nat)
  | flaky (f : Flaky)
  deriving Inhabited

/-- Where something handed back for waiting stands. -/
inductive Wait where
  /-- Resolves at once. -/
  | resolved (v : Value)
  /-- An operation that has not begun, with its arguments. -/
  | unbegun (operation arguments : Nat)
  /-- An operation that will suspend so many times before it reacts. -/
  | reacting (operation : Nat) (reaction : Reaction) (left : Nat) (started : Bool)
  /-- A sleeper that will suspend so many times before it is done. -/
  | sleeping (sleeper : Nat) (left : Nat) (started : Bool)
  /-- A timer. -/
  | timer (delay : Value) (started : Bool)
  deriving Inhabited

end Reattempt.Rehearsal
