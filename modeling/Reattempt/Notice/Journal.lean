import Reattempt.Notice.Stock
import Reattempt.Rehearsal.Session
import Reattempt.Value.Template

/-!
# Journals

Records that are emitted by several means are kept as they are, or written as lines of JSON from a
threshold on. What JSON does not know is written as its display; a record that cannot be written is
lost. All this is up to the loggers in stock.
-/
namespace Reattempt

/-- A way to emit records. -/
inductive Emission where
  /-- By a structured logger with bound values; values given with the event win over them. -/
  | structured (logger : Option String) (method event : String) (bound given : Keywords)
  /-- By a plain logger, with a template and its arguments. -/
  | plain (logger : Option String) (method template : String) (args : List Value)
  | notifier (n : Scribe) (error delay : Value)
  /-- By an engine that drives an operation that fails so many times. -/
  | engine (failTimes : Value) (delays : List Value)
  deriving Inhabited

/-- A line of a journal. -/
structure Entry where
  logger : String
  notice : Notice
  deriving Inhabited

namespace Emission

/-- The lines that an engine logs while it drives a flaky operation. -/
def engineLines (failTimes : Value) (delays : List Value) : List String :=
  let steps : List Rehearsal.Step := [
    .flaky "operation" [("fail_times", failTimes)],
    .builder "builder" (.scripted [("delays", .list delays)]),
    .retry "engine" .blocking (.plain "operation") (some "builder") [] [],
    .reconfigure "engine" "engine"
      (.sleeper (some (.new (.clock (Rehearsal.Clock.make (.real .zero)))))),
    .call "engine" false]
  let reports := (Rehearsal.Session.empty true).performAll steps
  (reports.flatMap (·.events)).filterMap fun
    | .debug (.ok line) => some line
    | _ => none

/-- How a structured logger is made: its name comes first, and other values are bound to it. -/
def loggerSignature : Signature := ⟨"get_logger", false, [Signature.optional "name" .none], true⟩

def bindSignature : Signature := ⟨"BoundLoggerLazyProxy.bind", true, [], true⟩

/-- The level of a method of a plain logger. With arguments, an event may stand where a level is
asked for. -/
def plainMethod (method : String) (args : List Value) : Except Fault (String × Bool) :=
  match Logger.plain.method? method with
  | some m => .ok m
  | none =>
    .error (if method = "log" && !args.isEmpty then Fault.typeError "level must be an integer"
      else Logger.plain.lacks method)

/-- The structured records of an emission, if structured loggers are of a kind. -/
def notices (via : Logger) (e : Emission) : Except Fault (List Notice) :=
  match e with
  | .structured _ method event bound given =>
    match (loggerSignature.refused? [.none] bound).or (bindSignature.refused? [] bound) with
    | some f => .error f
    | none => (via.write method event bound given).map ([·])
  | .notifier n error delay => ({ n with logger := via }.write error delay).1.map ([·])
  | .plain _ method _ args => (plainMethod method args).map fun _ => []
  | .engine .. => .ok []

end Emission

/-! ## Lines of JSON -/

mutual

/-- A value after it has been written as JSON and read again. -/
def Value.throughJson : Value → Except Fault Value
  | .none => .ok .none
  | .num n => (Value.num n).shown.map fun _ => .num n
  | .str s => .ok (.str s)
  | .list vs => (throughJsonList vs).map .list
  | .tuple vs => (throughJsonList vs).map .list
  | .dict es => (throughJsonEntries es).map Value.dictOf
  | v => v.shown.map .str

def throughJsonList : List Value → Except Fault (List Value)
  | [] => .ok []
  | v :: vs => do
    let x ← v.throughJson
    let xs ← throughJsonList vs
    return x :: xs

def throughJsonEntries : List (Value × Value) → Except Fault (List (Value × Value))
  | [] => .ok []
  | (k, v) :: es => do
    let key ← jsonKey k
    let x ← v.throughJson
    let xs ← throughJsonEntries es
    return (.str key, x) :: xs

end

namespace Journal

def rootName : String := "root"

def loggerName (name : Option String) : String :=
  match name with
  | some n => if n = "" then rootName else n
  | none => rootName

/-- The thresholds that have a name. -/
def thresholds : List (String × Int) := [
  ("CRITICAL", 50), ("FATAL", 50), ("ERROR", 40), ("WARN", 30), ("WARNING", 30), ("INFO", 20),
  ("DEBUG", 10), ("NOTSET", 0)]

/-- The threshold that a value stands for: a whole number, or a name. -/
def threshold (level : Value) : Except Fault Int :=
  match level with
  | .str name =>
    match thresholds.lookup name with
    | some n => .ok n
    | none => .error (Fault.valueError ("Unknown level: " ++ level.display))
  | level =>
    match level.whole with
    | .ok n => .ok n
    | .error _ => do
      throw (Fault.typeError ("Level not an integer or a valid string: " ++ (← level.shown)))

/-- The weight of a level. -/
def weight (level : String) : Int :=
  match level with
  | "debug" => 10
  | "info" => 20
  | "warning" => 30
  | "error" => 40
  | "critical" => 50
  | _ => 0

/-- The fields of a record that the journal sets itself. -/
def ownFields : List String := ["level", "logger", "timestamp", "event"]

def writable (n : Notice) : Except Fault Notice := do
  let fields ← (n.fields.filter (·.1 ∉ ownFields)).mapM fun (k, v) => do return (k, ← v.throughJson)
  return { n with fields := fields }

/-- The entry of a record at or above the threshold, if it can be written. -/
def entryOf (threshold : Int) (logger : String) (n : Notice) : Option Entry :=
  if threshold ≤ weight n.level then (writable n).toOption.map fun n => ⟨logger, n⟩ else none

/-- The entries of an emission. -/
def entries (threshold : Int) (e : Emission) : Except Fault (List Entry) :=
  match e with
  | .structured logger .. => do
    return (← e.notices .bridged).filterMap (entryOf threshold (loggerName logger))
  | .notifier .. => do return (← e.notices .bridged).filterMap (entryOf threshold "aretry")
  | .plain logger method template args => do
    let (level, showsFault) ← Emission.plainMethod method args
    let fault := if showsFault then [("exc_info", .list [.none, .none, .none])] else []
    return ((Template.fill? template args).bind fun event =>
      entryOf threshold (loggerName logger) ⟨level, event, fault⟩).toList
  | .engine failTimes delays =>
    .ok ((Emission.engineLines failTimes delays).filterMap fun line =>
      entryOf threshold "aretry.engine" ⟨"debug", line, []⟩)

end Journal

end Reattempt
