import Reattempt.Notice

/-!
# Loggers in stock

A notifier writes to whatever logger it is given, and what is proved of it holds for any. Programs are run with
these, which are no part of notifying: how each names its methods, what it refuses, and what it adds to a record.
-/
namespace Reattempt

inductive Logger where
  /-- Keeps what it is told, at five levels. -/
  | recorder
  /-- Formats templates. -/
  | plain
  /-- Takes named values. -/
  | structured
  /-- Takes named values and hands them to a plain logger. -/
  | bridged
  deriving DecidableEq, Repr, Inhabited

namespace Logger

def levels : List String := ["debug", "info", "warning", "error", "critical"]

/-- The level of a logging method, and whether it is one that shows the fault being handled. -/
def method? (l : Logger) (name : String) : Option (String × Bool) :=
  if name ∈ levels then some (name, false)
  else
    match l, name with
    | .recorder, _ => none
    | .structured, "msg" => some ("info", false)
    | _, "warn" => some ("warning", false)
    | _, "fatal" => some ("critical", false)
    | _, "exception" => some ("error", true)
    | _, _ => none

/-- Why a logger has no use for a method. A method that takes a level too is given none. -/
def lacks (l : Logger) (name : String) : Fault :=
  let unlevelled (title argument : String) : Fault := Signature.missing
    ⟨title, true, [], false⟩ [argument]
  match l, name with
  | .recorder, _ => Fault.attributeError ("no level " ++ name)
  | .plain, "log" => unlevelled "Logger.log" "msg"
  | .plain, _ => Fault.lacking "Logger" name
  | .structured, "log" => unlevelled "_make_filtering_bound_logger.<locals>.log" "event"
  | .structured, _ => Fault.lacking "BoundLoggerFilteringAtNotset" name
  | .bridged, "log" => unlevelled "BoundLogger.log" "event"
  | .bridged, _ => Fault.lacking "BoundLogger" name

/-- The function behind a method, and the module that it is defined in. -/
def function (l : Logger) (method : String) : String × String :=
  match l, method with
  | .structured, "exception" => ("structlog._native", "exception")
  | .structured, _ =>
    ("structlog._native", "_make_filtering_bound_logger.<locals>.make_method.<locals>.meth")
  | .bridged, "warn" => ("structlog.stdlib", "BoundLogger.warning")
  | .bridged, "fatal" => ("structlog.stdlib", "BoundLogger.critical")
  | .bridged, method => ("structlog.stdlib", "BoundLogger." ++ method)
  | .plain, method => ("logging", "Logger." ++ method)
  | .recorder, _ => ("", "log")

/-- A method takes an event and any named values but those that it names itself. -/
def signature (l : Logger) (method : String) : Signature :=
  ⟨(l.function method).2, l ≠ .recorder, [Signature.required "event"], true⟩

/-- What a method is called by where a value is given to it twice. -/
def title (l : Logger) (method : String) : String :=
  let (place, function) := l.function method
  if place = "" then function else place ++ "." ++ function

/-- Writes a record by the method of that name, with the values given and those bound before. -/
def write (l : Logger) (method event : String) (bound given : Keywords) : Except Fault Notice :=
  match l.method? method with
  | none => .error (l.lacks method)
  | some (level, showsFault) =>
    match (l.signature method).refused? [.str event] given with
    | some f => .error f
    | none =>
      let fields := Signature.merge bound given
      let fault := if showsFault && (fields.lookup "exc_info").isNone then [("exc_info", .bool true)] else []
      .ok ⟨level, event, fields ++ fault⟩

/-- The method of that name. -/
def writer (l : Logger) (name : String) : Except Fault (Method Unit Notice) :=
  if (l.method? name).isNone then .error (l.lacks name)
  else .ok ⟨l.title name, fun event given s => (l.write name event [] given, s)⟩

end Logger

/-- A notifier with the logger that it writes to. -/
structure Scribe extends Notifier where
  logger : Logger
  deriving Inhabited

/-- Notifies by the method of the logger that the notifier is to use. -/
def Scribe.write (n : Scribe) (error delay : Value) : Except Fault Notice × Scribe :=
  match n.notify (n.logger.writer n.level) error delay () with
  | ((outcome, ()), told) => (outcome, { n with toNotifier := told })

def Notifier.make (logger : Logger) (level event : Option String) (context : Keywords) : Except Fault Scribe :=
  (Notifier.unused level event context).map fun n => ⟨n, logger⟩

end Reattempt
