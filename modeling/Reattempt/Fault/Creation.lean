import Reattempt.Fault.Complaint

/-!
# New faults

A fault is made from a class, arguments and keywords. Complaints bind them to parameters; of other
faults some take keywords that say what they are about, and some check that their arguments can be
read.
-/
namespace Reattempt.Fault

/-- A complaint of a kind. -/
def makeComplaint (kind : Complaint) (id : Identity) (args : List Value) (keywords : Keywords) :
    Except Fault Fault := do
  match kind, ← (signature kind).bind args keywords with
  | .missing, [setting] => missingSetting id setting
  | .invalid, [setting, value, reason] => wrongSetting id setting value reason
  | kind, [message, code, detail] => return complain kind id message code detail
  | kind, _ => return complain kind id .none .none .none

/-- The classes that take keywords, and what the keywords name. -/
def subjects : List (FaultClass × List String) := [
  (.importError, ["name", "path"]), (.attributeError, ["name", "obj"]), (.nameError, ["name"])]

/-- Checks keywords, which name what a fault is about. -/
def checkKeywords (c : FaultClass) (keywords : Keywords) : Except Fault Unit :=
  match subjects.find? fun s => c.isA s.1 with
  | none =>
    if keywords.isEmpty then .ok ()
    else .error (typeError (c.name ++ "() takes no keyword arguments"))
  | some (base, names) =>
    if names.length < keywords.length then
      .error (typeError (base.name ++ "() takes at most " ++ toString names.length ++ " keyword " ++
        Signature.plural names.length ++ " (" ++ toString keywords.length ++ " given)"))
    else
      match keywords.find? fun k => k.1 ∉ names with
      | some (k, _) => .error (typeError
          ("'" ++ k ++ "' is an invalid keyword argument for " ++ base.name ++ "()"))
      | none => .ok ()

/-- A new fault of a class. A group reads its arguments before its keywords, any other after. -/
def make (c : FaultClass) (id : Identity) (args : List Value) (keywords : Keywords) : Except Fault Fault :=
  match c with
  | .complaint kind => makeComplaint kind id args keywords
  | c => do
    match c.reading with
    | .group =>
      let c ← Group.classOf c (← Group.members args)
      checkKeywords c keywords
      return .plain c id args []
    | .system =>
      checkKeywords c keywords
      SystemError.make c id args
    | .source =>
      checkKeywords c keywords
      let _ ← SourcePlace.ofArguments args
      return .plain c id args []
    | .coding =>
      checkKeywords c keywords
      let _ ← Coding.ofArguments c args
      return .plain c id args []
    | _ =>
      checkKeywords c keywords
      return .plain c id args []

/-- The attributes of a complaint, in the order in which they are listed. -/
def complaintAttributes (kind : Complaint) (message code detail : Value) : List (String × Value) :=
  let entry (k : String) : Option Value :=
    match detail with
    | .dict es => (es.find? fun e => match e.1 with | .str s => s = k | _ => false).map (·.2)
    | _ => none
  let own (name key : String) : List (String × Value) := ((entry key).map fun v => (name, v)).toList
  [("code", code), ("message", message), ("detail", detail)] ++
  match kind with
  | .missing => own "setting_name" "setting"
  | .invalid => own "setting_name" "setting" ++ own "value" "value" ++ own "reason" "reason"
  | _ => []

/-- What an exit is to report: nothing, its argument, or all of several. -/
def exitCode : List Value → Value
  | [] => .none
  | [v] => v
  | vs => .tuple vs

/-- The attributes of a fault besides its arguments. -/
def attributes : Fault → List (String × Value)
  | .complaint kind _ message code detail => complaintAttributes kind message code detail
  | .plain .systemExit _ args _ => [("code", exitCode args)]
  | .plain .stopIteration _ args _ => [("value", args.headD .none)]
  | .plain c _ args _ =>
    match c.reading with
    | .coding => [("reason", args.getLastD .none)]
    | .group => [("message", args.headD .none)]
    | _ => []

end Reattempt.Fault
