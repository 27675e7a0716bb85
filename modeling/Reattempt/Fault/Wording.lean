import Reattempt.Fault.Coding
import Reattempt.Fault.Group
import Reattempt.Fault.SourcePlace
import Reattempt.Fault.SystemError
import Reattempt.Value.Display

/-!
# The wording of faults

What a fault says, given what its arguments say. Classes that read their arguments have a wording of
their own; the arguments of any other are its message.
-/
namespace Reattempt.Wording

/-- A fault without arguments has no message, and one with several shows them all. -/
def plain (args : List Value) (texts : List (Except Fault String)) : Except Fault String :=
  match texts with
  | [] => .ok ""
  | [t] => t
  | _ => (Value.tuple args).shown

/-- A missing key is displayed, so that it is seen even if it is blank. -/
def key (args : List Value) (texts : List (Except Fault String)) : Except Fault String :=
  match args with
  | [v] => v.shown
  | args => plain args texts

def system (args files : List Value) (texts : List (Except Fault String)) : Except Fault String :=
  match SystemError.isNumbered args, texts with
  | true, number :: message :: _ => do
    return SystemError.text (← number) (← message) (← files.mapM Value.shown)
  | _, texts => plain args texts

/-- A syntax error without a message says that there is none. -/
def source (args : List Value) (texts : List (Except Fault String)) : Except Fault String := do
  let message ← texts.headD (.ok Value.none.display)
  let place := (SourcePlace.ofArguments args).toOption.getD SourcePlace.nowhere
  return place.text message

def coding (c : FaultClass) (args : List Value) (texts : List (Except Fault String)) :
    Except Fault String :=
  match Coding.ofArguments c args with
  | .ok (some p) => p.text
  | _ => plain args texts

def group (args : List Value) (texts : List (Except Fault String)) : Except Fault String :=
  match args, Group.members args with
  | .str message :: _, .ok fs => .ok (Group.text message fs.length)
  | args, _ => plain args texts

/-- What a fault of a class says, by how its arguments are read. -/
def ofClass (c : FaultClass) (args files : List Value) (texts : List (Except Fault String)) :
    Except Fault String :=
  match c.reading with
  | .plain => plain args texts
  | .key => key args texts
  | .system => system args files texts
  | .source => source args texts
  | .coding => coding c args texts
  | .group => group args texts

end Reattempt.Wording
