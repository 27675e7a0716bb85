import Reattempt.Value

/-!
# Places in a source text

A syntax error says where it was found: in a file, in a line, or in neither. Its second argument
lists the file, the line, the column and the text, and may go on with the line and column where the
error ends.
-/
namespace Reattempt

structure SourcePlace where
  file : Option String
  line : Option Int
  deriving DecidableEq, Repr, Inhabited

namespace SourcePlace

def nowhere : SourcePlace := ⟨none, none⟩

/-- Reads a place from the details of an error. -/
def ofDetails (details : Value) : Except Fault SourcePlace := do
  let parts ← details.members
  let counted (bound most : String) : Fault :=
    Fault.typeError ("function takes at " ++ bound ++ " " ++ most ++ " arguments (" ++
      toString parts.length ++ " given)")
  match parts with
  | file :: line :: _ :: _ :: ends =>
    if 2 < ends.length then throw (counted "most" "6")
    if ends.length = 1 then
      throw (Fault.typeError "end_offset must be provided when end_lineno is provided")
    return {
      file := match file with
        | .str s => some s
        | _ => none
      line := match line with
        | .num (.whole i) => some i
        | _ => none }
  | _ => throw (counted "least" "4")

/-- The place that a syntax error with these arguments is at. -/
def ofArguments : List Value → Except Fault SourcePlace
  | [_, details] => ofDetails details
  | _ => .ok nowhere

/-- The part of a path after its last slash. -/
def baseName (path : String) : String :=
  String.ofList ((path.toList.reverse.takeWhile (· ≠ '/')).reverse)

/-- A line too far to be counted is shown as minus one. -/
def lineText (i : Int) : String := toString (if Value.isIndex i then i else -1)

/-- A message with the place after it. -/
def text (p : SourcePlace) (message : String) : String :=
  match p.file, p.line with
  | none, none => message
  | some f, none => message ++ " (" ++ baseName f ++ ")"
  | none, some n => message ++ " (line " ++ lineText n ++ ")"
  | some f, some n => message ++ " (" ++ baseName f ++ ", line " ++ lineText n ++ ")"

@[simp] theorem text_nowhere (message : String) : nowhere.text message = message := rfl

end SourcePlace

end Reattempt
