import Reattempt.Value
import Reattempt.Text.Numeral

/-!
# Displayed values

The display of a value shows its kind and its content, as it would be written down: texts are in
quotes, collections in their brackets, and a fault is its class with its arguments. A whole number
of too many digits cannot be shown, nor can anything that it is displayed in.
-/
namespace Reattempt

/-- Parts with commas between them. -/
def commas (parts : List String) : String := ", ".intercalate parts

/-- A tuple of one member keeps a comma, so that it is no mere bracket. -/
def tupleText : List String → String
  | [part] => "(" ++ part ++ ",)"
  | parts => "(" ++ commas parts ++ ")"

/-- One argument stands in the brackets as it is. -/
def callText (name : String) (parts : List String) : String := name ++ "(" ++ commas parts ++ ")"

def braces (inner : String) : String := "\x7b" ++ inner ++ "\x7d"

mutual

def Value.display : Value → String
  | .none => "None"
  | .num n => n.text
  | .str s => Text.quoted s
  | .bytes bs => Text.quotedBytes bs
  | .list vs => "[" ++ commas (displayList vs) ++ "]"
  | .tuple vs => tupleText (displayList vs)
  | .dict es => braces (commas (displayEntries es))
  | .fault f => f.display
  | .cls c => "<class '" ++ c.path ++ "'>"
  | .ok v => callText "Ok" [v.display]
  | .err v => callText "Err" [v.display]
  | .awaitable _ => "<awaitable>"

def displayList : List Value → List String
  | [] => []
  | v :: vs => v.display :: displayList vs

def displayEntries : List (Value × Value) → List String
  | [] => []
  | (k, v) :: es => (k.display ++ ": " ++ v.display) :: displayEntries es

def Fault.display : Fault → String
  | .plain c _ args _ => callText c.name (displayList args)
  | .complaint k _ message code _ =>
    callText k.name ["code=" ++ code.display, "message=" ++ message.display]

end

/-- Too many digits to be written. -/
def Number.isOverlong : Number → Bool
  | .whole i => Text.maxDigits < (Nat.toDigits 10 i.natAbs).length
  | _ => false

mutual

/-- Whether a number of too many digits is displayed in a value. -/
def Value.isOverlong : Value → Bool
  | .num n => n.isOverlong
  | .list vs => anyOverlong vs
  | .tuple vs => anyOverlong vs
  | .dict es => anyEntryOverlong es
  | .fault f => f.isOverlong
  | .ok v => v.isOverlong
  | .err v => v.isOverlong
  | .none | .str _ | .bytes _ | .cls _ | .awaitable _ => false

def anyOverlong : List Value → Bool
  | [] => false
  | v :: vs => v.isOverlong || anyOverlong vs

def anyEntryOverlong : List (Value × Value) → Bool
  | [] => false
  | (k, v) :: es => k.isOverlong || v.isOverlong || anyEntryOverlong es

def Fault.isOverlong : Fault → Bool
  | .plain _ _ args _ => anyOverlong args
  | .complaint _ _ message code _ => code.isOverlong || message.isOverlong

end

def Fault.overlong : Fault := Fault.valueError (Text.exceeds "")

/-- The display of a value, if it can be shown. -/
def Value.shown (v : Value) : Except Fault String :=
  if v.isOverlong then .error Fault.overlong else .ok v.display

end Reattempt
