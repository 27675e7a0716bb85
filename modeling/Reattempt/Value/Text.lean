import Reattempt.Fault.Wording
import Reattempt.Text.Json

/-!
# The text of values and faults

A text is its own text and most other values are their display. The text of a fault is what it says;
that of a complaint is a JSON object of its code, message and detail. JSON has no place for some
keys of dictionaries, and then there is no text, nor is there one for what cannot be shown.
-/
namespace Reattempt

def jsonNumber : Number → Except Fault String
  | .flag true => .ok "true"
  | .flag false => .ok "false"
  | .real .nan => .ok "NaN"
  | .real (.infinite false) => .ok "Infinity"
  | .real (.infinite true) => .ok "-Infinity"
  | n => (Value.num n).shown

/-- A key of a JSON object: a text, or the JSON form of a number or of nothing. -/
def jsonKey : Value → Except Fault String
  | .str s => .ok s
  | .num n => jsonNumber n
  | .none => .ok "null"
  | v => .error (Fault.typeError ("keys must be str, int, float, bool or None, not " ++ v.kind))

def jsonArray (items : List String) : String := "[" ++ commas items ++ "]"

def jsonObject (fields : List (String × String)) : String :=
  braces (commas (fields.map fun f => Text.jsonString f.1 ++ ": " ++ f.2))

mutual

def Value.text : Value → Except Fault String
  | .str s => .ok s
  | .fault f => f.text
  | v => v.shown

/-- JSON for what JSON knows, the text of anything else. -/
def Value.json : Value → Except Fault String
  | .none => .ok "null"
  | .num n => jsonNumber n
  | .str s => .ok (Text.jsonString s)
  | .list vs => (jsonList vs).map jsonArray
  | .tuple vs => (jsonList vs).map jsonArray
  | .dict es => (jsonEntries es).map jsonObject
  | .fault f => f.text.map Text.jsonString
  | v => v.shown.map Text.jsonString

def jsonList : List Value → Except Fault (List String)
  | [] => .ok []
  | v :: vs => do
    let x ← v.json
    let xs ← jsonList vs
    return x :: xs

def jsonEntries : List (Value × Value) → Except Fault (List (String × String))
  | [] => .ok []
  | (k, v) :: es => do
    let name ← jsonKey k
    let x ← v.json
    let xs ← jsonEntries es
    return (name, x) :: xs

def textList : List Value → List (Except Fault String)
  | [] => []
  | v :: vs => v.text :: textList vs

def Fault.text : Fault → Except Fault String
  | .plain c _ args files => Wording.ofClass c args files (textList args)
  | .complaint _ _ message code detail => do
    let c ← code.json
    let m ← message.json
    let d ← detail.json
    return jsonObject [("code", c), ("message", m), ("detail", d)]

end

end Reattempt
