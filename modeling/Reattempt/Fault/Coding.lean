import Reattempt.Text.Quoted
import Reattempt.Value

/-!
# Coding faults

A text that cannot be encoded or translated, or bytes that cannot be decoded. A coding fault says
which part it is about, and shows it if it is a single unit.
-/
namespace Reattempt

/-- What cannot be coded, with the name of the code. -/
inductive CodingSubject where
  | decoded (code : String) (bs : List UInt8)
  | encoded (code : String) (s : String)
  | translated (s : String)
  deriving DecidableEq, Repr, Inhabited

/-- The part of a subject from `start` up to `stop`, and why it cannot be coded. -/
structure Coding where
  subject : CodingSubject
  start : Int
  stop : Int
  reason : String
  deriving DecidableEq, Repr, Inhabited

namespace Coding

def textArgument (n : Nat) : Value → Except Fault String
  | .str s => .ok s
  | v => .error (v.notText "" n)

def bytesArgument : Value → Except Fault (List UInt8)
  | .bytes bs => .ok bs
  | v => .error (Fault.typeError ("a bytes-like object is required, not '" ++ v.kind ++ "'"))

def wrongCount (expected given : Nat) : Fault :=
  Fault.typeError ("function takes exactly " ++ toString expected ++ " arguments (" ++
    toString given ++ " given)")

/-- Reads the arguments of a coding fault in turn; only then are the bytes looked at. Any other
class has no such meaning. -/
def ofArguments (c : FaultClass) (args : List Value) : Except Fault (Option Coding) := do
  match c, args with
  | .unicodeDecodeError, [code, object, start, stop, reason] =>
    let code ← textArgument 1 code
    let start ← start.index
    let stop ← stop.index
    let reason ← textArgument 5 reason
    return some ⟨.decoded code (← bytesArgument object), start, stop, reason⟩
  | .unicodeEncodeError, [code, object, start, stop, reason] =>
    let code ← textArgument 1 code
    let object ← textArgument 2 object
    let start ← start.index
    let stop ← stop.index
    return some ⟨.encoded code object, start, stop, ← textArgument 5 reason⟩
  | .unicodeTranslateError, [object, start, stop, reason] =>
    let object ← textArgument 1 object
    let start ← start.index
    let stop ← stop.index
    return some ⟨.translated object, start, stop, ← textArgument 4 reason⟩
  | .unicodeDecodeError, args => throw (wrongCount 5 args.length)
  | .unicodeEncodeError, args => throw (wrongCount 5 args.length)
  | .unicodeTranslateError, args => throw (wrongCount 4 args.length)
  | _, _ => return none

/-- The position of the only unit that the fault is about, if there is just one before the end. -/
def single? (p : Coding) (length : Nat) : Option Int :=
  if p.stop = p.start + 1 ∧ p.start < length then some p.start else none

def positions (p : Coding) : String := toString p.start ++ "-" ++ toString (p.stop - 1)

/-- What part of a text the fault is about. A position before the text has no character. -/
def characterText (p : Coding) (s : String) : Except Fault String :=
  match p.single? s.length with
  | none => .ok ("characters in position " ++ p.positions)
  | some i =>
    if i < 0 then .error (Fault.saying .indexError "string index out of range")
    else
      let unit := (s.toList[i.toNat]?).getD ' '
      .ok ("character '" ++ String.ofList (Text.numericEscape unit.toNat) ++ "' in position " ++ toString i)

def byteText (p : Coding) (bs : List UInt8) : String :=
  match p.single? bs.length with
  | none => "bytes in position " ++ p.positions
  | some i =>
    let unit := (bs[i.toNat]?).getD 0
    "byte 0x" ++ String.ofList (Text.hexDigits 2 unit.toNat) ++ " in position " ++ toString i

def text (p : Coding) : Except Fault String :=
  match p.subject with
  | .decoded code bs =>
    .ok ("'" ++ code ++ "' codec can't decode " ++ p.byteText bs ++ ": " ++ p.reason)
  | .encoded code s => do
    return "'" ++ code ++ "' codec can't encode " ++ (← p.characterText s) ++ ": " ++ p.reason
  | .translated s => do return "can't translate " ++ (← p.characterText s) ++ ": " ++ p.reason

end Coding

end Reattempt
