import Reattempt.Value

/-!
# System errors

A system error has a number and a message, and may be about one file or two. A bare system error
with a known number is of the narrower class of that number. An operation that would block may say
how much it has written in the place of a file.
-/
namespace Reattempt.SystemError

/-- A number and a message, with up to three more arguments. -/
def isNumbered (args : List Value) : Bool := 2 ≤ args.length && args.length ≤ 5

/-- The class of a system error of a number. -/
def narrowed (c : FaultClass) (number : Value) : FaultClass :=
  match c, number with
  | .osError, .num n => (n.int?.bind FaultClass.ofErrorNumber?).getD .osError
  | c, _ => c

/-- Checks that an amount can be counted. -/
def checkAmount (n : Number) : Except Fault Unit := do
  let i ← (Value.num n).whole
  if !Value.isIndex i then
    throw (Fault.valueError "cannot fit 'int' into an index-sized integer")

/-- The files among the arguments after the message; the argument between them means nothing. -/
def filesIn (c : FaultClass) : List Value → Except Fault (List Value)
  | [] => .ok []
  | .none :: _ => .ok []
  | file :: others =>
    match c, file, others with
    | .blockingIOError, .num n, _ => (checkAmount n).map fun _ => []
    | _, file, [_, .none] => .ok [file]
    | _, file, [_, second] => .ok [file, second]
    | _, file, _ => .ok [file]

/-- A new system error. If it is about files, it keeps only the number and the message besides. -/
def make (c : FaultClass) (id : Identity) (args : List Value) : Except Fault Fault :=
  match args with
  | number :: message :: more =>
    if isNumbered args then do
      let c := narrowed c number
      match ← filesIn c more with
      | [] => return .plain c id args []
      | files => return .plain c id [number, message] files
    else .ok (.plain c id args [])
  | args => .ok (.plain c id args [])

/-- The text of a numbered error, given those of its number and message and its displayed files. -/
def text (number message : String) (files : List String) : String :=
  "[Errno " ++ number ++ "] " ++ message ++
  match files with
  | [] => ""
  | files => ": " ++ " -> ".intercalate files

end Reattempt.SystemError
