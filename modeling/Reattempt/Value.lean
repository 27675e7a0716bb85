import Reattempt.Fault.Class
import Reattempt.Number

/-!
# Values and faults

What operations take, return and raise. Values may hold faults and faults hold values, so both are
defined together.
-/
namespace Reattempt

/-- What tells one fault from another of the same content. -/
inductive Identity where
  /-- Raised by the library itself. -/
  | own
  /-- The `n`-th fault that a caller handed in. -/
  | given (n : Nat)
  /-- The `n`-th fault that the operation `source` made from a class. -/
  | minted (source n : Nat)
  deriving DecidableEq, Repr, Inhabited

mutual

inductive Value where
  | none
  | num (n : Number)
  | str (s : String)
  | bytes (bs : List UInt8)
  | list (vs : List Value)
  | tuple (vs : List Value)
  /-- Entries in the order of their first insertion. -/
  | dict (entries : List (Value × Value))
  | fault (f : Fault)
  | cls (c : FaultClass)
  | ok (v : Value)
  | err (v : Value)
  /-- Something to wait for, which resolves to `v`. -/
  | awaitable (v : Value)

inductive Fault where
  /-- A fault with its arguments. A system error may be about files, which are not among them. -/
  | plain (cls : FaultClass) (id : Identity) (args files : List Value)
  | complaint (kind : Complaint) (id : Identity) (message code detail : Value)

end

instance : Inhabited Value := ⟨.none⟩
instance : Inhabited Fault := ⟨.plain .exception .own [] []⟩

namespace Fault

def cls : Fault → FaultClass
  | .plain c .. => c
  | .complaint k .. => .complaint k

def id : Fault → Identity
  | .plain _ i .. => i
  | .complaint _ i .. => i

/-- The arguments a fault was raised with; of a complaint, its message. -/
def args : Fault → List Value
  | .plain _ _ as _ => as
  | .complaint _ _ m _ _ => [m]

def isA (f : Fault) (c : FaultClass) : Bool := f.cls.isA c

def isOrdinary (f : Fault) : Bool := f.cls.isOrdinary

/-- A fault with a message. -/
def saying (c : FaultClass) (message : String) : Fault := .plain c .own [.str message] []

def typeError (message : String) : Fault := saying .typeError message
def valueError (message : String) : Fault := saying .valueError message
def overflowError (message : String) : Fault := saying .overflowError message
def attributeError (message : String) : Fault := saying .attributeError message
def runtimeError (message : String) : Fault := saying .runtimeError message

/-- A place that a list does not have. -/
def outOfRange : Fault := saying .indexError "list index out of range"

/-- Something that is called although it cannot be. -/
def uncallable (kind : String) : Fault := typeError ("'" ++ kind ++ "' object is not callable")

/-- A whole number too large for the nearest binary number to be finite. -/
def unconvertible : Fault := overflowError "int too large to convert to float"

/-- An object of a kind that has no such member. -/
def lacking (kind member : String) : Fault :=
  attributeError ("'" ++ kind ++ "' object has no attribute '" ++ member ++ "'")

/-- Something else where a whole number is needed. -/
def notWhole (kind : String) : Fault :=
  typeError ("'" ++ kind ++ "' object cannot be interpreted as an integer")

@[simp] theorem cls_saying (c : FaultClass) (m : String) : (saying c m).cls = c := rfl

theorem eq_error_of_map {α β : Type} {r : Except Fault α} {f : α → β} {x : Fault} (h : r.map f = .error x) :
    r = .error x := by
  cases r with
  | error y => cases h; rfl
  | ok a => cases h

section Bind

variable {α β : Type} {r : Except Fault α} {f : α → Except Fault β}

theorem bind_eq_ok {b : β} (h : r >>= f = .ok b) : ∃ a, r = .ok a ∧ f a = .ok b := by
  cases r with
  | error x => cases h
  | ok a => exact ⟨a, rfl, h⟩

theorem bind_eq_error {x : Fault} (h : r >>= f = .error x) : r = .error x ∨ ∃ a, r = .ok a ∧ f a = .error x := by
  cases r with
  | error y => cases h; exact .inl rfl
  | ok a => exact .inr ⟨a, rfl, h⟩

theorem exists_bind_eq_error (h : ∀ a, r = .ok a → ∃ x, f a = .error x) : ∃ x, r >>= f = .error x := by
  cases r with
  | error y => exact ⟨y, rfl⟩
  | ok a => exact h a rfl

theorem exists_bind_eq_error_of_left (h : ∃ x, r = .error x) : ∃ x, r >>= f = .error x := by
  obtain ⟨x, rfl⟩ := h
  exact ⟨x, rfl⟩

end Bind

end Fault

namespace Value

def int (i : Int) : Value := .num (.whole i)
def bool (b : Bool) : Value := .num (.flag b)
def real (x : Binary64) : Value := .num (.real x)

/-- The name of a value's kind. -/
def kind : Value → String
  | .none => "NoneType"
  | .num (.flag _) => "bool"
  | .num (.whole _) => "int"
  | .num (.real _) => "float"
  | .str _ => "str"
  | .bytes _ => "bytes"
  | .list _ => "list"
  | .tuple _ => "tuple"
  | .dict _ => "dict"
  | .fault f => f.cls.name
  | .cls _ => "type"
  | .ok _ => "Ok"
  | .err _ => "Err"
  | .awaitable _ => "Awaitable"

/-- Whether a value can change after it is made. -/
def isMutable : Value → Bool
  | .list _ => true
  | .dict _ => true
  | _ => false

/-- Nothing, zero and what is empty do not count as true. -/
def isTruthy : Value → Bool
  | .none => false
  | .num n => n.isTruthy
  | .str s => s ≠ ""
  | .bytes bs => !bs.isEmpty
  | .list vs => !vs.isEmpty
  | .tuple vs => !vs.isEmpty
  | .dict es => !es.isEmpty
  | _ => true

/-- The value, or the default where it does not count as true. -/
def orElse (v default : Value) : Value := if v.isTruthy then v else default

/-- A value without such a member; a class is called by its name. -/
def lacks (v : Value) (member : String) : Fault :=
  match v with
  | .cls c => Fault.attributeError
      ("type object '" ++ c.name ++ "' has no attribute '" ++ member ++ "'")
  | v => Fault.lacking v.kind member

/-- The complaint about argument number `n` of a call, which has to be a text. -/
def notText (title : String) (n : Nat) (v : Value) : Fault :=
  let kind := match v with
    | .none => "None"
    | v => v.kind
  Fault.typeError (title ++ "argument " ++ toString n ++ " must be str, not " ++ kind)

/-- The members of what can be iterated over. -/
def members : Value → Except Fault (List Value)
  | .list vs => .ok vs
  | .tuple vs => .ok vs
  | .str s => .ok (s.toList.map fun c => .str c.toString)
  | .bytes bs => .ok (bs.map fun b => int b.toNat)
  | .dict es => .ok (es.map (·.1))
  | v => .error (Fault.typeError ("'" ++ v.kind ++ "' object is not iterable"))

/-- The whole number that a value is. -/
def whole : Value → Except Fault Int
  | .num n => (n.int?).elim (.error (Fault.notWhole (num n).kind)) .ok
  | v => .error (Fault.notWhole v.kind)

/-- The bound of what counts places in memory. -/
def indexBound : Int := 9223372036854775808

def isIndex (i : Int) : Bool := -indexBound ≤ i && i < indexBound

/-- A whole number that counts places in memory. -/
def index (v : Value) : Except Fault Int := do
  let i ← v.whole
  if isIndex i then return i
  else throw (Fault.overflowError "Python int too large to convert to C ssize_t")

end Value

end Reattempt
