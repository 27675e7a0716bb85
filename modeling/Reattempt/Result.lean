import Reattempt.Value.Display
import Reattempt.Value.Equality

/-!
# Results

An operation that reports failure as a value returns an error result; a success may be marked as
one. A result is read by its methods and cannot be changed.
-/
namespace Reattempt

inductive Result where
  | ok (v : Value)
  | err (e : Value)
  deriving Inhabited

namespace Result

def ofValue? : Value → Option Result
  | .ok v => some (.ok v)
  | .err e => some (.err e)
  | _ => none

def toValue : Result → Value
  | .ok v => .ok v
  | .err e => .err e

def payload : Result → Value
  | .ok v => v
  | .err e => e

def name : Result → String
  | .ok _ => "Ok"
  | .err _ => "Err"

/-- Whether a result takes another value for its equal: it is that value's payload which is compared. -/
def equals : Result → Value → Bool
  | .ok v, .ok w => w.eq v
  | .err e, .err f => f.eq e
  | _, _ => false

def isOk : Result → Bool
  | .ok _ => true
  | .err _ => false

def value : Result → Except Fault Value
  | .ok v => .ok v
  | r => .error (Fault.lacking r.name "value")

def error : Result → Except Fault Value
  | .err e => .ok e
  | r => .error (Fault.lacking r.name "error")

/-- The value; an error that is a fault is raised, any other is reported by a fault. -/
def unwrap : Result → Except Fault Value
  | .ok v => .ok v
  | .err (.fault f) => .error f
  | .err e => do throw (Fault.valueError ("called unwrap() on " ++ (← (Value.err e).shown)))

def unwrapOr (default : Value) : Result → Value
  | .ok v => v
  | .err _ => default

/-- Applies a function to the value of a success; an error is left alone. -/
def map (f : Value → Except Fault Value) : Result → Except Fault Result
  | .ok v => (f v).map .ok
  | .err e => .ok (.err e)

/-- The field that holds the content. -/
def slot : Result → String
  | .ok _ => "_value"
  | .err _ => "_error"

def property : Result → String
  | .ok _ => "value"
  | .err _ => "error"

def methods : List String := ["is_ok", "is_err", "unwrap", "unwrap_or", "map"]

/-- Members that every object has, and those that the class of a result adds. -/
def inherited : List String := [
  "__class_getitem__", "__delattr__", "__dir__", "__doc__", "__eq__", "__format__", "__ge__",
  "__getattribute__", "__getstate__", "__gt__", "__hash__", "__init__", "__init_subclass__", "__le__",
  "__lt__", "__module__", "__ne__", "__new__", "__orig_bases__", "__parameters__", "__reduce__",
  "__reduce_ex__", "__repr__", "__setattr__", "__sizeof__", "__slots__", "__str__",
  "__subclasshook__", "_is_protocol"]

/-- Why a result cannot become an object of another class. -/
def refusedClass (r : Result) (v : Value) : Fault :=
  match v with
  | .cls c => Fault.typeError (if c.isBuiltIn
      then "__class__ assignment only supported for mutable types or ModuleType subclasses"
      else "__class__ assignment: '" ++ c.name ++ "' object layout differs from '" ++ r.name ++ "'")
  | v => Fault.typeError ("__class__ must be set to a class, not '" ++ v.kind ++ "' object")

/-- Assigns a member: only the field that holds the content can be assigned. -/
def assign (r : Result) (member : String) (v : Value) : Except Fault Result :=
  if member = r.slot then
    .ok (match r with
      | .ok _ => .ok v
      | .err _ => .err v)
  else if member = r.property then
    .error (Fault.attributeError
      ("property '" ++ member ++ "' of '" ++ r.name ++ "' object has no setter"))
  else if member = "__class__" then .error (r.refusedClass v)
  else if member ∈ methods ∨ member ∈ inherited then
    .error (Fault.attributeError
      ("'" ++ r.name ++ "' object attribute '" ++ member ++ "' is read-only"))
  else .error (Fault.lacking r.name member)

@[simp] theorem ofValue?_toValue (r : Result) : ofValue? r.toValue = some r := by
  cases r <;> rfl

end Result

namespace Value

/-- Twice a number, or a text or collection after itself. -/
def double : Value → Except Fault Value
  | .num n => .ok (.num (n * 2))
  | .str s => .ok (.str (s ++ s))
  | .bytes bs => .ok (.bytes (bs ++ bs))
  | .list vs => .ok (.list (vs ++ vs))
  | .tuple vs => .ok (.tuple (vs ++ vs))
  | v => .error (Fault.typeError ("unsupported operand type(s) for *: '" ++ v.kind ++ "' and 'int'"))

def length : Value → Except Fault Value
  | .str s => .ok (int s.length)
  | .bytes bs => .ok (int bs.length)
  | .list vs => .ok (int vs.length)
  | .tuple vs => .ok (int vs.length)
  | .dict es => .ok (int es.length)
  | v => .error (Fault.typeError ("object of type '" ++ v.kind ++ "' has no len()"))

end Value

end Reattempt
