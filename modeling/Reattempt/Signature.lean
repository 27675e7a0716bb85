import Reattempt.Value.Display

/-!
# Signatures

What a callable accepts, and how given arguments are bound to its parameters. Keywords that fit no
parameter are refused first, then positional arguments that are too many, then parameters that are
left without a value.
-/
namespace Reattempt

structure Parameter where
  name : String
  default? : Option Value
  keywordOnly : Bool

/-- A callable; `receiver` says whether it is called on an object, which counts as an argument. -/
structure Signature where
  title : String
  receiver : Bool
  parameters : List Parameter
  /-- Whether further keywords are collected. -/
  collects : Bool

abbrev Keywords := List (String × Value)

namespace Signature

def required (name : String) : Parameter := ⟨name, none, false⟩

def optional (name : String) (default : Value) : Parameter := ⟨name, some default, false⟩

def keyword (name : String) (default : Value) : Parameter := ⟨name, some default, true⟩

def positional (s : Signature) : List Parameter := s.parameters.filter (!·.keywordOnly)

def complain (s : Signature) (rest : String) : Fault := Fault.typeError (s.title ++ "() " ++ rest)

def quotedName (name : String) : String := "'" ++ name ++ "'"

/-- Names in quotes; the last two are joined by a conjunction. -/
def listed : List String → String
  | [] => ""
  | [a] => quotedName a
  | [a, b] => quotedName a ++ " and " ++ quotedName b
  | names => commas (names.dropLast.map quotedName) ++ ", and " ++
      quotedName (names.getLastD "")

def plural (n : Nat) : String := if n = 1 then "argument" else "arguments"

/-- The complaint about more positional arguments than parameters, with `named` keyword-only ones. -/
def tooMany (s : Signature) (given named : Nat) : Fault :=
  let extra := if s.receiver then 1 else 0
  let most := s.positional.length + extra
  let least := (s.positional.filter (·.default?.isNone)).length + extra
  let range := if least = most then toString most ++ " positional " ++ plural most
    else "from " ++ toString least ++ " to " ++ toString most ++ " positional arguments"
  let n := given + extra
  let besides := if named = 0 then ""
    else " positional " ++ plural n ++ " (and " ++ toString named ++ " keyword-only " ++ plural named ++ ")"
  s.complain ("takes " ++ range ++ " but " ++ toString n ++ besides ++
    (if n = 1 && named = 0 then " was" else " were") ++ " given")

def missing (s : Signature) (names : List String) : Fault :=
  s.complain ("missing " ++ toString names.length ++ " required positional " ++
    plural names.length ++ ": " ++ listed names)

/-- Whether a keyword names the object itself, which no other parameter may be named like. -/
def isReceiver (s : Signature) (name : String) : Bool :=
  s.receiver && name = "self" && s.parameters.all (·.name ≠ name)

/-- The first keyword that no parameter takes, or that a positional argument or the object has taken
already. -/
def refused? (s : Signature) (args : List Value) (keywords : Keywords) : Option Fault :=
  keywords.findSome? fun (k, _) =>
    if s.isReceiver k || (s.positional.take args.length).any (·.name = k) then
      some (s.complain ("got multiple values for argument " ++ quotedName k))
    else if s.collects || s.parameters.any (·.name = k) then none
    else some (s.complain ("got an unexpected keyword argument " ++ quotedName k))

def valueOf? (keywords : Keywords) (p : Parameter) : Option Value :=
  (keywords.lookup p.name).or p.default?

/-- The values of all parameters, in order. -/
def bind (s : Signature) (args : List Value) (keywords : Keywords) : Except Fault (List Value) :=
  match s.refused? args keywords with
  | some fault => .error fault
  | none =>
    if s.positional.length < args.length then
      let named := s.parameters.filter fun p => p.keywordOnly && (keywords.lookup p.name).isSome
      .error (s.tooMany args.length named.length)
    else
      let rest := s.positional.drop args.length ++ s.parameters.filter (·.keywordOnly)
      let lacking := rest.filter fun p => (valueOf? keywords p).isNone
      if lacking.isEmpty then .ok (args ++ rest.filterMap (valueOf? keywords))
      else .error (s.missing (lacking.map (·.name)))

/-- Values bound before, with those given besides; a name keeps its first place. -/
def merge (bound given : Keywords) : Keywords :=
  bound.map (fun (k, v) => (k, (given.lookup k).getD v)) ++
    given.filter fun (k, _) => (bound.lookup k).isNone

end Signature

end Reattempt
