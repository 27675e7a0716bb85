import Reattempt.Value

/-!
# Groups of faults

A group has a message and at least one member, and every member is a fault. A group of ordinary
faults alone is ordinary.
-/
namespace Reattempt.Group

/-- What counts as a sequence of members. -/
def sequence? : Value → Option (List Value)
  | .dict _ => none
  | v => v.members.toOption

/-- The faults among values; the first that is none is reported by its number. -/
def faultsFrom (i : Nat) : List Value → Except Fault (List Fault)
  | [] => .ok []
  | .fault f :: vs => do return f :: (← faultsFrom (i + 1) vs)
  | _ :: _ => .error (Fault.valueError
      ("Item " ++ toString i ++ " of second argument (exceptions) is not an exception"))

/-- The members of a group with these arguments. -/
def members (args : List Value) : Except Fault (List Fault) := do
  let title := "BaseExceptionGroup.__new__() "
  match args with
  | [.str _, vs] =>
    match sequence? vs with
    | none => throw (Fault.typeError "second argument (exceptions) must be a sequence")
    | some [] =>
      throw (Fault.valueError "second argument (exceptions) must be a non-empty sequence")
    | some vs => faultsFrom 0 vs
  | [message, _] => throw (message.notText title 1)
  | args => throw (Fault.typeError
      (title ++ "takes exactly 2 arguments (" ++ toString args.length ++ " given)"))

/-- The class of a group of these members: ordinary as soon as it can be. -/
def classOf (c : FaultClass) (fs : List Fault) : Except Fault FaultClass :=
  if fs.all (·.isOrdinary) then .ok .exceptionGroup
  else if c = .exceptionGroup then
    .error (Fault.typeError "Cannot nest BaseExceptions in an ExceptionGroup")
  else .ok c

/-- A message with the number of members. -/
def text (message : String) (count : Nat) : String :=
  message ++ " (" ++ toString count ++ " sub-exception" ++ (if count = 1 then "" else "s") ++ ")"

theorem classOf_ordinary {c d : FaultClass} {fs : List Fault} (h : classOf c fs = .ok d)
    (ordinary : ∀ f ∈ fs, f.isOrdinary) : d = .exceptionGroup := by
  have all : fs.all (·.isOrdinary) = true := List.all_eq_true.2 ordinary
  simp only [classOf, all, if_true, Except.ok.injEq] at h
  exact h.symm

end Reattempt.Group
