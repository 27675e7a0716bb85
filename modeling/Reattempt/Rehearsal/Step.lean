import Reattempt.Rehearsal.Bench

/-!
# Steps of a rehearsal

What a rehearsal can be told to do, and what it answers. Steps share named slots.
-/
namespace Reattempt.Rehearsal

open Backoff

/-- An operation in a slot, the plain form of one, or a new one. -/
inductive OperationRef where
  | slot (name : String)
  | plain (name : String)
  | script (s : Script)
  deriving Inhabited

inductive BuilderSpec where
  | policy (s : Strategy) (parameters : Keywords)
  | scripted (parameters : Keywords)
  | items (is : List Item)
  deriving Inhabited

inductive SleeperRef where
  | slot (name : String)
  | new (s : Sleeper)
  deriving Inhabited

/-- What is replaced when an engine is reconfigured. -/
inductive Change where
  | judge (j : Option Judge)
  | notifier (n : Option Announcer)
  | sleeper (s : Option SleeperRef)
  deriving Inhabited

/-- The collaborators of a new engine or decorated function. -/
structure Collaborators where
  judge : Option Judge
  notifier : Option Announcer
  sleeper : Option SleeperRef
  deriving Inhabited

inductive Step where
  | builder (into : String) (spec : BuilderSpec)
  | change (into builder method : String) (args : List Value)
  | assign (builder field : String) (v : Value)
  | fields (builder : String)
  | equal (a b : String)
  | build (into builder : String)
  | iterate (into : String) (delays : Value)
  | next (cursor : String) (count : Nat)
  | cursor (name : String)
  | built (builder : String)
  | flaky (into : String) (parameters : Keywords)
  | operation (into : String) (op : OperationRef)
  | hit (op : OperationRef) (args : List Value) (keywords : Keywords)
  | received (op : OperationRef)
  | sleeper (into : String) (s : SleeperRef)
  | doze (sleeper : String) (delay : Value)
  | reset (sleeper : String)
  | clock (sleeper : String)
  | retry (into : String) (mode : Mode) (op : OperationRef) (builder : Option String)
      (args : List Value) (keywords : Keywords)
  | engine (into : String) (mode : Mode) (op : OperationRef) (cursor : String)
      (args : List Value) (keywords : Keywords) (with_ : Collaborators)
  | reconfigure (into engine : String) (c : Change)
  | state (engine : String)
  | sleeperOf (engine : String)
  | call (engine : String) (direct : Bool)
  | await (engine : String)
  | run (into engine : String)
  | nudge (coroutine : String) (n : Nudge)
  | cancel (engine : String) (at_ : Phase)
  | gather (engines : List String)
  | decorate (into : String) (op : OperationRef) (builder : Option String) (with_ : Collaborators)
  | invoke (function : String) (args : List Value) (keywords : Keywords) (into : Option String)
  /-- A step that cannot be made sense of, with the slots it is about and would fill. -/
  | refused (subject into : Option String) (f : Fault)
  deriving Inhabited

/-- What is seen of an engine. -/
structure Sight where
  phase : Phase
  attempts : Nat
  isDone : Bool
  display : String
  deriving Inhabited

def sight (e : Engine Nat Wait) : Sight := ⟨e.phase, e.attempts, e.isDone, e.display⟩

inductive Answer where
  | value (v : Value)
  | nothing
  | failed (f : Fault)
  | noSlot (name : String)
  | advances (as : List (Except Fault (Option Value)))
  | cursor (advances : Nat) (isExhausted : Bool)
  | built (cursors : List (Nat × Bool))
  | neverBuilt (f : Fault)
  | equality (equal sameHash : Bool)
  | fields (fs : Keywords)
  | received (calls : List (List Value × Keywords))
  | clock (now : Value) (delays : List Value)
  | suspended
  | returned (v : Value)
  | gathered (results : Except Fault (List Value)) (engines : List Sight)
  | decorated (name : String) (doc : Option String) (isCoroutine : Bool)
  deriving Inhabited

/-- The answer of a step with what was seen during it and of the engines it names. -/
structure Report where
  answer : Answer
  events : List Event
  engine : Option Sight
  successor : Option Sight
  deriving Inhabited

namespace Step

/-- The slot of the engine or coroutine that a step is about. -/
def subject? : Step → Option String
  | .reconfigure _ e _ => some e
  | .state e => some e
  | .sleeperOf e => some e
  | .call e _ => some e
  | .await e => some e
  | .run _ e => some e
  | .nudge k _ => some k
  | .cancel e _ => some e
  | .refused subject _ _ => subject
  | _ => none

/-- The slot that a step fills. -/
def into? : Step → Option String
  | .builder into _ => some into
  | .change into .. => some into
  | .build into _ => some into
  | .iterate into _ => some into
  | .flaky into _ => some into
  | .operation into _ => some into
  | .sleeper into _ => some into
  | .retry into .. => some into
  | .engine into .. => some into
  | .reconfigure into .. => some into
  | .run into _ => some into
  | .decorate into .. => some into
  | .invoke _ _ _ into => into
  | .refused _ into _ => into
  | _ => none

end Step

end Reattempt.Rehearsal
