import Reattempt.Rehearsal.Step

/-!
# Acts

An act is a part of a step: it works on the bench and on the slots, and may stop. What it did before
it stopped is kept.
-/
namespace Reattempt.Rehearsal

open Backoff

/-- What a slot holds, by its place on the bench. -/
inductive Slot where
  | builder (i : Nat)
  | cursor (i : Nat)
  | callable (i : Nat)
  | sleeper (i : Nat)
  | engine (i : Nat)
  | coroutine (i : Nat)
  | decorated (i : Nat)
  deriving DecidableEq, Repr, Inhabited

structure Session where
  bench : Bench
  slots : List (String × Slot)
  deriving Inhabited

/-- Why a step stops. -/
inductive Stop where
  | noSlot (name : String)
  | fault (f : Fault)
  deriving Inhabited

/-- A part of a step. What it did before it stops is kept. -/
abbrev Act := ExceptT Stop (StateM Session)

namespace Act

def stop {α : Type} (f : Fault) : Act α := throw (.fault f)

def ofExcept {α : Type} : Except Fault α → Act α
  | .ok a => pure a
  | .error f => stop f

def noSlot {α : Type} (name : String) : Act α := throw (.noSlot name)

def bench : Act Bench := return (← get).bench

def setBench (b : Bench) : Act Unit := modify fun s => { s with bench := b }

/-- Runs something on the bench. -/
def onBench {α : Type} (f : Bench → α × Bench) : Act α := do
  let (a, b) := f (← bench)
  setBench b
  return a

def fill (name : String) (slot : Slot) : Act Unit :=
  modify fun s => { s with slots := (name, slot) :: s.slots.filter (·.1 ≠ name) }

def slot (name : String) : Act Slot := do
  match (← get).slots.lookup name with
  | some s => return s
  | none => noSlot name

def builderAt (name : String) : Act (Nat × Builder) := do
  match ← slot name with
  | .builder i =>
    match (← bench).builders[i]? with
    | some b => return (i, b)
    | none => noSlot name
  | _ => noSlot name

def cursorAt (name : String) : Act (Nat × Cursor) := do
  match ← slot name with
  | .cursor i =>
    match (← bench).cursors[i]? with
    | some c => return (i, c)
    | none => noSlot name
  | _ => noSlot name

def sleeperAt (name : String) : Act (Nat × Sleeper) := do
  match ← slot name with
  | .sleeper i =>
    match (← bench).sleepers[i]? with
    | some s => return (i, s)
    | none => noSlot name
  | _ => noSlot name

def engineAt (name : String) : Act (Nat × Engine Nat Wait) := do
  match ← slot name with
  | .engine i =>
    match (← bench).engines[i]? with
    | some e => return (i, e)
    | none => noSlot name
  | _ => noSlot name

def coroutineAt (name : String) : Act Nat := do
  match ← slot name with
  | .coroutine i => return i
  | _ => noSlot name

def decoratedAt (name : String) : Act (Nat × Decorated) := do
  match ← slot name with
  | .decorated i =>
    match (← bench).decorated[i]? with
    | some g => return (i, g)
    | none => noSlot name
  | _ => noSlot name

/-! ## New things on the bench -/

def addCallable (c : Callable) : Act Nat :=
  onBench fun b => (b.callables.length, { b with callables := b.callables ++ [c] })

def addOperation (op : Operation) : Act Nat :=
  onBench fun b => (b.operations.length, { b with operations := b.operations ++ [op] })

def addSleeper (s : Sleeper) : Act Nat :=
  onBench fun b => (b.sleepers.length, { b with sleepers := b.sleepers ++ [s] })

def addBuilder (builder : Builder) : Act Nat :=
  onBench fun b => (b.builders.length, { b with builders := b.builders ++ [builder] })

def addCursor (c : Cursor) : Act Nat :=
  onBench fun b => (b.cursors.length, { b with cursors := b.cursors ++ [c] })

def addCoroutine (k : Coroutine) : Act Nat :=
  onBench fun b => (b.coroutines.length, { b with coroutines := b.coroutines ++ [k] })

def addJudge (j : Judge) : Act Nat :=
  onBench fun b => (b.judges.length, { b with judges := b.judges ++ [j] })

def addNotifier (n : Announcer) : Act Nat :=
  onBench fun b => (b.notifiers.length, { b with notifiers := b.notifiers ++ [n] })

def callableAt (name : String) : Act Nat := do
  match ← slot name with
  | .callable i => return i
  | _ => noSlot name

def callableOf (ref : OperationRef) : Act Nat := do
  match ref with
  | .slot name => callableAt name
  | .plain name =>
    let b ← bench
    let c := (b.callables[← callableAt name]?).getD default
    match b.operations[c.operation]? with
    | some (.scripted s _) =>
      if s.style.isObject then addCallable { c with plain := true }
      else stop (Fault.lacking "function" "sync")
    | _ => addCallable { c with plain := true }
  | .script s =>
    let op ← addOperation (.scripted s 0)
    addCallable ⟨op, false⟩

def sleeperParty (ref : SleeperRef) : Act (Party Nat) := do
  let (i, s) ← match ref with
    | .slot name => sleeperAt name
    | .new s => do pure (← addSleeper s, s)
  return ⟨i, s.display, s.display⟩

def optionsOf (c : Collaborators) : Act (Options Nat) := do
  let judge ← c.judge.mapM addJudge
  let notifier ← c.notifier.mapM addNotifier
  let sleeper ← c.sleeper.mapM sleeperParty
  return ⟨judge, notifier, sleeper⟩

def builderIndex (name : Option String) : Act (Option Nat) :=
  name.mapM fun n => do return (← builderAt n).1

end Act

end Reattempt.Rehearsal
