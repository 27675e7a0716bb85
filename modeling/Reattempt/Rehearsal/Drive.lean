import Reattempt.Rehearsal.Act

/-!
# Drives of a rehearsal

An engine is driven to its end, up to a phase in which it is cancelled, or together with others. In
every round each unfinished coroutine runs to its next suspension, in order.
-/
namespace Reattempt.Rehearsal

namespace Act

/-- Waits for something pending, as an event loop does. -/
def settle (b : Bench) (scene : Scene) : Nat → Reply Wait → Except Fault Value × Bench
  | _, .returned v => (.ok v, b)
  | _, .raised x => (.error x, b)
  | 0, .pending .. => (.ok .none, b)
  | fuel + 1, .pending w _ =>
    let (r, b) := b.resume scene w none
    settle b scene fuel r

def settled (f : Bench → Reply Wait × Bench) : Act Value := do
  let b := { (← bench) with looping := true }
  let (r, b) := f b
  let (outcome, b) := settle b ⟨none, none⟩ Bench.patience r
  setBench { b with looping := false }
  ofExcept outcome

def outcomeValue : Outcome → Act Value
  | .returned v => return v
  | .raised x => stop x

/-- Drives an engine: the blocking kind at once, the other by an event loop. -/
def driveEngine (i : Nat) (mode : Mode) : Act Value := do
  match mode with
  | .cooperative => outcomeValue (← onBench (·.run i))
  | .blocking =>
    let (y, _, b) := (← bench).nudge i .unstarted .send
    setBench b
    match y with
    | .ended o => outcomeValue o
    | .suspended => return .none

def yieldAnswer : Yield → Act Answer
  | .suspended => return .suspended
  | .ended (.returned v) => return .returned v
  | .ended (.raised x) => stop x

/-- Steps a coroutine to its end. -/
def exhaust (i : Nat) : Nat → Bench → Outcome × Bench
  | 0, b => (.returned .none, b)
  | fuel + 1, b =>
    match b.step i .send with
    | (.ended o, b) => (o, b)
    | (.suspended, b) => exhaust i fuel b

def cancelled : Fault := .plain .cancelledError .own [] []

/-- Lets an engine run, and cancels it as soon as it is in a phase. -/
def cancelAt (i : Nat) (phase : Phase) : Nat → Progress → Bench → Outcome × Bench
  | 0, _, b => (.returned .none, b)
  | fuel + 1, p, b =>
    let here := (b.engines[i]?).any fun e => e.phase = phase
    match b.nudge i p (if here then .throw cancelled else .send) with
    | (.ended o, _, b) => (o, b)
    | (.suspended, p, b) => cancelAt i phase fuel p b

/-- A drive among several: the engine, where its coroutine stands, and how it ended. -/
structure Lane where
  engine : Nat
  progress : Progress
  outcome : Option Outcome

/-- A fault that stops everything and not only the coroutine it was raised in. -/
def stopsAll : Outcome → Option Fault
  | .raised x => if x.isA .keyboardInterrupt || x.isA .systemExit then some x else none
  | _ => none

/-- One round: every unfinished lane takes one step, in order. -/
def round (n : Nudge) : List Lane → Bench → List Lane × Bench
  | [], b => ([], b)
  | l :: ls, b =>
    if l.outcome.isSome then
      let (ls, b) := round n ls b
      (l :: ls, b)
    else
      let (y, p, b) := b.nudge l.engine l.progress n
      let l := { l with progress := p, outcome := match y with
        | .ended o => some o
        | .suspended => none }
      if (l.outcome.bind stopsAll).isSome then (l :: ls, b)
      else
        let (ls, b) := round n ls b
        (l :: ls, b)

def rounds : Nat → List Lane → Bench → List Lane × Bench
  | 0, ls, b => (ls, b)
  | fuel + 1, ls, b =>
    if ls.all (·.outcome.isSome) then (ls, b)
    else
      let (ls, b) := round .send ls b
      if (ls.findSome? fun l => l.outcome.bind stopsAll).isSome then
        let (ls, b) := round (.throw cancelled) ls b
        rounds fuel ls b
      else rounds fuel ls b

/-- The result of a lane; a cancellation is reported afresh. -/
def laneValue (l : Lane) : Value :=
  match l.outcome with
  | some (.returned v) => v
  | some (.raised x) => if x.cls = .cancelledError then .fault (Fault.saying .cancelledError "") else .fault x
  | none => .none

def gatherAll (engines : List Nat) : Act (Except Fault (List Value)) := do
  let b ← bench
  let refusal := engines.findSome? fun i => (b.engines[i]?).bind fun e =>
    match e.mode, e.ensureFresh with
    | .blocking, _ => some (Fault.lacking e.title "run")
    | _, .error f => some f
    | _, .ok _ => none
  match refusal with
  | some f => return .error f
  | none =>
    let lanes := engines.map fun i => ⟨i, .unstarted, none⟩
    let (lanes, b) := rounds Bench.patience lanes { b with looping := true }
    setBench { b with looping := false }
    match lanes.findSome? fun l => l.outcome.bind stopsAll with
    | some f => return .error f
    | none => return .ok (lanes.map laneValue)

end Act

end Reattempt.Rehearsal
