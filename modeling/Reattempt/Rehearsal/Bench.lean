import Reattempt.Backoff.Builder
import Reattempt.Engine.Retryable
import Reattempt.Notice.Stock
import Reattempt.Rehearsal.Operation
import Reattempt.Rehearsal.Sleeper
import Reattempt.Value.Equality

/-!
# The bench of a rehearsal

A bench holds everything that a rehearsal works with, and what its collaborators have seen. It is
the surroundings in which engines are driven.
-/
namespace Reattempt.Rehearsal

open Backoff

inductive Event where
  | debug (line : Except Fault String)
  | call (args : List Value) (keywords : Keywords) (phase : Option Phase)
  | opAborted (cls : String)
  | when (error : Value) (phase : Option Phase)
  | notify (error delay : Value) (phase : Option Phase)
  | sleep (delay : Value) (phase : Option Phase)
  | slept (phase : Option Phase)
  | sleepAborted (cls : String)
  | log (n : Notice)
  deriving Inhabited

inductive Judge where
  /-- The values in turn; the last repeats. -/
  | values (vs : List Value)
  | isa (classes : List FaultClass)
  | eq (v : Value)
  | raise (f : Fault)
  | reenter (m : Reentry)
  deriving Inhabited

inductive Announcer where
  | record
  /-- Raises from call number `after + 1` on. -/
  | raise (f : Fault) (after : Nat)
  | reenter (m : Reentry)
  | log (n : Scribe)
  deriving Inhabited

/-- A way to call an operation; a flaky one has a plain form and one to wait for. -/
structure Callable where
  operation : Nat
  plain : Bool
  deriving Inhabited

structure Decorated where
  callable : Nat
  mode : Mode
  builder : Option Nat
  options : Options Nat
  deriving Inhabited

/-- Where a coroutine comes from: an engine, or a call of a decorated function, which makes its
engine on the first step. -/
inductive Origin where
  | engine (e : Nat)
  | call (g args : Nat) (e : Option Nat)
  deriving Inhabited

namespace Origin

/-- The engine, once it is made. -/
def engine? : Origin → Option Nat
  | .engine e => some e
  | .call _ _ e => e

def withEngine (e : Option Nat) : Origin → Origin
  | .engine i => .engine i
  | .call g a _ => .call g a e

end Origin

structure Coroutine where
  origin : Origin
  progress : Progress
  deriving Inhabited

structure Bench where
  operations : List Operation
  callables : List Callable
  arguments : List (List Value × Keywords)
  cursors : List Cursor
  builders : List Builder
  judges : List Judge
  notifiers : List Announcer
  sleepers : List Sleeper
  engines : List (Engine Nat Wait)
  coroutines : List Coroutine
  decorated : List Decorated
  /-- What has been seen, the latest first. -/
  events : List Event
  /-- Whether the log lines of engines are seen. -/
  verbose : Bool
  /-- Whether phases are seen. -/
  phased : Bool
  /-- Whether an event loop is running, so that timers can be waited for. -/
  looping : Bool
  deriving Inhabited

/-- What surrounds the call of an operation: the phase it sees, and the engine it may re-enter. -/
structure Scene where
  phase : Option Phase
  engine : Option (Engine Nat Wait)

/-- A call by a collaborator on the engine that is calling it. -/
def Reentry.on (m : Reentry) (e : Engine Nat Wait) : Except Fault Value :=
  match m, e.mode with
  | .display, _ => .ok (.str e.display)
  | .when, _ => (e.reconfigure (Setup.withJudge none)).map fun _ => .none
  | .sleep, _ => (e.reconfigure (Setup.withSleeper none)).map fun _ => .none
  | .call, .blocking => e.ensureFresh.map fun _ => .none
  | .call, .cooperative => .error (Fault.lacking e.title "call")
  | .run, .cooperative => e.ensureFresh.map fun _ => .none
  | .run, .blocking => .error (Fault.lacking e.title "run")

def Reentry.method : Reentry → String
  | .call => "call"
  | .run => "run"
  | .when => "when"
  | .sleep => "sleep"
  | .display => "repr"

def Scene.reenter (s : Scene) (m : Reentry) : Except Fault Value :=
  match s.engine with
  | some e => m.on e
  | none =>
    if m = .display then .ok (.str Value.none.display)
    else .error (Fault.lacking Value.none.kind m.method)

def Scene.react (s : Scene) : Reaction → Except Fault Value
  | .ret v => .ok v
  | .raise f => .error f
  | .reenter m => s.reenter m

/-- What a call has come to; a value to wait for is pending. -/
def replyOf : Except Fault Value → Reply Wait
  | .ok (.awaitable v) => .pending (.resolved v) none
  | .ok v => .returned v
  | .error x => .raised x

/-- What waiting has come to. -/
def resultOf (what : String) : Except Fault Value → Reply Wait
  | .ok v => .returned v
  | .error x => .raised (x.leaving what)

/-- What leaves something resumable, and so what its faults are reported by. -/
def Style.frame : Style → String
  | .awaitable => "generator"
  | _ => "coroutine"

def SleeperStyle.frame : SleeperStyle → String
  | .awaitable => "generator"
  | _ => "coroutine"

namespace Bench

def empty (verbose : Bool) : Bench where
  operations := []
  callables := []
  arguments := []
  cursors := []
  builders := []
  judges := []
  notifiers := []
  sleepers := []
  engines := []
  coroutines := []
  decorated := []
  events := []
  verbose := verbose
  phased := false
  looping := false

def emit (ev : Event) (b : Bench) : Bench := { b with events := ev :: b.events }

def phaseOf (b : Bench) (e : Engine Nat Wait) : Option Phase := if b.phased then some e.phase else none

def sceneOf (b : Bench) (e : Engine Nat Wait) : Scene := ⟨b.phaseOf e, if b.phased then some e else none⟩

def argumentsAt (b : Bench) (a : Nat) : List Value × Keywords := (b.arguments[a]?).getD ([], [])

/-! ## Operations -/

/-- The first argument, if it is a list, gets another member. -/
def mutate (i : Nat) : List Value → List Value
  | .list vs :: rest => .list (vs ++ [.int i]) :: rest
  | args => args

/-- A scripted operation begins: the call is seen and counted. -/
def enter (b : Bench) (scene : Scene) (op a : Nat) (s : Script) (n : Nat) : Reaction × Bench :=
  let (args, keywords) := b.argumentsAt a
  let b := b.emit (.call args keywords scene.phase)
  let b := { b with operations := b.operations.set op (.scripted s (n + 1)) }
  let b := if s.mutates then { b with arguments := b.arguments.set a (mutate n args, keywords) } else b
  (s.reaction n, b)

def callFlaky (b : Bench) (op a : Nat) (f : Flaky) : Except Fault Value × Bench :=
  let (args, keywords) := b.argumentsAt a
  let (outcome, f) := f.invoke true op args keywords
  (outcome, { b with operations := b.operations.set op (.flaky f) })

def invoke (b : Bench) (scene : Scene) (callable a : Nat) : Reply Wait × Bench :=
  let c := (b.callables[callable]?).getD default
  match b.operations[c.operation]? with
  | none => (.returned .none, b)
  | some (.flaky f) =>
    if c.plain then
      let (outcome, b) := b.callFlaky c.operation a f
      (replyOf outcome, b)
    else
      -- A coroutine is refused when it is made, and otherwise calls the plain form when it is begun.
      match (Flaky.callSignature false).refused? [] (b.argumentsAt a).2 with
      | some x => (.raised x, b)
      | none => (.pending (.unbegun c.operation a) none, b)
  | some (.scripted s n) =>
    if s.style.isLazy then (.pending (.unbegun c.operation a) none, b)
    else
      let (r, b) := b.enter scene c.operation a s n
      if s.style = .awaitable then (.pending (.reacting c.operation r s.suspensions false) none, b)
      else (replyOf (scene.react r), b)

/-! ## Sleepers -/

/-- A sleeper is done, for better or worse. -/
def complete (b : Bench) (scene : Scene) (i : Nat) (a : Actor) : Except Fault Value × Bench :=
  let a := { a with completions := a.completions + 1 }
  let b := { b with sleepers := b.sleepers.set i (.actor a) }
  match a.failure with
  | some f => if a.after < a.completions then (.error f, b) else (.ok a.value, b.emit (.slept scene.phase))
  | none => (.ok a.value, b.emit (.slept scene.phase))

def sleepOn (b : Bench) (scene : Scene) (i : Nat) (delay : Value) : Sleeper → Reply Wait × Bench
  | .timer => (.pending (.timer delay false) none, b)
  | .thread => (replyOf ((checkWait delay).map fun _ => .none), b)
  | .clock c =>
    let (outcome, c) := c.sleep delay
    (replyOf (outcome.map fun _ => .none), { b with sleepers := b.sleepers.set i (.clock c) })
  | .actor a =>
    let b := b.emit (.sleep delay scene.phase)
    match a.style with
    | .sync =>
      let (outcome, b) := b.complete scene i a
      (replyOf outcome, b)
    | _ => (.pending (.sleeping i a.suspensions false) none, b)

/-- The sleeper that an engine has by default. -/
def defaultSleeper : Mode → Sleeper
  | .blocking => .thread
  | .cooperative => .timer

def sleepFor (b : Bench) (e : Engine Nat Wait) (delay : Value) : Reply Wait × Bench :=
  match e.setup.sleeper with
  | some p => b.sleepOn (b.sceneOf e) p.handle delay ((b.sleepers[p.handle]?).getD .thread)
  | none => b.sleepOn (b.sceneOf e) 0 delay (defaultSleeper e.mode)

/-! ## Waiting -/

/-- A timer that is due ends at once; another needs an event loop. -/
def startTimer (b : Bench) (delay : Value) : Reply Wait :=
  match delay with
  | .num n =>
    if n ≤ 0 then .pending (.timer delay true) none
    else if b.looping then
      if n.convertible then .pending (.timer delay true) none else .raised Fault.unconvertible
    else .raised (Fault.runtimeError "no running event loop")
  | v => .raised (Fault.unordered "<=" v (.int 0))

def resume (b : Bench) (scene : Scene) : Wait → Option Fault → Reply Wait × Bench
  | .resolved v, none => (.returned v, b)
  | .resolved _, some x => (.raised x, b)
  | .unbegun _ _, some x => (.raised (x.leaving "coroutine"), b)
  | .unbegun op a, none =>
    match b.operations[op]? with
    | none => (.returned .none, b)
    | some (.flaky f) =>
      let (outcome, b) := b.callFlaky op a f
      (resultOf "coroutine" outcome, b)
    | some (.scripted s n) =>
      let (r, b) := b.enter scene op a s n
      match s.suspensions with
      | 0 => (resultOf s.style.frame (scene.react r), b)
      | left + 1 => (.pending (.reacting op r left true) none, b)
  | .reacting op r 0 _, none =>
    let frame := match b.operations[op]? with
      | some (.scripted s _) => s.style.frame
      | _ => "coroutine"
    (resultOf frame (scene.react r), b)
  | .reacting op r (left + 1) _, none => (.pending (.reacting op r left true) none, b)
  | .reacting .., some x => (.raised (x.leaving "generator"), b.emit (.opAborted x.cls.name))
  | .sleeping i 0 _, none =>
    match b.sleepers[i]? with
    | some (.actor a) =>
      let (outcome, b) := b.complete scene i a
      (resultOf a.style.frame outcome, b)
    | _ => (.returned .none, b)
  | .sleeping i (left + 1) _, none => (.pending (.sleeping i left true) none, b)
  | .sleeping .., some x => (.raised (x.leaving "generator"), b.emit (.sleepAborted x.cls.name))
  | .timer d false, none => (b.startTimer d, b)
  | .timer _ true, none => (.returned .none, b)
  | .timer .., some x => (.raised (x.leaving "generator"), b)

/-! ## Judges and notifiers -/

def judge (b : Bench) (scene : Scene) (i : Nat) (error : Value) : Reply Wait × Bench :=
  let b := b.emit (.when error scene.phase)
  match b.judges[i]? with
  | none => (.returned (.bool true), b)
  | some (.values []) => (.raised Fault.outOfRange, b)
  | some (.values [v]) => (.returned v, b)
  | some (.values (v :: vs)) => (.returned v, { b with judges := b.judges.set i (.values vs) })
  | some (.isa classes) =>
    let accepted := match error with
      | .fault x => classes.any x.isA
      | _ => false
    (.returned (.bool accepted), b)
  | some (.eq v) => (.returned (.bool (error.eq v)), b)
  | some (.raise f) => (.raised f, b)
  | some (.reenter m) => (replyOf (scene.reenter m), b)

def announce (b : Bench) (scene : Scene) (i : Nat) (error delay : Value) : Reply Wait × Bench :=
  match b.notifiers[i]? with
  | none => (.returned .none, b)
  | some .record => (.returned .none, b.emit (.notify error delay scene.phase))
  | some (.raise f 0) => (.raised f, b.emit (.notify error delay scene.phase))
  | some (.raise f (after + 1)) =>
    (.returned .none, { b.emit (.notify error delay scene.phase) with
      notifiers := b.notifiers.set i (.raise f after) })
  | some (.reenter m) => (replyOf (scene.reenter m), b.emit (.notify error delay scene.phase))
  | some (.log n) =>
    let (outcome, n) := n.write error delay
    let b := { b with notifiers := b.notifiers.set i (.log n) }
    match outcome with
    | .ok notice => (.returned .none, b.emit (.log notice))
    | .error f => (.raised f, b)

def advance (b : Bench) (i : Nat) : Reply Wait × Bench :=
  let (outcome, cursors) := draw b.cursors i
  (.drawn outcome, { b with cursors := cursors })

/-! ## Engines on the bench -/

/-- How the bench replies to an engine. -/
def world : World Nat Wait Bench := fun e a b =>
  match a with
  | .invoke => b.invoke (b.sceneOf e) e.setup.operation.handle e.setup.arguments
  | .resume k signal => b.resume (b.sceneOf e) k signal
  | .judge error => b.judge (b.sceneOf e) (e.setup.judge.getD 0) error
  | .advance => b.advance e.setup.backoff
  | .report line => (.returned .none, if b.verbose then b.emit (.debug line.text) else b)
  | .notify error delay => b.announce (b.sceneOf e) (e.setup.notifier.getD 0) error delay
  | .sleep delay => b.sleepFor e delay

/-- Far more replies than any rehearsal needs. -/
def patience : Nat := 1000000000

/-- A step of an engine by a coroutine. -/
def nudge (b : Bench) (i : Nat) (p : Progress) (n : Nudge) : Yield × Progress × Bench :=
  match b.engines[i]? with
  | none => (.suspended, p, b)
  | some e =>
    let t := Engine.nudge world patience p n e b
    (t.yield, t.progress, { t.world with engines := t.world.engines.set i t.engine })

/-- Drives an engine to its end by an event loop. -/
def run (b : Bench) (i : Nat) : Outcome × Bench :=
  match b.engines[i]? with
  | none => (.returned .none, b)
  | some e =>
    let t := Engine.await world patience patience .unstarted e { b with looping := true }
    let b := { t.world with engines := t.world.engines.set i t.engine, looping := false }
    match t.yield with
    | .ended o => (o, b)
    | .suspended => (.returned .none, b)

/-- A fresh cursor of a builder. -/
def build (b : Bench) (i : Nat) : Except Fault Nat × Bench :=
  match b.builders[i]? with
  | none => (.ok b.cursors.length, { b with cursors := b.cursors ++ [.spent] })
  | some builder =>
    let (place, stock) := Stock.build ⟨builder, b.cursors⟩
    (place, { b with builders := b.builders.set i stock.builder, cursors := stock.cursors })

/-- A fresh cursor of a builder, or of the default policy. -/
def buildFrom (b : Bench) (builder : Option Nat) : Except Fault Nat × Bench :=
  match builder with
  | some i => b.build i
  | none =>
    let (place, stock) := Stock.build ⟨.policy Policy.default, b.cursors⟩
    (place, { b with cursors := stock.cursors })

def party (b : Bench) (callable : Nat) : Party Nat :=
  let c := (b.callables[callable]?).getD default
  match b.operations[c.operation]? with
  | some (.scripted s _) => ⟨callable, s.display, s.text⟩
  | _ =>
    let name := if c.plain then "FlakyOperation.sync"
      else "<aretry.testing.operation.FlakyOperation object at 0x>"
    ⟨callable, name, name⟩

/-- Adds a fresh engine. -/
def addEngine (b : Bench) (mode : Mode) (callable args cursor : Nat) (o : Options Nat) : Nat × Bench :=
  let setup : Setup Nat := ⟨b.party callable, args, cursor, o.judge, o.notifier, o.sleeper⟩
  (b.engines.length, { b with engines := b.engines ++ [Engine.make mode setup] })

def addArguments (b : Bench) (args : List Value) (keywords : Keywords) : Nat × Bench :=
  (b.arguments.length, { b with arguments := b.arguments ++ [(args, keywords)] })

/-- A decorated function with what it is called by. -/
def retryable (b : Bench) (g : Decorated) : Retryable Nat := ⟨g.mode = .cooperative, b.party g.callable, g.options⟩

/-- A fresh engine for a call of a decorated function. -/
def engineFor (b : Bench) (g : Decorated) (args : Nat) : Except Fault Nat × Bench :=
  match (b.retryable g).make (fun b => b.buildFrom g.builder) args b with
  | (.ok e, b) => (.ok b.engines.length, { b with engines := b.engines ++ [e] })
  | (.error f, b) => (.error f, b)

/-- The engine of a coroutine: the one it was obtained from, or a new one for its call. -/
def engineOf (b : Bench) : Origin → Except Fault Nat × Bench
  | .engine e => (.ok e, b)
  | .call g a _ => b.engineFor ((b.decorated[g]?).getD default) a

/-- A step of a coroutine. The call of a decorated function makes its engine first. -/
def step (b : Bench) (i : Nat) (n : Nudge) : Yield × Bench :=
  match b.coroutines[i]? with
  | none => (.suspended, b)
  | some k =>
    let go (e : Nat) (p : Progress) (n : Nudge) (b : Bench) : Yield × Progress × Nat × Bench :=
      let (y, p, b) := b.nudge e p n
      (y, p, e, b)
    let (y, p, e, b) := Engine.belated (fun b => b.engineOf k.origin) go k.origin.engine? k.progress n b
    (y, { b with coroutines := b.coroutines.set i ⟨k.origin.withEngine e, p⟩ })

end Bench

end Reattempt.Rehearsal
