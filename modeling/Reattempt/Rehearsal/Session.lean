import Reattempt.Rehearsal.Drive
import Reattempt.Value.Digest

/-!
# Sessions

A session performs steps on a bench. A step that fails leaves its slot alone and the session goes
on.
-/
namespace Reattempt.Rehearsal

open Backoff

namespace Act

def scriptedSignature : Signature :=
  ⟨"ScriptedBackoffBuilder.__init__", true, [Signature.optional "delays" (.tuple [])], false⟩

def newBuilder (spec : BuilderSpec) : Act (Nat × Value) := do
  match spec with
  | .policy s parameters =>
    let p ← ofExcept (Policy.make s parameters)
    return (← addBuilder (.policy p), .str p.display)
  | .scripted parameters =>
    let bound ← ofExcept (scriptedSignature.bind [] parameters)
    let delays ← ofExcept (bound.headD (.tuple [])).members
    return (← addBuilder (.scripted (.tuple delays) []), .none)
  | .items is => return (← addBuilder (.items is), .none)

def Builder.title : Builder → String
  | .policy p => p.strategy.title
  | .scripted .. => "ScriptedBackoffBuilder"
  | .items _ => "CustomBuilder"

def cursorTitle : Cursor → String
  | .repeating .. => "itertools.repeat"
  | .scripted _ => "ScriptedBackoff"
  | .items _ => "CustomIterator"
  | _ => "generator"

/-- Advances a cursor so many times, past its end too. -/
def advanceTimes (c : Cursor) : Nat → List (Except Fault (Option Value)) × Cursor
  | 0 => ([], c)
  | n + 1 =>
    let (a, c) := c.advance
    let (as, c) := advanceTimes c n
    (a :: as, c)

/-- Whether two builders are equal, and whether their hashes are. -/
def compare (a b : Nat × Builder) : Bool × Bool :=
  if a.1 = b.1 then (true, true)
  else
    match a.2, b.2 with
    | .policy p, .policy q => (p.eq q, (Value.tuple p.values).sameHash (.tuple q.values))
    | _, _ => (false, false)

/-- How often a scripted cursor was advanced, and whether it is exhausted. -/
def progressOf (b : Bench) (i : Nat) : Nat × Bool :=
  match b.cursors[i]? with
  | some (.scripted s) => (s.advances, s.isExhausted)
  | _ => (0, true)

/-- Assigns a member of a builder: a policy cannot be changed, and the delays of a script can. -/
def assignTo (builder : Nat × Builder) (field : String) (v : Value) : Act Unit := do
  match builder.2, field with
  | .policy _, field =>
    stop (Fault.saying .frozenInstanceError ("cannot assign to field " ++ Text.quoted field))
  | .scripted _ built, "_delays" =>
    onBench fun b => ((), { b with builders := b.builders.set builder.1 (.scripted v built) })
  | .scripted .., "last" => stop (Fault.attributeError
      "property 'last' of 'ScriptedBackoffBuilder' object has no setter")
  | _, _ => return

def builtAnswer (built : List Nat) : Act Answer := do
  if built.isEmpty then
    return .neverBuilt (Fault.saying .lookupError "build() has not been called")
  let b ← bench
  return .built (built.map (progressOf b))

def callEngine (name : String) (direct : Bool) : Act Value := do
  let (i, e) ← engineAt name
  match e.mode, direct with
  | .blocking, _ => driveEngine i .blocking
  | .cooperative, false => stop (Fault.lacking e.title "call")
  | .cooperative, true => stop (Fault.uncallable e.title)

def changeOf (c : Change) : Act (Setup Nat → Setup Nat) := do
  match c with
  | .judge j => return Setup.withJudge (← j.mapM addJudge)
  | .notifier n => return Setup.withNotifier (← n.mapM addNotifier)
  | .sleeper s => return Setup.withSleeper (← s.mapM sleeperParty)

def reconfigureEngine (into name : String) (c : Change) : Act Unit := do
  let (i, e) ← engineAt name
  let change ← changeOf c
  let (moved, successor) ← ofExcept (e.reconfigure change)
  let j ← onBench fun b =>
    (b.engines.length, { b with engines := b.engines.set i moved ++ [successor] })
  fill into (.engine j)

def sleeperName (e : Engine Nat Wait) : Act String := do
  match e.setup.sleeper with
  | some p => return (((← bench).sleepers[p.handle]?).getD .thread).className
  | none => return (Bench.defaultSleeper e.mode).className

def newEngine (into : String) (mode : Mode) (callable cursor : Nat) (args : List Value)
    (keywords : Keywords) (o : Options Nat) : Act Unit := do
  let a ← onBench (·.addArguments args keywords)
  let i ← onBench (·.addEngine mode callable a cursor o)
  fill into (.engine i)

/-- How a decorated function is called: its mode, its name and its documentation. -/
def wrapping (callable : Nat) : Act (Mode × String × Option String) := do
  let b ← bench
  let c := (b.callables[callable]?).getD default
  match b.operations[c.operation]? with
  | some (.scripted s _) =>
    if s.style.isObject then return (.blocking, "wrapper", none)
    else return (if s.style = .coro then .cooperative else .blocking, s.name, s.doc)
  | _ => return if c.plain then (.blocking, "sync", none) else (.blocking, "wrapper", some Flaky.doc)

def invokeDecorated (name : String) (args : List Value) (keywords : Keywords) (into : Option String) :
    Act Value := do
  let (g, d) ← decoratedAt name
  let a ← onBench (·.addArguments args keywords)
  match d.mode, into with
  | .blocking, _ =>
    let i ← ofExcept (← onBench (·.engineFor d a))
    driveEngine i .blocking
  | .cooperative, some into => do
    fill into (.coroutine (← addCoroutine ⟨.call g a none, .unstarted⟩))
    return .none
  | .cooperative, none => do
    let k ← addCoroutine ⟨.call g a none, .unstarted⟩
    let (o, b) := exhaust k Bench.patience { (← bench) with looping := true }
    setBench { b with looping := false }
    outcomeValue o

def perform (step : Step) : Act Answer := do
  match step with
  | .builder into spec =>
    let (i, v) ← newBuilder spec
    fill into (.builder i)
    return .value v
  | .change into name method args =>
    match ← builderAt name with
    | (_, .policy p) =>
      let p ← ofExcept (p.change method args)
      fill into (.builder (← addBuilder (.policy p)))
      return .value (.str p.display)
    | (_, b) => stop (Fault.lacking (Builder.title b) method)
  | .assign name field v =>
    assignTo (← builderAt name) field v
    return .value .none
  | .fields name =>
    match ← builderAt name with
    | (_, .policy p) => return .fields p.fields
    | _ => stop (Fault.typeError "must be called with a dataclass type or instance")
  | .equal a b =>
    let (equal, sameHash) := compare (← builderAt a) (← builderAt b)
    return .equality equal sameHash
  | .build into name =>
    let (i, _) ← builderAt name
    fill into (.cursor (← ofExcept (← onBench (·.build i))))
    return .value .none
  | .iterate into delays =>
    fill into (.cursor (← addCursor (.scripted ⟨← ofExcept delays.members, 0⟩)))
    return .value .none
  | .next name count =>
    let (i, c) ← cursorAt name
    let (as, c) := advanceTimes c count
    onBench fun b => ((), { b with cursors := b.cursors.set i c })
    return .advances as
  | .cursor name =>
    match ← cursorAt name with
    | (_, .scripted s) => return .cursor s.advances s.isExhausted
    | (_, c) => stop (Fault.lacking (cursorTitle c) "advances")
  | .built name =>
    match ← builderAt name with
    | (_, .scripted _ built) => builtAnswer built
    | (_, b) => stop (Fault.lacking (Builder.title b) "built")
  | .flaky into parameters =>
    let source := (← bench).operations.length
    let op ← addOperation (.flaky (← ofExcept (Flaky.make source parameters)))
    fill into (.callable (← addCallable ⟨op, false⟩))
    return .value .none
  | .operation into ref =>
    fill into (.callable (← callableOf ref))
    return .value .none
  | .hit ref args keywords =>
    let callable ← callableOf ref
    let a ← onBench (·.addArguments args keywords)
    return .value (← settled fun b => b.invoke ⟨none, none⟩ callable a)
  | .received ref =>
    let c := ((← bench).callables[← callableOf ref]?).getD default
    match (← bench).operations[c.operation]? with
    | some (.flaky f) => return .received f.received
    | _ => return .received []
  | .sleeper into ref =>
    let p ← sleeperParty ref
    fill into (.sleeper p.handle)
    match ((← bench).sleepers[p.handle]?).getD .thread with
    | .clock _ => return .value .none
    | s => return .value (.str s.display)
  | .doze name delay =>
    let (i, s) ← sleeperAt name
    return .value (← settled fun b => b.sleepOn ⟨none, none⟩ i delay s)
  | .reset name =>
    match ← sleeperAt name with
    | (i, .clock c) =>
      onBench fun b => ((), { b with sleepers := b.sleepers.set i (.clock c.reset) })
      return .value .none
    | (_, s) => stop (Fault.lacking s.className "reset")
  | .clock name =>
    match ← sleeperAt name with
    | (_, .clock c) => return .clock c.now c.delays
    | (_, s) => stop (Fault.lacking s.className "now")
  | .retry into mode ref builder args keywords =>
    let callable ← callableOf ref
    let builder ← builderIndex builder
    let cursor ← ofExcept (← onBench (·.buildFrom builder))
    newEngine into mode callable cursor args keywords ⟨none, none, none⟩
    return .value .none
  | .engine into mode ref cursor args keywords c =>
    let callable ← callableOf ref
    let (cursor, _) ← cursorAt cursor
    let o ← optionsOf c
    newEngine into mode callable cursor args keywords o
    return .value .none
  | .reconfigure into name c =>
    reconfigureEngine into name c
    return .value .none
  | .state name =>
    let _ ← engineAt name
    return .nothing
  | .sleeperOf name =>
    let (_, e) ← engineAt name
    return .value (.str (← sleeperName e))
  | .call name direct => return .value (← callEngine name direct)
  | .await name =>
    let (i, e) ← engineAt name
    match e.mode with
    | .cooperative => return .value (← driveEngine i .cooperative)
    | .blocking => stop (Fault.typeError ("object " ++ e.title ++ " can't be used in 'await' expression"))
  | .run into name =>
    let (i, e) ← engineAt name
    match e.mode with
    | .cooperative =>
      ofExcept e.ensureFresh
      fill into (.coroutine (← addCoroutine ⟨.engine i, .unstarted⟩))
      return .value .none
    | .blocking => stop (Fault.lacking e.title "run")
  | .nudge name n =>
    let k ← coroutineAt name
    let y ← onBench (·.step k n)
    match n, ← yieldAnswer y with
    | .close, _ => return .value .none
    | _, a => return a
  | .cancel name phase =>
    let (i, e) ← engineAt name
    match e.mode with
    | .blocking => stop (Fault.lacking e.title "run")
    | .cooperative =>
      ofExcept e.ensureFresh
      let (o, b) := cancelAt i phase Bench.patience .unstarted { (← bench) with looping := true }
      setBench { b with looping := false }
      return .value (← outcomeValue o)
  | .gather names =>
    let engines ← names.mapM fun n => do return (← engineAt n).1
    let results ← gatherAll engines
    let b ← bench
    return .gathered results (engines.filterMap fun i => (b.engines[i]?).map sight)
  | .decorate into ref builder c =>
    let callable ← callableOf ref
    let builder ← builderIndex builder
    let o ← optionsOf c
    let (mode, name, doc) ← wrapping callable
    let g ← onBench fun b =>
      (b.decorated.length, { b with decorated := b.decorated ++ [⟨callable, mode, builder, o⟩] })
    fill into (.decorated g)
    return .decorated name doc (mode = .cooperative)
  | .invoke name args keywords into => return .value (← invokeDecorated name args keywords into)
  | .refused _ _ f => stop f

end Act

namespace Session

def empty (verbose : Bool) : Session := ⟨Bench.empty verbose, []⟩

/-- The engine in a slot, also by way of its coroutine. -/
def engineIn (s : Session) (name : String) : Option Nat :=
  match s.slots.lookup name with
  | some (.engine i) => some i
  | some (.coroutine k) =>
    match s.bench.coroutines[k]? with
    | some ⟨.engine i, _⟩ => some i
    | _ => none
  | _ => none

def sightOf (s : Session) (i : Nat) : Option Sight := (s.bench.engines[i]?).map sight

/-- The engine that a slot now holds, if it is another than the subject. -/
def successor (s : Session) (subject : Option Nat) (into : String) : Option Sight :=
  match s.slots.lookup into with
  | some (.engine i) => if subject = some i then none else s.sightOf i
  | _ => none

def perform (s : Session) (step : Step) : Report × Session :=
  let subject := step.subject?.bind s.engineIn
  let bench := { s.bench with events := [], phased := subject.isSome }
  let (result, s) := (Act.perform step).run.run { s with bench := bench }
  let answer := match result with
    | .ok a => a
    | .error (.fault f) => .failed f
    | .error (.noSlot name) => .noSlot name
  (⟨answer, s.bench.events.reverse, subject.bind s.sightOf, step.into?.bind (s.successor subject)⟩, s)

def performAll (s : Session) : List Step → List Report
  | [] => []
  | step :: steps =>
    let (r, s) := s.perform step
    r :: s.performAll steps

end Session

end Reattempt.Rehearsal
