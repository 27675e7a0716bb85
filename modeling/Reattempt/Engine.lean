import Reattempt.Fault.Complaint
import Reattempt.Engine.Line

/-!
# The retry engine

An engine invokes an operation until it succeeds or the failure is final. It is a machine that asks
its surroundings one thing at a time and moves on with the reply: what is asked in each stage is
`ask?`, and what a reply leads to is `reply`. Both modes are one machine. A cooperative engine waits
for what is handed back pending, a blocking one refuses it.
-/
namespace Reattempt

inductive Mode where
  | blocking
  | cooperative
  deriving DecidableEq, Repr, Inhabited

/-- A collaborator with its display and its text, both of which it is taken to have: a blocking engine writes
down either whenever the collaborator hands something back, and not only where it complains of that. -/
structure Party (ι : Type) where
  handle : ι
  display : String
  text : String
  deriving DecidableEq, Repr, Inhabited

/-- What an engine works with. A collaborator that is not given has its default. -/
structure Setup (ι : Type) where
  operation : Party ι
  arguments : ι
  backoff : ι
  judge : Option ι
  notifier : Option ι
  sleeper : Option (Party ι)
  deriving DecidableEq, Repr, Inhabited

namespace Setup

variable {ι : Type}

/-- A blocking engine does not wait for what an operation hands back pending. -/
def refusedOperation (u : Setup ι) : Fault :=
  Fault.typeError (u.operation.text ++ " returned an awaitable; use Retry for asynchronous operations")

/-- A blocking engine does not wait for what a sleeper hands back pending. -/
def refusedSleeper (u : Setup ι) : Fault :=
  Fault.typeError ("sleeper " ++ (u.sleeper.map Party.display).getD "ThreadSleeper()" ++
    " returned an awaitable; BlockingRetry needs a BlockingSleeper such as ThreadSleeper")

end Setup

/-- How an attempt failed. -/
inductive Failure where
  | raised (x : Fault)
  | returned (e : Value)
  deriving Inhabited

/-- What the collaborators are told about a failure. -/
def Failure.value : Failure → Value
  | .raised x => .fault x
  | .returned e => e

/-- How a drive ends. -/
inductive Outcome where
  | returned (v : Value)
  | raised (x : Fault)
  deriving Inhabited

/-- A final failure surfaces as it is. -/
def Failure.outcome : Failure → Outcome
  | .raised x => .raised x
  | .returned e => .returned (.err e)

/-- Something pending is parked until it is woken, by a fault or by nothing. -/
inductive Hold where
  | parked
  | waking (signal : Option Fault)
  deriving Inhabited

/-- What a running engine is at, with the one thing that may be pending. -/
inductive Stage (κ : Type) where
  | calling
  | attempting (pending : κ) (hold : Hold)
  | judging (f : Failure)
  | advancing (f : Failure)
  | stopping (f : Failure) (reason : Reason)
  | scheduling (f : Failure) (delay : Value)
  | notifying (f : Failure) (delay : Value)
  | sleeping (delay : Value)
  | dozing (delay : Value) (pending : κ) (hold : Hold)
  deriving Inhabited

inductive Life (κ : Type) where
  | fresh
  /-- Reconfigured: another engine has taken over. -/
  | moved
  | running (attempts : Nat) (stage : Stage κ)
  | done (attempts : Nat) (outcome : Outcome)
  deriving Inhabited

structure Engine (ι κ : Type) where
  mode : Mode
  setup : Setup ι
  life : Life κ
  deriving Inhabited

inductive Phase where
  | idle
  | executing
  | waiting
  deriving DecidableEq, Repr, Inhabited

/-- What an engine asks its surroundings. -/
inductive Ask (κ : Type) where
  | invoke
  | resume (pending : κ) (signal : Option Fault)
  | judge (error : Value)
  | advance
  | report (line : Line)
  | notify (error delay : Value)
  | sleep (delay : Value)
  deriving Inhabited

/-- A value, a fault, or something that is pending, with the fault that closing it raises, if any. Only a blocking
engine closes it, as soon as it is handed back. -/
inductive Reply (κ : Type) where
  | returned (v : Value)
  | raised (x : Fault)
  | pending (k : κ) (closing : Option Fault)
  deriving Inhabited

/-- What an advance of a cursor comes to; nothing is said when no delays remain. -/
def Reply.drawn {κ : Type} : Except Fault (Option Value) → Reply κ
  | .ok v => .returned (v.getD .none)
  | .error x => .raised x

namespace Phase

def name : Phase → String
  | .idle => "idle"
  | .executing => "executing"
  | .waiting => "waiting"

end Phase

namespace Stage

variable {κ : Type}

def phase : Stage κ → Phase
  | .sleeping _ => .waiting
  | .dozing .. => .waiting
  | _ => .executing

/-- What is asked in a stage; nothing while something is parked. -/
def ask? : Stage κ → Nat → Option (Ask κ)
  | .calling, _ => some .invoke
  | .attempting k (.waking signal), _ => some (.resume k signal)
  | .attempting _ .parked, _ => none
  | .judging f, _ => some (.judge f.value)
  | .advancing _, _ => some .advance
  | .stopping f reason, attempts => some (.report (.stopped attempts reason f.value))
  | .scheduling f delay, attempts => some (.report (.scheduled attempts delay f.value))
  | .notifying f delay, _ => some (.notify f.value delay)
  | .sleeping delay, _ => some (.sleep delay)
  | .dozing _ k (.waking signal), _ => some (.resume k signal)
  | .dozing _ _ .parked, _ => none

/-- Wakes what is parked. -/
def wake (signal : Option Fault) : Stage κ → Stage κ
  | .attempting k _ => .attempting k (.waking signal)
  | .dozing d k _ => .dozing d k (.waking signal)
  | stage => stage

end Stage

namespace Life

variable {κ : Type}

def status : Life κ → String
  | .fresh => "fresh"
  | .moved => "moved"
  | .running .. => "running"
  | .done .. => "done"

def phase : Life κ → Phase
  | .running _ stage => stage.phase
  | _ => .idle

def attempts : Life κ → Nat
  | .running n _ => n
  | .done n _ => n
  | _ => 0

end Life

/-- An end of iteration that leaves something resumable becomes an ordinary fault. -/
def Fault.leaving (what : String) (x : Fault) : Fault :=
  if x.isA .stopIteration then Fault.runtimeError (what ++ " raised StopIteration") else x

/-- A cooperative engine is driven by a coroutine, so that faults leave it as they leave one. -/
def Mode.leaving : Mode → Fault → Fault
  | .blocking, x => x
  | .cooperative, x => x.leaving "coroutine"

theorem Fault.leaving_of_isA_eq_false {x : Fault} (h : x.isA .stopIteration = false) (what : String) :
    x.leaving what = x := by
  rw [leaving, h]
  rfl

theorem Mode.leaving_of_isA_eq_false {x : Fault} (h : x.isA .stopIteration = false) (m : Mode) :
    m.leaving x = x := by
  cases m with
  | blocking => rfl
  | cooperative => exact Fault.leaving_of_isA_eq_false h _

namespace Engine

variable {ι κ : Type}

def phase (e : Engine ι κ) : Phase := e.life.phase

def attempts (e : Engine ι κ) : Nat := e.life.attempts

def isDone (e : Engine ι κ) : Bool :=
  match e.life with
  | .done .. => true
  | _ => false

def outcome? (e : Engine ι κ) : Option Outcome :=
  match e.life with
  | .done _ o => some o
  | _ => none

def title (e : Engine ι κ) : String :=
  match e.mode with
  | .blocking => "BlockingRetry"
  | .cooperative => "Retry"

def display (e : Engine ι κ) : String :=
  callText e.title [e.setup.operation.display, "phase=" ++ e.phase.name,
    "attempts=" ++ toString e.attempts, "status=" ++ e.life.status]

/-! ## Starting and reconfiguring -/

def misuse (e : Engine ι κ) (message : String) : Fault :=
  Fault.complain .state .own (.str message) .none (.dict [(.str "status", .str e.life.status)])

/-- Only a fresh engine can be driven. -/
def ensureFresh (e : Engine ι κ) : Except Fault Unit :=
  match e.life with
  | .fresh => .ok ()
  | .moved => .error (e.misuse
      "retry was reconfigured; drive the instance returned by sleep()/when()/notify()")
  | _ => .error (e.misuse "a retry can only be driven once")

/-- Starts the first attempt. -/
def begin (e : Engine ι κ) : Except Fault (Engine ι κ) := do
  e.ensureFresh
  return { e with life := .running 1 .calling }

/-- Hands over to a fresh engine with another setup; the first comes out as moved. -/
def reconfigure (e : Engine ι κ) (change : Setup ι → Setup ι) :
    Except Fault (Engine ι κ × Engine ι κ) :=
  match e.life with
  | .fresh => .ok ({ e with life := .moved }, { e with setup := change e.setup })
  | _ => .error (e.misuse ("cannot reconfigure a retry that is " ++ e.life.status))

/-! ## Running -/

def ask? (e : Engine ι κ) : Option (Ask κ) :=
  match e.life with
  | .running n stage => stage.ask? n
  | _ => none

def wake (signal : Option Fault) (e : Engine ι κ) : Engine ι κ :=
  match e.life with
  | .running n stage => { e with life := .running n (stage.wake signal) }
  | _ => e

def enter (e : Engine ι κ) (n : Nat) (stage : Stage κ) : Engine ι κ := { e with life := .running n stage }

def finish (e : Engine ι κ) (n : Nat) (o : Outcome) : Engine ι κ := { e with life := .done n o }

/-- Ends with a fault that leaves the engine. -/
def abort (e : Engine ι κ) (n : Nat) (x : Fault) : Engine ι κ := e.finish n (.raised (e.mode.leaving x))

/-- A failed attempt goes to the judge, if there is one. -/
def failed (e : Engine ι κ) (n : Nat) (f : Failure) : Engine ι κ :=
  e.enter n (if e.setup.judge.isSome then .judging f else .advancing f)

/-- An attempt that raised: an ordinary fault is a failure, any other ends the drive. -/
def attemptRaised (e : Engine ι κ) (n : Nat) (x : Fault) : Engine ι κ :=
  let x := e.mode.leaving x
  if x.isOrdinary then e.failed n (.raised x) else e.finish n (.raised x)

/-- An attempt that returned: an error result is a failure. -/
def attemptReturned (e : Engine ι κ) (n : Nat) (v : Value) : Engine ι κ :=
  match v with
  | .err x => e.failed n (.returned x)
  | v => e.finish n (.returned v)

/-- What the reply of a collaborator leads to in each stage. A blocking engine that refuses something pending
closes it before it complains, so that a fault of the closing stands in for the complaint. -/
def replyAt (e : Engine ι κ) (n : Nat) : Stage κ → Reply κ → Engine ι κ
  | .calling, .pending k closing =>
    match e.mode with
    | .blocking => e.finish n (.raised (closing.getD e.setup.refusedOperation))
    | .cooperative => e.enter n (.attempting k (.waking none))
  | .calling, .raised x => e.attemptRaised n x
  | .calling, .returned v => e.attemptReturned n v
  | .attempting .., .pending k _ => e.enter n (.attempting k .parked)
  | .attempting .., .raised x => e.attemptRaised n x
  | .attempting .., .returned v => e.attemptReturned n v
  | .judging _, .raised x => e.abort n x
  | .judging f, .returned v =>
    e.enter n (if v.isTruthy then .advancing f else .stopping f .notRetryable)
  -- What a judge hands back is not waited for, and counts as true like most objects.
  | .judging f, .pending .. => e.enter n (.advancing f)
  | .advancing f, .raised x =>
    if x.isA .stopIteration then e.enter n (.stopping f .backoffExhausted) else e.abort n x
  | .advancing f, .returned .none => e.enter n (.stopping f .backoffExhausted)
  | .advancing f, .returned d => e.enter n (.scheduling f d)
  -- No cursor replies so: an awaitable that it hands out is a value, and thereby a delay.
  | .advancing f, .pending .. => e.enter n (.stopping f .backoffExhausted)
  | .stopping f _, _ => e.finish n f.outcome
  | .scheduling f d, _ => e.enter n (if e.setup.notifier.isSome then .notifying f d else .sleeping d)
  | .notifying _ _, .raised x => e.abort n x
  | .notifying _ d, _ => e.enter n (.sleeping d)
  | .sleeping d, .pending k closing =>
    match e.mode with
    | .blocking => e.finish n (.raised (closing.getD e.setup.refusedSleeper))
    | .cooperative => e.enter n (.dozing d k (.waking none))
  | .sleeping _, .raised x => e.abort n x
  | .sleeping _, .returned _ => e.enter (n + 1) .calling
  | .dozing d _ _, .pending k _ => e.enter n (.dozing d k .parked)
  | .dozing .., .raised x => e.abort n x
  | .dozing .., .returned _ => e.enter (n + 1) .calling

def reply (e : Engine ι κ) (r : Reply κ) : Engine ι κ :=
  match e.life with
  | .running n stage => e.replyAt n stage r
  | _ => e

/-! ### Only the life of an engine changes -/

theorem attemptRaised_eq (e : Engine ι κ) (n : Nat) (x : Fault) :
    e.attemptRaised n x = { e with life := (e.attemptRaised n x).life } := by
  simp only [attemptRaised]
  split <;> rfl

theorem attemptReturned_eq (e : Engine ι κ) (n : Nat) (v : Value) :
    e.attemptReturned n v = { e with life := (e.attemptReturned n v).life } := by
  simp only [attemptReturned]
  split <;> rfl

theorem replyAt_eq (e : Engine ι κ) (n : Nat) (stage : Stage κ) (r : Reply κ) :
    e.replyAt n stage r = { e with life := (e.replyAt n stage r).life } := by
  cases stage with
  | calling =>
    cases r with
    | returned v => exact attemptReturned_eq e n v
    | raised x => exact attemptRaised_eq e n x
    | pending k closing =>
      obtain ⟨mode, setup, life⟩ := e
      cases mode <;> rfl
  | attempting k hold =>
    cases r with
    | returned v => exact attemptReturned_eq e n v
    | raised x => exact attemptRaised_eq e n x
    | pending k closing => rfl
  | advancing f =>
    cases r with
    | returned v => cases v <;> rfl
    | raised x => cases hx : x.isA .stopIteration <;> simp only [replyAt, hx] <;> rfl
    | pending k closing => rfl
  | sleeping d =>
    cases r with
    | pending k closing =>
      obtain ⟨mode, setup, life⟩ := e
      cases mode <;> rfl
    | _ => rfl
  | _ => cases r <;> rfl

theorem reply_eq (e : Engine ι κ) (r : Reply κ) : e.reply r = { e with life := (e.reply r).life } := by
  unfold reply
  split
  · exact replyAt_eq e _ _ r
  · rfl

theorem wake_eq (signal : Option Fault) (e : Engine ι κ) :
    e.wake signal = { e with life := (e.wake signal).life } := by
  unfold wake
  split <;> rfl

@[simp] theorem mode_reply (e : Engine ι κ) (r : Reply κ) : (e.reply r).mode = e.mode := by
  rw [reply_eq]

@[simp] theorem setup_reply (e : Engine ι κ) (r : Reply κ) : (e.reply r).setup = e.setup := by
  rw [reply_eq]

@[simp] theorem mode_wake (signal : Option Fault) (e : Engine ι κ) : (e.wake signal).mode = e.mode := by
  rw [wake_eq]

@[simp] theorem setup_wake (signal : Option Fault) (e : Engine ι κ) : (e.wake signal).setup = e.setup := by
  rw [wake_eq]

theorem reply_running {e : Engine ι κ} {n : Nat} {stage : Stage κ} (h : e.life = .running n stage)
    (r : Reply κ) : e.reply r = e.replyAt n stage r := by
  simp [reply, h]

/-- What a reply leads to depends on the stage and not on the life it is part of. -/
theorem replyAt_of_life (m : Mode) (u : Setup ι) (l l' : Life κ) (n : Nat) (stage : Stage κ) (r : Reply κ) :
    (⟨m, u, l⟩ : Engine ι κ).replyAt n stage r = (⟨m, u, l'⟩ : Engine ι κ).replyAt n stage r := by
  cases stage <;> cases r <;> cases m <;> rfl

theorem begin_eq_ok_iff (e e' : Engine ι κ) :
    e.begin = .ok e' ↔ e.life = .fresh ∧ e' = { e with life := .running 1 .calling } := by
  cases hl : e.life <;> simp [begin, ensureFresh, hl, bind, Except.bind, pure, Except.pure, eq_comm]

end Engine

/-! ## Drives -/

/-- The surroundings of engines: what they reply, and what becomes of them. -/
abbrev World (ι κ σ : Type) := Engine ι κ → Ask κ → σ → Reply κ × σ

namespace Engine

variable {ι κ σ : Type}

/-- Asks and replies, until the engine is parked or done, or at most so many times. -/
def drive (w : World ι κ σ) : Nat → Engine ι κ → σ → Engine ι κ × σ
  | 0, e, s => (e, s)
  | n + 1, e, s =>
    match e.ask? with
    | none => (e, s)
    | some a => drive w n (e.reply (w e a s).1) (w e a s).2

@[simp] theorem drive_zero (w : World ι κ σ) (e : Engine ι κ) (s : σ) : drive w 0 e s = (e, s) := rfl

theorem drive_of_ask_none (w : World ι κ σ) (n : Nat) {e : Engine ι κ} (s : σ) (h : e.ask? = none) :
    drive w n e s = (e, s) := by
  cases n <;> simp [drive, h]

theorem drive_succ (w : World ι κ σ) (n : Nat) {e : Engine ι κ} (s : σ) {a : Ask κ}
    (h : e.ask? = some a) :
    drive w (n + 1) e s = drive w n (e.reply (w e a s).1) (w e a s).2 := by
  simp [drive, h]

theorem drive_add (w : World ι κ σ) (m n : Nat) (e : Engine ι κ) (s : σ) :
    drive w (m + n) e s = drive w n (drive w m e s).1 (drive w m e s).2 := by
  induction m generalizing e s with
  | zero => simp
  | succ m ih =>
    rw [Nat.succ_add]
    cases h : e.ask? with
    | none => simp [drive_of_ask_none, h]
    | some a => rw [drive_succ w _ s h, drive_succ w _ s h, ih]

end Engine

end Reattempt
