import Reattempt.Engine

/-!
# Coroutines of an engine

A cooperative engine is driven by a coroutine. Obtaining one does not start the engine: the first
step does, so a coroutine that is closed before leaves the engine fresh, and of several coroutines
of one engine the first to be stepped drives it. A coroutine that goes on although it is closed is
left where it stands.
-/
namespace Reattempt

inductive Progress where
  | unstarted
  | driving
  | finished
  deriving DecidableEq, Repr, Inhabited

/-- What a step of a coroutine comes to. -/
inductive Yield where
  | suspended
  | ended (o : Outcome)
  deriving Inhabited

/-- What a coroutine is told: to go on, by a fault or by nothing, or to end. -/
inductive Nudge where
  | send
  | throw (x : Fault)
  | close
  deriving Inhabited

/-- A step of a coroutine, with what it leaves behind. -/
structure Turn (ι κ σ : Type) where
  yield : Yield
  progress : Progress
  engine : Engine ι κ
  world : σ

def Yield.progress : Yield → Progress
  | .suspended => .driving
  | .ended _ => .finished

/-- Closing succeeds unless the engine goes on, or ends by another fault. -/
def Yield.closed : Yield → Yield
  | .ended (.raised x) =>
    if x.isA .generatorExit || x.isA .stopIteration then .ended (.returned .none)
    else .ended (.raised x)
  | .ended (.returned _) => .ended (.returned .none)
  | .suspended => .ended (.raised (Fault.runtimeError "coroutine ignored GeneratorExit"))

namespace Nudge

/-- What is passed on to what is pending. -/
def signal : Nudge → Option Fault
  | .send => none
  | .throw x => some x
  | .close => some (.plain .generatorExit .own [] [])

/-- What the one who takes a step is told of what it has come to. -/
def answer : Nudge → Yield → Yield
  | .close, y => y.closed
  | _, y => y

end Nudge

namespace Engine

variable {ι κ σ : Type}

def reuse : Fault := Fault.runtimeError "cannot reuse already awaited coroutine"

/-- What a drive has come to. A drive that was cut short counts as suspended. -/
def yielded (e : Engine ι κ) : Yield :=
  match e.outcome? with
  | some o => .ended o
  | none => .suspended

/-- Goes on until the engine is parked or done. -/
def proceed (w : World ι κ σ) (fuel : Nat) (e : Engine ι κ) (s : σ) : Turn ι κ σ :=
  match drive w fuel e s with
  | (e, s) => ⟨e.yielded, e.yielded.progress, e, s⟩

/-- Before anything is asked, a step of a coroutine ends at once or lets the engine go on. -/
def stir : Progress → Nudge → Engine ι κ → Except Outcome (Engine ι κ)
  | .unstarted, .send, e => e.begin.mapError .raised
  | .unstarted, .throw x, _ => .error (.raised (Mode.cooperative.leaving x))
  | .unstarted, .close, _ => .error (.returned .none)
  | .driving, n, e => .ok (e.wake n.signal)
  | .finished, .close, _ => .error (.returned .none)
  | .finished, _, _ => .error (.raised reuse)

theorem stir_of_begin {e e' : Engine ι κ} (h : e.begin = .ok e') : e.stir .unstarted .send = .ok e' := by
  rw [stir, h]
  rfl

theorem stir_of_begin_error {e : Engine ι κ} {x : Fault} (h : e.begin = .error x) :
    e.stir .unstarted .send = .error (.raised x) := by
  rw [stir, h]
  rfl

/-- An engine goes on that is fresh, or that is being driven already. -/
theorem stir_eq_ok {p : Progress} {n : Nudge} {e e' : Engine ι κ} (h : e.stir p n = .ok e') :
    (p = .unstarted ∧ e.life = .fresh ∧ e' = { e with life := .running 1 .calling }) ∨
      (p = .driving ∧ e' = e.wake n.signal) := by
  cases p with
  | unstarted =>
    cases n with
    | send =>
      cases hb : e.begin with
      | error x =>
        rw [stir_of_begin_error hb] at h
        cases h
      | ok e₁ =>
        obtain ⟨hl, rfl⟩ := (begin_eq_ok_iff e e₁).1 hb
        rw [stir_of_begin hb] at h
        cases h
        exact .inl ⟨rfl, hl, rfl⟩
    | throw x => cases h
    | close => cases h
  | driving => cases h; exact .inr ⟨rfl, rfl⟩
  | finished => cases n <;> cases h

/-- One step of a coroutine. -/
def nudge (w : World ι κ σ) (fuel : Nat) (p : Progress) (n : Nudge) (e : Engine ι κ) (s : σ) :
    Turn ι κ σ :=
  match e.stir p n with
  | .error o => ⟨.ended o, .finished, e, s⟩
  | .ok e => let t := proceed w fuel e s; { t with yield := n.answer t.yield }

/-- A blocking engine is driven in one go. -/
def call (w : World ι κ σ) (fuel : Nat) (e : Engine ι κ) (s : σ) : Turn ι κ σ :=
  nudge w fuel .unstarted .send e s

/-- Steps of a coroutine until it ends, or at most so many, as an event loop takes them. -/
def await (w : World ι κ σ) (fuel : Nat) : Nat → Progress → Engine ι κ → σ → Turn ι κ σ
  | 0, p, e, s => ⟨e.yielded, p, e, s⟩
  | m + 1, p, e, s =>
    match nudge w fuel p .send e s with
    | ⟨.suspended, p, e, s⟩ => await w fuel m p e s
    | t => t

/-- One step of a coroutine that makes what it drives with its first step. -/
def belated {η : Type} (make : σ → Except Fault η × σ)
    (go : η → Progress → Nudge → σ → Yield × Progress × η × σ) :
    Option η → Progress → Nudge → σ → Yield × Progress × Option η × σ
  | some h, p, n, s =>
    let (y, p, h, s) := go h p n s
    (y, p, some h, s)
  | none, .unstarted, .send, s =>
    match make s with
    | (.ok h, s) =>
      let (y, p, h, s) := go h .unstarted .send s
      (y, p, some h, s)
    | (.error x, s) => (.ended (.raised (x.leaving "coroutine")), .finished, none, s)
  | none, .finished, .close, s => (.ended (.returned .none), .finished, none, s)
  | none, .finished, _, s => (.ended (.raised reuse), .finished, none, s)
  | none, _, .close, s => (.ended (.returned .none), .finished, none, s)
  | none, _, .throw x, s => (.ended (.raised (x.leaving "coroutine")), .finished, none, s)
  | none, .driving, .send, s => (.suspended, .driving, none, s)

/-- What a step comes to that does not begin is said by how far the coroutine is and by what it is told. -/
theorem belated_idle {p : Progress} {n : Nudge} (h : p ≠ .unstarted ∨ n ≠ .send) : ∃ y q,
    ∀ {η σ : Type} (make : σ → Except Fault η × σ) (go : η → Progress → Nudge → σ → Yield × Progress × η × σ)
      (s : σ), belated make go none p n s = (y, q, none, s) := by
  cases p with
  | unstarted =>
    cases n with
    | send => simp at h
    | _ => exact ⟨_, _, fun _ _ _ => rfl⟩
  | driving => cases n <;> exact ⟨_, _, fun _ _ _ => rfl⟩
  | finished => cases n <;> exact ⟨_, _, fun _ _ _ => rfl⟩

@[simp] theorem engine_close_unstarted (w : World ι κ σ) (fuel : Nat) (e : Engine ι κ) (s : σ) :
    (nudge w fuel .unstarted .close e s).engine = e := rfl

@[simp] theorem engine_throw_unstarted (w : World ι κ σ) (fuel : Nat) (x : Fault) (e : Engine ι κ) (s : σ) :
    (nudge w fuel .unstarted (.throw x) e s).engine = e := rfl

end Engine

end Reattempt
