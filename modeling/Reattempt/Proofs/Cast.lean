import Reattempt.Proofs.Cycle
import Reattempt.Proofs.Pace

/-!
# Casts

The collaborators of an engine as functions on a state that they share, each of which may fail at
any call. The operation and the sleeper may be handed over at once, as a coroutine, or as something
to wait for, and may suspend as often as they like before they come to what they come to.

`round` tells in one piece what an attempt leads to. It asks nothing and parks nothing;
`reaches_round` in the module after this one says that an engine of either mode does the same.
-/
namespace Reattempt

/-- What a collaborator may see of the engine that calls it. -/
structure Glimpse where
  phase : Phase
  attempts : Nat
  deriving DecidableEq, Repr, Inhabited

structure Cast (ι σ : Type) where
  operate : ι → Glimpse → σ → Except Fault Value × σ
  judge : Glimpse → Value → σ → Except Fault Value × σ
  advance : Glimpse → σ → Except Fault Value × σ
  report : Glimpse → Line → σ → σ
  notify : Glimpse → Value → Value → σ → Except Fault Value × σ
  sleep : Glimpse → Value → σ → Except Fault Value × σ

/-- What may be waited for. -/
inductive Task where
  | operation
  | sleeper (delay : Value)
  deriving Inhabited

/-- How the call of a task is handed over. -/
inductive Form where
  | plain
  /-- Nothing happens until it is resumed. -/
  | coroutine (suspensions : Nat)
  /-- It is begun when it is called, and its end is waited for. -/
  | awaitable (suspensions : Nat)
  deriving DecidableEq, Repr, Inhabited

/-- What a call of a form comes to in the end. -/
def Form.settle : Form → Except Fault Value → Except Fault Value
  | .plain, .ok (.awaitable v) => .ok v
  | .plain, r => r
  | .coroutine _, r => r.mapError (Fault.leaving "coroutine")
  | .awaitable _, r => r.mapError (Fault.leaving "generator")

/-- A plain call that hands back nothing to wait for comes to what it hands back. -/
theorem Form.settle_plain {r : Except Fault Value} (h : ∀ v, r ≠ .ok (.awaitable v)) :
    Form.plain.settle r = r := by
  cases r with
  | error x => rfl
  | ok v => cases v <;> first | rfl | exact absurd rfl (h _)

/-- A blocking engine is given plain calls, a cooperative one calls of any form, in each attempt and
in each delay another. -/
inductive Staging where
  | blocking
  | cooperative (operation sleeper : Nat → Form)

namespace Staging

def mode : Staging → Mode
  | .blocking => .blocking
  | .cooperative .. => .cooperative

def operation : Staging → Nat → Form
  | .blocking, _ => .plain
  | .cooperative operation _, n => operation n

def sleeper : Staging → Nat → Form
  | .blocking, _ => .plain
  | .cooperative _ sleeper, n => sleeper n

def form (d : Staging) (n : Nat) : Task → Form
  | .operation => d.operation n
  | .sleeper _ => d.sleeper n

/-- Only a cooperative engine is given other calls than plain ones. -/
theorem mode_eq {d : Staging} {n : Nat} {t : Task} (h : d.form n t ≠ .plain) : d.mode = .cooperative := by
  cases d with
  | cooperative => rfl
  | blocking => cases t <;> exact absurd rfl h

end Staging

/-- Where something handed over for waiting stands. -/
inductive Pause where
  | resolved (v : Value)
  | unbegun (t : Task) (suspensions : Nat)
  | begun (left : Nat) (r : Except Fault Value)

/-- A plain call that hands back something to wait for is pending, and any other is not. -/
def Reply.handed : Except Fault Value → Reply Pause
  | .ok (.awaitable v) => .pending (.resolved v) none
  | r => .of r

theorem Reply.handed_eq {r : Except Fault Value} (h : ∀ v, r ≠ .ok (.awaitable v)) :
    Reply.handed r = .of r := by
  cases r with
  | error x => rfl
  | ok v => cases v <;> first | rfl | exact absurd rfl (h _)

namespace Cast

variable {ι κ σ : Type}

def perform (c : Cast ι σ) (arguments : ι) (g : Glimpse) : Task → σ → Except Fault Value × σ
  | .operation, s => c.operate arguments g s
  | .sleeper delay, s => c.sleep g delay s

/-! ## As surroundings -/

/-- The call of a task, as its form has it. -/
def undertake (c : Cast ι σ) (arguments : ι) (g : Glimpse) (t : Task) (s : σ) : Form → Reply Pause × σ
  | .plain => ((.handed (c.perform arguments g t s).1), (c.perform arguments g t s).2)
  | .coroutine n => (.pending (.unbegun t n) none, s)
  | .awaitable n => (.pending (.begun n (Form.settle (.awaitable n) (c.perform arguments g t s).1)) none,
      (c.perform arguments g t s).2)

/-- A fault that is thrown in is let through. -/
def resume (c : Cast ι σ) (arguments : ι) (g : Glimpse) (s : σ) : Pause → Option Fault → Reply Pause × σ
  | .unbegun .., some x => (.raised (x.leaving "coroutine"), s)
  | _, some x => (.raised (x.leaving "generator"), s)
  | .resolved v, none => (.returned v, s)
  | .unbegun t n, none =>
    let r := Form.settle (.coroutine n) (c.perform arguments g t s).1
    (match n with
      | 0 => .of r
      | left + 1 => .pending (.begun left r) none, (c.perform arguments g t s).2)
  | .begun 0 r, none => (.of r, s)
  | .begun (left + 1) r, none => (.pending (.begun left r) none, s)

/-- The surroundings that a cast makes up. -/
def world (c : Cast ι σ) (d : Staging) : World ι Pause σ := fun e a s =>
  let g : Glimpse := ⟨e.phase, e.attempts⟩
  match a with
  | .invoke => c.undertake e.setup.arguments g .operation s (d.form e.attempts .operation)
  | .sleep delay => c.undertake e.setup.arguments g (.sleeper delay) s (d.form e.attempts (.sleeper delay))
  | .resume k signal => c.resume e.setup.arguments g s k signal
  | .judge error => (.of (c.judge g error s).1, (c.judge g error s).2)
  | .advance => (.of (c.advance g s).1, (c.advance g s).2)
  | .report line => (.returned .none, c.report g line s)
  | .notify error delay => (.of (c.notify g error delay s).1, (c.notify g error delay s).2)

section World

variable (c : Cast ι σ) (d : Staging) (m : Mode) (u : Setup ι) (n : Nat) (stage : Stage Pause)

@[simp] theorem world_judge (error : Value) (s : σ) :
    c.world d ⟨m, u, .running n stage⟩ (.judge error) s =
      (.of (c.judge ⟨stage.phase, n⟩ error s).1, (c.judge ⟨stage.phase, n⟩ error s).2) := rfl

@[simp] theorem world_advance (s : σ) : c.world d ⟨m, u, .running n stage⟩ .advance s =
    (.of (c.advance ⟨stage.phase, n⟩ s).1, (c.advance ⟨stage.phase, n⟩ s).2) := rfl

@[simp] theorem world_report (line : Line) (s : σ) :
    c.world d ⟨m, u, .running n stage⟩ (.report line) s =
      (.returned .none, c.report ⟨stage.phase, n⟩ line s) := rfl

@[simp] theorem world_notify (error delay : Value) (s : σ) :
    c.world d ⟨m, u, .running n stage⟩ (.notify error delay) s =
      (.of (c.notify ⟨stage.phase, n⟩ error delay s).1, (c.notify ⟨stage.phase, n⟩ error delay s).2) := rfl

end World

/-! ## In one piece -/

section Round

variable (c : Cast ι σ) (u : Setup ι) (n : Nat)

/-- One attempt: how it failed, or what the drive ends by. -/
def attempt (d : Staging) (s : σ) : Except Outcome Failure × σ :=
  match c.operate u.arguments ⟨.executing, n⟩ s with
  | (r, s) => (d.mode.read ((d.operation n).settle r), s)

/-- Whether the judge accepts a failure; without one all are accepted. -/
def judged (f : Failure) (s : σ) : Except Fault Bool × σ :=
  if u.judge.isSome then
    match c.judge ⟨.executing, n⟩ f.value s with
    | (r, s) => (r.map Value.isTruthy, s)
  else (.ok true, s)

/-- The delay that the cursor hands out, if it is not at its end. -/
def drawn (s : σ) : Except Fault (Option Value) × σ :=
  match c.advance ⟨.executing, n⟩ s with
  | (.ok .none, s) => (.ok none, s)
  | (.ok d, s) => (.ok (some d), s)
  | (.error x, s) => (if x.isA .stopIteration then .ok none else .error x, s)

def noticed (f : Failure) (delay : Value) (s : σ) : Except Fault Unit × σ :=
  if u.notifier.isSome then
    match c.notify ⟨.executing, n⟩ f.value delay s with
    | (r, s) => (r.map fun _ => (), s)
  else (.ok (), s)

/-- What follows a failed attempt: the delay before the next, or what the drive ends by. -/
def nextDelay (m : Mode) (f : Failure) (s : σ) : Except Outcome Value × σ :=
  match c.judged u n f s with
  | (.error x, s) => (.error (.raised (m.leaving x)), s)
  | (.ok false, s) => (.error f.outcome, c.report ⟨.executing, n⟩ (.stopped n .notRetryable f.value) s)
  | (.ok true, s) =>
    match c.drawn n s with
    | (.error x, s) => (.error (.raised (m.leaving x)), s)
    | (.ok none, s) =>
      (.error f.outcome, c.report ⟨.executing, n⟩ (.stopped n .backoffExhausted f.value) s)
    | (.ok (some delay), s) =>
      match c.noticed u n f delay (c.report ⟨.executing, n⟩ (.scheduled n delay f.value) s) with
      | (.error x, s) => (.error (.raised (m.leaving x)), s)
      | (.ok (), s) => (.ok delay, s)

def rest (d : Staging) (delay : Value) (s : σ) : Except Outcome Unit × σ :=
  match c.sleep ⟨.waiting, n⟩ delay s with
  | (r, s) =>
    (match (d.sleeper n).settle r with
      | .ok _ => .ok ()
      | .error x => .error (.raised (d.mode.leaving x)), s)

/-- An attempt and all that follows it before the next. -/
def round (d : Staging) (s : σ) : Except Outcome Unit × σ :=
  match c.attempt u n d s with
  | (.error o, s) => (.error o, s)
  | (.ok f, s) =>
    match c.nextDelay u n d.mode f s with
    | (.error o, s) => (.error o, s)
    | (.ok delay, s) => c.rest n d delay s

end Round

/-- Neither the operation nor the sleeper ever hands back something to wait for. -/
def IsPlain (c : Cast ι σ) : Prop :=
  (∀ a g s v, (c.operate a g s).1 ≠ .ok (.awaitable v)) ∧
    ∀ g delay s v, (c.sleep g delay s).1 ≠ .ok (.awaitable v)

theorem IsPlain.perform {c : Cast ι σ} (h : c.IsPlain) (arguments : ι) (g : Glimpse) (t : Task) (s : σ)
    (v : Value) : (c.perform arguments g t s).1 ≠ .ok (.awaitable v) := by
  cases t with
  | operation => exact h.1 _ _ _ _
  | sleeper delay => exact h.2 _ _ _ _

end Cast

end Reattempt
