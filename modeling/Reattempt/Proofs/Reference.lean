import Reattempt.Proofs.Cue

/-!
# A drive in closed form

An ensemble is a cast in which only the operation may fail, with a cursor that hands out one delay
after another. What an engine does with an ensemble is said here without a loop: which attempt is
the last, what the drive ends by, and every cue on the way.
-/
namespace Reattempt

structure Ensemble (ι σ : Type) where
  operate : ι → Glimpse → σ → Except Fault Value × σ
  judge : Glimpse → Value → σ → Value × σ
  report : Glimpse → Line → σ → σ
  notify : Glimpse → Value → Value → σ → Value × σ
  sleep : Glimpse → Value → σ → Value × σ
  /-- The cursor is at its end at the first place without a delay, if there is one. -/
  delays : Nat → Option Value
  delays_ne : ∀ i, delays i ≠ some .none

namespace Ensemble

open Engine

variable {ι σ : Type} (E : Ensemble ι σ) (d : Staging) (u : Setup ι)

/-- As a cast, with how many delays the cursor has handed out. -/
def cast : Cast ι (σ × Nat) where
  operate arguments g s := ((E.operate arguments g s.1).1, (E.operate arguments g s.1).2, s.2)
  judge g error s := (.ok (E.judge g error s.1).1, (E.judge g error s.1).2, s.2)
  advance _ s :=
    match E.delays s.2 with
    | some delay => (.ok delay, s.1, s.2 + 1)
    | none => (.error (.plain .stopIteration .own [] []), s)
  report g line s := (E.report g line s.1, s.2)
  notify g error delay s := (.ok (E.notify g error delay s.1).1, (E.notify g error delay s.1).2, s.2)
  sleep g delay s := (.ok (E.sleep g delay s.1).1, (E.sleep g delay s.1).2, s.2)

/-! ## The last attempt and those before it -/

/-- What the `n`-th attempt comes to: how it fails, or what the drive ends by. -/
def outcome (n : Nat) (z : σ) : Except Outcome Failure :=
  d.mode.read ((d.operation n).settle (E.operate u.arguments ⟨.executing, n⟩ z).1)

def operated (n : Nat) (z : σ) : σ := (E.operate u.arguments ⟨.executing, n⟩ z).2

/-- Without a judge, every failure is accepted. -/
def accepts (n : Nat) (f : Failure) (z : σ) : Bool :=
  !u.judge.isSome || (E.judge ⟨.executing, n⟩ f.value z).1.isTruthy

def judged (n : Nat) (f : Failure) (z : σ) : σ :=
  if u.judge.isSome then (E.judge ⟨.executing, n⟩ f.value z).2 else z

def noticed (n : Nat) (f : Failure) (delay : Value) (z : σ) : σ :=
  if u.notifier.isSome then (E.notify ⟨.executing, n⟩ f.value delay z).2 else z

/-- What a failed attempt leaves that is retried after a delay. -/
def retried (n : Nat) (f : Failure) (delay : Value) (z : σ) : σ :=
  (E.sleep ⟨.waiting, n⟩ delay (E.noticed u n f delay (E.report ⟨.executing, n⟩
    (.scheduled n delay f.value) (E.judged u n f (E.operated u n z))))).2

/-- Where attempt `n + 1` begins, if the `n` attempts before it are retried. -/
def entry (s : σ) : Nat → σ
  | 0 => s
  | n + 1 =>
    match E.outcome d u (n + 1) (entry s n), E.delays n with
    | .ok f, some delay => E.retried u (n + 1) f delay (entry s n)
    | _, _ => entry s n

/-- What attempt `n + 1` ends the drive by if it is the last. -/
def ending (s : σ) (n : Nat) : Outcome :=
  match E.outcome d u (n + 1) (E.entry d u s n) with
  | .error o => o
  | .ok f => f.outcome

/-! ## Cues -/

section Cues

variable (n : Nat) (f : Failure) (delay : Value)

def judgeCues : List (Cue ι) := if u.judge.isSome then [⟨⟨.executing, n⟩, .judge f.value⟩] else []

def notifyCues : List (Cue ι) :=
  if u.notifier.isSome then [⟨⟨.executing, n⟩, .notify f.value delay⟩] else []

/-- The cues of an attempt that is retried. -/
def retryCues : List (Cue ι) :=
  [⟨⟨.executing, n⟩, .call u.arguments⟩] ++ judgeCues u n f ++
    [⟨⟨.executing, n⟩, .advance⟩, ⟨⟨.executing, n⟩, .report (.scheduled n delay f.value)⟩] ++
    notifyCues u n f delay ++ [⟨⟨.waiting, n⟩, .sleep delay⟩]

end Cues

/-- The cues of attempt `n + 1` if it is retried. -/
def cues (s : σ) (n : Nat) : List (Cue ι) :=
  match E.outcome d u (n + 1) (E.entry d u s n), E.delays n with
  | .ok f, some delay => retryCues u (n + 1) f delay
  | _, _ => []

/-- The cues of the first `n` attempts if they are retried. -/
def script (s : σ) (n : Nat) : List (Cue ι) := (List.range n).flatMap (E.cues d u s)

section Calls

variable (n : Nat) (f : Failure) (delay : Value)

end Calls

/-! ## One round -/

section Round

variable (l : List (Cue ι)) (n i : Nat) (z : σ) (f : Failure)

end Round

/-! ## All rounds -/

section Rounds

variable (s : σ) (n : Nat)

end Rounds

/-- An operation that is busy at some attempts, with a cursor that has no end. -/
def busy (b : Nat → Bool) : Ensemble Unit Unit where
  operate _ g s := (if b g.attempts then .error (Fault.valueError "busy") else .ok (.int 7), s)
  judge _ _ s := (.bool true, s)
  report _ _ s := s
  notify _ _ _ s := (.none, s)
  sleep _ _ s := (.none, s)
  delays _ := some (.int 2)
  delays_ne _ h := by cases h

/-- An engine that asks a judge and tells a notifier. -/
def observed : Setup Unit := ⟨⟨(), "op", "op"⟩, (), (), some (), some (), none⟩

theorem busy_isPlain (b : Nat → Bool) : (busy b).cast.IsPlain := by
  refine ⟨fun a g s v h => ?_, fun g delay s v h => by cases h⟩
  simp only [cast, busy] at h
  split at h <;> cases h

end Ensemble

end Reattempt
