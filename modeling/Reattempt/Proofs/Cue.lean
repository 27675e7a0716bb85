import Reattempt.Proofs.Play

/-!
# Cues

A cue is a call of a collaborator, with what the collaborator could see of the engine. A cast can
take down its cues, and what it has taken down is never taken back.
-/
namespace Reattempt

inductive Event (ι : Type) where
  | call (arguments : ι)
  | judge (error : Value)
  | advance
  | report (line : Line)
  | notify (error delay : Value)
  | sleep (delay : Value)
  deriving Inhabited

def Event.isCall {ι : Type} : Event ι → Bool
  | .call _ => true
  | _ => false

structure Cue (ι : Type) where
  glimpse : Glimpse
  event : Event ι
  deriving Inhabited

namespace Cue

variable {ι σ α : Type}

/-- Takes a cue down, and does what it is for. -/
def take (q : Cue ι) (act : σ → α × σ) (s : List (Cue ι) × σ) : α × List (Cue ι) × σ :=
  ((act s.2).1, s.1 ++ [q], (act s.2).2)

theorem prefix_take (q : Cue ι) (act : σ → α × σ) (s : List (Cue ι) × σ) : s.1 <+: (q.take act s).2.1 :=
  List.prefix_append s.1 [q]

/-- How often the operation is called. -/
def calls (l : List (Cue ι)) : Nat := l.countP fun q => q.event.isCall

end Cue

namespace Cast

open Engine

variable {ι σ : Type}

/-- The same cast, which takes down its cues. -/
def logged (c : Cast ι σ) : Cast ι (List (Cue ι) × σ) where
  operate arguments g := Cue.take ⟨g, .call arguments⟩ (c.operate arguments g)
  judge g error := Cue.take ⟨g, .judge error⟩ (c.judge g error)
  advance g := Cue.take ⟨g, .advance⟩ (c.advance g)
  report g line s := (s.1 ++ [⟨g, .report line⟩], c.report g line s.2)
  notify g error delay := Cue.take ⟨g, .notify error delay⟩ (c.notify g error delay)
  sleep g delay := Cue.take ⟨g, .sleep delay⟩ (c.sleep g delay)

theorem IsPlain.logged {c : Cast ι σ} (h : c.IsPlain) : c.logged.IsPlain :=
  ⟨fun a g s => h.1 a g s.2, fun g delay s => h.2 g delay s.2⟩

/-! ## Taking down changes nothing -/

section Observes

variable (c : Cast ι σ)

theorem undertake_logged (arguments : ι) (g : Glimpse) (t : Task) (s : List (Cue ι) × σ) (f : Form) :
    (c.logged.undertake arguments g t s f).1 = (c.undertake arguments g t s.2 f).1 ∧
      (c.logged.undertake arguments g t s f).2.2 = (c.undertake arguments g t s.2 f).2 := by
  cases t <;> cases f <;> exact ⟨rfl, rfl⟩

theorem resume_logged (arguments : ι) (g : Glimpse) (s : List (Cue ι) × σ) (k : Pause)
    (signal : Option Fault) :
    (c.logged.resume arguments g s k signal).1 = (c.resume arguments g s.2 k signal).1 ∧
      (c.logged.resume arguments g s k signal).2.2 = (c.resume arguments g s.2 k signal).2 := by
  cases signal with
  | some x => cases k <;> exact ⟨rfl, rfl⟩
  | none =>
    cases k with
    | resolved v => exact ⟨rfl, rfl⟩
    | unbegun t n => cases t <;> exact ⟨rfl, rfl⟩
    | begun left r => cases left <;> exact ⟨rfl, rfl⟩

theorem logged_observes (d : Staging) : (c.logged.world d).Observes (c.world d) := by
  intro e a s
  cases a with
  | invoke => exact c.undertake_logged _ _ _ s _
  | resume k signal => exact c.resume_logged _ _ s k signal
  | sleep delay => exact c.undertake_logged _ _ _ s _
  | _ => exact ⟨rfl, rfl⟩

/-- A play is the same whether or not its cues are taken down. -/
theorem play_logged (d : Staging) (u : Setup ι) (fuel m : Nat) (s : σ) :
    ∃ l, c.logged.play d u fuel m ([], s) = ⟨(c.play d u fuel m s).yield, (c.play d u fuel m s).progress,
      (c.play d u fuel m s).engine, l, (c.play d u fuel m s).world⟩ := by
  cases d with
  | blocking =>
    exact nudge_observes (c.logged_observes .blocking) fuel .unstarted .send (make .blocking u) ([], s)
  | cooperative operation sleeper =>
    exact await_observes (c.logged_observes (.cooperative operation sleeper)) fuel (m + 1) .unstarted
      (make .cooperative u) ([], s)

end Observes

/-! ## What is taken down stays -/

section Log

variable (c : Cast ι σ) (d : Staging)

theorem prefix_perform (arguments : ι) (g : Glimpse) (t : Task) (s : List (Cue ι) × σ) :
    s.1 <+: (c.logged.perform arguments g t s).2.1 := by
  cases t <;> exact Cue.prefix_take _ _ s

theorem prefix_undertake (arguments : ι) (g : Glimpse) (t : Task) (s : List (Cue ι) × σ) (f : Form) :
    s.1 <+: (c.logged.undertake arguments g t s f).2.1 := by
  cases f with
  | plain => exact c.prefix_perform arguments g t s
  | coroutine n => exact List.prefix_refl s.1
  | awaitable n => exact c.prefix_perform arguments g t s

theorem prefix_resume (arguments : ι) (g : Glimpse) (s : List (Cue ι) × σ) (k : Pause)
    (signal : Option Fault) : s.1 <+: (c.logged.resume arguments g s k signal).2.1 := by
  cases signal with
  | some x => cases k <;> exact List.prefix_refl s.1
  | none =>
    cases k with
    | resolved v => exact List.prefix_refl s.1
    | unbegun t n => exact c.prefix_perform arguments g t s
    | begun left r => cases left <;> exact List.prefix_refl s.1

theorem prefix_world (e : Engine ι Pause) (a : Ask Pause) (s : List (Cue ι) × σ) :
    s.1 <+: (c.logged.world d e a s).2.1 := by
  cases a with
  | invoke => exact c.prefix_undertake _ _ _ s _
  | resume k signal => exact c.prefix_resume _ _ s k signal
  | sleep delay => exact c.prefix_undertake _ _ _ s _
  | report line => exact List.prefix_append s.1 _
  | _ => exact Cue.prefix_take _ _ s

theorem prefix_pace (e : Engine ι Pause) (s : List (Cue ι) × σ) :
    s.1 <+: (pace (c.logged.world d) (e, s)).2.1 := by
  cases ha : e.ask? with
  | none => simp only [pace_of_ask_none _ ha, List.prefix_refl]
  | some a =>
    rw [pace_of_ask _ ha]
    exact c.prefix_world d e a s

theorem prefix_walk (n : Nat) (e : Engine ι Pause) (s : List (Cue ι) × σ) :
    s.1 <+: (walk (c.logged.world d) n (e, s)).2.1 := by
  induction n generalizing e s with
  | zero => exact List.prefix_refl s.1
  | succ n ih => exact (c.prefix_pace d e s).trans (ih _ _)

theorem prefix_walk_of_le {m n : Nat} (h : m ≤ n) (b : Engine ι Pause × List (Cue ι) × σ) :
    (walk (c.logged.world d) m b).2.1 <+: (walk (c.logged.world d) n b).2.1 := by
  obtain ⟨k, rfl⟩ := Nat.exists_eq_add_of_le h
  rw [walk_add]
  exact c.prefix_walk d k _ _

end Log

/-! ## The log of a play -/

section Play

variable {c : Cast ι σ} {d : Staging} {u : Setup ι} {s : σ}
variable (hp : d.mode = .blocking → c.IsPlain)
include hp

/-- A play that is long enough has taken down all that is done before an attempt. -/
theorem prefix_play_of_begins {n : Nat} {t : List (Cue ι) × σ} (h : c.logged.Begins d u ([], s) n t) :
    ∃ far, ∀ fuel ≥ far, ∀ m ≥ far, t.1 <+: (c.logged.play d u fuel m ([], s)).world.1 := by
  obtain ⟨far, -, hw⟩ := walk_of_begins (fun h => (hp h).logged) h
  refine ⟨far, fun fuel hf m hm => ?_⟩
  obtain ⟨k, hk, hle⟩ := c.logged.play_eq_stand d u fuel m ([], s) far
  have hpre := c.prefix_walk_of_le d (hle hf hm) (calling d u 1, [], s)
  rw [hw] at hpre
  rw [hk]
  exact hpre

/-- Unless a drive ends, some later attempt begins after all that a play has taken down. -/
theorem play_prefix_of_begins (hend : ∀ n o t, ¬ c.logged.Ends d u ([], s) n o t) (fuel m : Nat) :
    ∃ n t, c.logged.Begins d u ([], s) n t ∧ (c.logged.play d u fuel m ([], s)).world.1 <+: t.1 := by
  obtain ⟨j, hj, -⟩ := c.logged.play_eq_stand d u fuel m ([], s) 0
  rcases c.logged.begins_or_ends d u ([], s) j with ⟨t, hb⟩ | ⟨n, o, t, -, he⟩
  · refine ⟨j + 1, t, hb, ?_⟩
    obtain ⟨i, hi, hw⟩ := walk_of_begins (fun h => (hp h).logged) hb
    have hpre := c.prefix_walk_of_le d (by omega : j ≤ i) (calling d u 1, [], s)
    rw [hw] at hpre
    rw [hj]
    exact hpre
  · exact absurd he (hend n o t)

/-- A drive that ends has taken down all that a play of it takes down. -/
theorem play_prefix_of_ends {n : Nat} {o : Outcome} {t : List (Cue ι) × σ}
    (h : c.logged.Ends d u ([], s) n o t) (fuel m : Nat) :
    (c.logged.play d u fuel m ([], s)).world.1 <+: t.1 := by
  obtain ⟨j, hj, -⟩ := c.logged.play_eq_stand d u fuel m ([], s) 0
  obtain ⟨far, hw⟩ := walk_of_ends (fun h => (hp h).logged) h
  have hover : (walk (c.logged.world d) far (calling d u 1, [], s)).1.IsOver := by
    rw [hw]
    exact ⟨n, o, rfl⟩
  have hpre := c.prefix_walk_of_le d (Nat.le_max_right far j) (calling d u 1, [], s)
  rw [walk_of_le _ hover (Nat.le_max_left far j), hw] at hpre
  rw [hj]
  exact hpre

end Play

end Cast

end Reattempt
