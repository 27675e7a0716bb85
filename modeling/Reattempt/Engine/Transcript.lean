import Reattempt.Engine.Coroutine
import Reattempt.Engine.Options

/-!
# Transcripts

What an engine asks and what it is told can be taken down without a change to either. A coroutine
that is told one thing after another leaves one transcript of all its steps.
-/
namespace Reattempt

variable {ι κ σ : Type}

/-- An ask with its reply, and what the engine shows meanwhile. -/
structure Exchange (κ : Type) where
  phase : Phase
  attempts : Nat
  ask : Ask κ
  reply : Reply κ
  deriving Inhabited

/-- Surroundings that do the same as others and keep something besides. -/
def World.Observes {τ : Type} (w' : World ι κ (τ × σ)) (w : World ι κ σ) : Prop :=
  ∀ e a s, (w' e a s).1 = (w e a s.2).1 ∧ (w' e a s).2.2 = (w e a s.2).2

namespace Engine

/-! ## What is kept besides changes nothing -/

section Observes

variable {τ : Type} {w' : World ι κ (τ × σ)} {w : World ι κ σ} (hw : w'.Observes w)
include hw

theorem drive_observes (n : Nat) (e : Engine ι κ) (s : τ × σ) :
    (drive w' n e s).1 = (drive w n e s.2).1 ∧ (drive w' n e s).2.2 = (drive w n e s.2).2 := by
  induction n generalizing e s with
  | zero => exact ⟨rfl, rfl⟩
  | succ n ih =>
    cases h : e.ask? with
    | none => simp [drive_of_ask_none, h]
    | some a =>
      obtain ⟨hreply, hstate⟩ := hw e a s
      rw [drive_succ _ _ _ h, drive_succ _ _ _ h, ← hreply, ← hstate]
      exact ih _ _

/-- A step of a coroutine is the same but for what is kept besides. -/
theorem nudge_observes (fuel : Nat) (p : Progress) (n : Nudge) (e : Engine ι κ) (s : τ × σ) :
    ∃ t, nudge w' fuel p n e s = ⟨(nudge w fuel p n e s.2).yield, (nudge w fuel p n e s.2).progress,
      (nudge w fuel p n e s.2).engine, t, (nudge w fuel p n e s.2).world⟩ := by
  unfold nudge
  cases e.stir p n with
  | error o => exact ⟨s.1, rfl⟩
  | ok e' =>
    obtain ⟨hengine, hstate⟩ := drive_observes hw fuel e' s
    refine ⟨(drive w' fuel e' s).2.1, ?_⟩
    simp only [proceed, hengine, ← hstate]

theorem await_observes (fuel m : Nat) (p : Progress) (e : Engine ι κ) (s : τ × σ) :
    ∃ t, await w' fuel m p e s = ⟨(await w fuel m p e s.2).yield, (await w fuel m p e s.2).progress,
      (await w fuel m p e s.2).engine, t, (await w fuel m p e s.2).world⟩ := by
  induction m generalizing p e s with
  | zero => exact ⟨s.1, rfl⟩
  | succ m ih =>
    obtain ⟨t, ht⟩ := nudge_observes hw fuel p .send e s
    simp only [await, ht]
    rcases nudge w fuel p .send e s.2 with ⟨_ | o, p', e', z⟩
    · exact ih p' e' (t, z)
    · exact ⟨t, rfl⟩

end Observes

/-! ## Taking down -/

/-- The same surroundings, which take down what they are asked. -/
def recording (w : World ι κ σ) : World ι κ (List (Exchange κ) × σ) := fun e a s =>
  ((w e a s.2).1, (s.1 ++ [⟨e.phase, e.attempts, a, (w e a s.2).1⟩], (w e a s.2).2))

theorem recording_observes (w : World ι κ σ) : (recording w).Observes w := fun _ _ _ => ⟨rfl, rfl⟩

/-- One more step of a coroutine, with the number of replies it may take. -/
def urge (w : World ι κ σ) (t : Turn ι κ σ) (q : Nat × Nudge) : Turn ι κ σ :=
  nudge w q.1 t.progress q.2 t.engine t.world

/-- A coroutine of a fresh engine after it has been told one thing after another. -/
def told (w : World ι κ σ) (mode : Mode) (setup : Setup ι) (s : σ) (qs : List (Nat × Nudge)) :
    Turn ι κ σ :=
  qs.foldl (urge w) ⟨.suspended, .unstarted, make mode setup, s⟩

theorem foldl_urge_observes {τ : Type} {w' : World ι κ (τ × σ)} {w : World ι κ σ} (hw : w'.Observes w)
    (qs : List (Nat × Nudge)) (t : Turn ι κ σ) (x : τ) :
    ∃ y, qs.foldl (urge w') ⟨t.yield, t.progress, t.engine, x, t.world⟩ =
      ⟨(qs.foldl (urge w) t).yield, (qs.foldl (urge w) t).progress, (qs.foldl (urge w) t).engine, y,
        (qs.foldl (urge w) t).world⟩ := by
  induction qs generalizing t x with
  | nil => exact ⟨x, rfl⟩
  | cons q qs ih =>
    obtain ⟨y, hy⟩ := nudge_observes hw q.1 t.progress q.2 t.engine (x, t.world)
    simp only [List.foldl_cons, urge, hy]
    exact ih _ y

/-- What is told to a coroutine has the same effect whether or not it is taken down. -/
theorem told_recording (w : World ι κ σ) (mode : Mode) (setup : Setup ι) (s : σ) (qs : List (Nat × Nudge)) :
    ∃ T, told (recording w) mode setup ([], s) qs =
      ⟨(told w mode setup s qs).yield, (told w mode setup s qs).progress,
        (told w mode setup s qs).engine, T, (told w mode setup s qs).world⟩ :=
  foldl_urge_observes (recording_observes w) qs ⟨.suspended, .unstarted, make mode setup, s⟩ []

end Engine

end Reattempt
