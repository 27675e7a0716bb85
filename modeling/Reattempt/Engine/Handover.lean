import Reattempt.Engine.Family
import Reattempt.Engine.Transcript

/-!
# What a blocking engine hands back

A blocking engine does not wait for what its operation or its sleeper hands back pending. If that is a
coroutine, the engine closes it, so that it is not left behind without ever being awaited. A coroutine that is
under way need not put up with it: its body may end by another fault, or go on. What has been handed over stands
in a hall, and something pending is a place there.
-/
namespace Reattempt

/-- Where a coroutine stands. -/
inductive Standing where
  | created
  | running
  | suspended
  | closed
  deriving DecidableEq, Repr, Inhabited

def Yield.standing : Yield → Standing
  | .suspended => .suspended
  | .ended _ => .closed

theorem Yield.standing_ne_created (y : Yield) : y.standing ≠ .created := by
  cases y <;> nofun

def Yield.fault? : Yield → Option Fault
  | .ended (.raised x) => some x
  | _ => none

/-- A coroutine, or something else that can be waited for. -/
structure Handed where
  isCoroutine : Bool
  standing : Standing
  /-- How often the body has been let run. -/
  runs : Nat
  /-- What the coroutine comes to if it is to end after so many runs. -/
  ending : Nat → Yield
  runs_of_created : standing = .created → runs = 0

namespace Handed

/-- What is left of a coroutine that was to end and has come to `y`. -/
def after (c : Handed) (y : Yield) : Option Fault × Handed :=
  (y.closed.fault?, { c with
    standing := y.standing
    runs := c.runs + 1
    runs_of_created := fun h => absurd h y.standing_ne_created })

/-- Closing lets a body run only that is suspended. It fails on one that is running, and as `Yield.closed` says on
one that goes on or ends by a fault of its own. -/
def close (c : Handed) : Option Fault × Handed :=
  match c.standing with
  | .created => (none, { c with standing := .closed, runs_of_created := nofun })
  | .running => (some Family.executing, c)
  | .suspended => c.after (c.ending c.runs)
  | .closed => (none, c)

/-- Only a coroutine can be closed. -/
def refuse (c : Handed) : Option Fault × Handed := if c.isCoroutine then c.close else (none, c)

/-- What has become of something that was refused and is `c'` since, where closing it has raised `closing`. -/
structure Became (c : Handed) (closing : Option Fault) (c' : Handed) : Prop where
  untouched : ¬ c.isCoroutine → closing = none ∧ c' = c
  closed : c.isCoroutine → closing = none → c'.standing = .closed
  unrun : c.standing = .created → closing = none ∧ c'.runs = 0

/-- That a body goes on is a failure to close it. -/
theorem standing_after {c : Handed} {y : Yield} (h : (c.after y).1 = none) : (c.after y).2.standing = .closed := by
  cases y with
  | suspended => cases h
  | ended o => rfl

theorem standing_close {c : Handed} (h : c.close.1 = none) : c.close.2.standing = .closed := by
  unfold close at h ⊢
  split at h
  · rfl
  · cases h
  · exact standing_after h
  · assumption

/-- A body that has not run when it is closed does not run, and nothing fails. -/
theorem close_of_created {c : Handed} (h : c.standing = .created) : c.close.1 = none ∧ c.close.2.runs = 0 := by
  simp only [close, h, true_and]
  exact c.runs_of_created h

theorem became_refuse (c : Handed) : c.Became c.refuse.1 c.refuse.2 := by
  unfold refuse
  split
  · next hc => exact ⟨fun h => absurd hc h, fun _ => standing_close, close_of_created⟩
  · next hc => exact ⟨fun _ => ⟨rfl, rfl⟩, fun h => absurd h hc, fun h => ⟨rfl, c.runs_of_created h⟩⟩

end Handed

variable {ι κ σ : Type}

/-- Whether an engine refuses to wait for what is handed back pending. -/
def Engine.refuses (e : Engine ι κ) : Ask κ → Bool
  | .invoke => decide (e.mode = .blocking)
  | .sleep _ => decide (e.mode = .blocking)
  | _ => false

/-- The same surroundings, with what is refused closed. What a body that is let run for it does besides is part of
what the surroundings are said to become. -/
def World.refusing (w : World ι Nat (List Handed × σ)) : World ι Nat (List Handed × σ) := fun e a s =>
  match w e a s with
  | (.pending k closing, hall, z) =>
    if e.refuses a then
      (.pending k (hall[k]?.bind fun c => c.refuse.1), hall.modify k fun c => c.refuse.2, z)
    else (.pending k closing, hall, z)
  | (r, s) => (r, s)

/-- What is refused has been handed over, and is closed after that. -/
theorem World.refusing_eq_pending {w : World ι Nat (List Handed × σ)} {e : Engine ι Nat} {a : Ask Nat}
    {s s' : List Handed × σ} {k : Nat} {closing : Option Fault} (ha : e.refuses a)
    (h : w.refusing e a s = (.pending k closing, s')) : ∃ closing' hall,
      w e a s = (.pending k closing', hall, s'.2) ∧ closing = (hall[k]?.bind fun c => c.refuse.1) ∧
      s'.1 = hall.modify k fun c => c.refuse.2 := by
  unfold refusing at h
  split at h
  · next k' closing' hall z hw =>
    rw [if_pos ha] at h
    cases h
    exact ⟨closing', hall, hw, rfl, rfl⟩
  · next hno hw =>
    cases h
    exact absurd rfl (hno k closing s'.1 s'.2 rfl)

end Reattempt
