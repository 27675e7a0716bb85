import Reattempt.Proofs.Discipline

/-!
# What is asked for in a cycle

A cycle asks for five things in a fixed order, and for each at most once. Having come to one of them, it has
asked for that and for all before it, but for what nobody is there to do. The transcript of an attempt that
is the `n`-th has `n - 1` whole cycles before.
-/
namespace Reattempt

variable {ι κ : Type}

/-- What is asked for in a cycle, in this order. A report is taken down by nobody in particular, and what is
resumed has been asked for before. -/
inductive Duty where
  | operate
  | judge
  | advance
  | notify
  | sleep
  deriving DecidableEq, Repr

def Ask.duty? : Ask κ → Option Duty
  | .invoke => some .operate
  | .judge _ => some .judge
  | .advance => some .advance
  | .notify .. => some .notify
  | .sleep _ => some .sleep
  | .resume .. | .report _ => none

namespace Duty

def rank : Duty → Nat
  | .operate => 0
  | .judge => 1
  | .advance => 2
  | .notify => 3
  | .sleep => 4

/-- How often a duty has been asked for. -/
def times (d : Duty) (T : List (Exchange κ)) : Nat := T.countP fun q => q.ask.duty? = some d

@[simp] theorem times_nil (d : Duty) : d.times ([] : List (Exchange κ)) = 0 := rfl

@[simp] theorem times_append (d : Duty) (T U : List (Exchange κ)) :
    d.times (T ++ U) = d.times T + d.times U := List.countP_append

@[simp] theorem times_cons (d : Duty) (q : Exchange κ) (T : List (Exchange κ)) :
    d.times (q :: T) = d.times T + if q.ask.duty? = some d then 1 else 0 := by
  simp [times, List.countP_cons]

end Duty

theorem Duty.rank_injective : Function.Injective Duty.rank := by
  intro d d' h
  cases d <;> cases d' <;> first | rfl | cases h

namespace Setup

variable (u : Setup ι)

/-- Whether there is somebody for a duty. -/
def has : Duty → Bool
  | .judge => u.judge.isSome
  | .notify => u.notifier.isSome
  | _ => true

/-- How often a cycle that has come to the duty `last` has asked for another. -/
def share (last d : Duty) : Nat := if u.has d && d.rank ≤ last.rank then 1 else 0

theorem share_next {last next : Duty} (hr : next.rank = last.rank + 1) (d : Duty) :
    u.share next d = u.share last d + if u.has next ∧ next = d then 1 else 0 := by
  by_cases hd : next = d
  · subst hd
    have hlt : ¬ next.rank ≤ last.rank := by omega
    simp [share, hlt]
  · have hne : next.rank ≠ d.rank := fun h => hd (Duty.rank_injective h)
    have hle : d.rank ≤ next.rank ↔ d.rank ≤ last.rank := by omega
    simp only [share, hd, and_false, if_false, Nat.add_zero, hle]

theorem share_operate (d : Duty) : u.share .operate d = if d = .operate then 1 else 0 := by
  cases d <;> simp [share, has, Duty.rank]

/-- A whole cycle asks for everything. -/
theorem share_sleep (d : Duty) : u.share .sleep d = if u.has d then 1 else 0 := by
  have hle : d.rank ≤ Duty.sleep.rank := by cases d <;> decide
  simp [share, hle]

/-- What is asked for next. -/
theorem share_add (last : Duty) {next : Duty} (hr : next.rank = last.rank + 1) (h : u.has next) (d : Duty) :
    u.share last d + (if some next = some d then 1 else 0) = u.share next d := by
  rw [u.share_next hr]
  simp [h]

/-- Where nobody is asked, a cycle goes on as if somebody had been. -/
theorem share_skip (last : Duty) {next : Duty} (hr : next.rank = last.rank + 1) (h : u.has next = false)
    (d : Duty) : u.share last d = u.share next d := by
  rw [u.share_next hr]
  simp [h]

end Setup

/-! ## The cycle of one attempt -/

section Cycle

variable {m : Mode} {u : Setup ι} {n : Nat} {T : List (Exchange κ)}

theorem Invoked.times {r : Reply κ} (h : Invoked m n T r) (u : Setup ι) (d : Duty) :
    d.times T = u.share .operate d := by
  induction h with
  | call r => cases d <;> simp [Ask.duty?, Setup.share, Setup.has, Duty.rank]
  | resume signal r hm h ih => simpa [Ask.duty?] using ih

theorem Failed.times {f : Failure} (h : Failed m n T f) (u : Setup ι) (d : Duty) :
    d.times T = u.share .operate d := by
  obtain ⟨r, hi, -⟩ := h
  exact hi.times u d

theorem Accepted.times {f : Failure} (h : Accepted m u n T f) (d : Duty) :
    d.times T = u.share .judge d := by
  cases h with
  | unjudged hj h =>
    have hnobody : u.has .judge = false := by simp [Setup.has, hj]
    rw [h.times u, u.share_skip .operate rfl hnobody]
  | judged hj h hr =>
    rw [Duty.times_append, h.times u, ← u.share_add .operate rfl (show u.has .judge from hj)]
    simp [Ask.duty?]

theorem Advanced.times {f : Failure} {v : Value} (h : Advanced m u n T f v) (d : Duty) :
    d.times T = u.share .advance d := by
  obtain ⟨h, -⟩ := h
  rw [Duty.times_append, h.times, ← u.share_add .judge rfl (show u.has .advance from rfl)]
  simp [Ask.duty?]

theorem Scheduled.times {f : Failure} {v : Value} (h : Scheduled m u n T f v) (d : Duty) :
    d.times T = u.share .advance d := by
  obtain ⟨r, h⟩ := h
  simpa [Ask.duty?] using h.times d

theorem Notified.times {f : Failure} {v : Value} (h : Notified m u n T f v) (d : Duty) :
    d.times T = u.share .notify d := by
  cases h with
  | unnoticed hn h =>
    have hnobody : u.has .notify = false := by simp [Setup.has, hn]
    rw [h.times, u.share_skip .advance rfl hnobody]
  | noticed hn h hr =>
    rw [Duty.times_append, h.times, ← u.share_add .advance rfl (show u.has .notify from hn)]
    simp [Ask.duty?]

theorem Slept.times {v : Value} {r : Reply κ} (h : Slept m u n T v r) (d : Duty) :
    d.times T = u.share .sleep d := by
  induction h with
  | sleep r h =>
    rw [Duty.times_append, h.times, ← u.share_add .notify rfl (show u.has .sleep from rfl)]
    simp [Ask.duty?]
  | resume signal r hm h ih => simpa [Ask.duty?] using ih

theorem Cycle.times (h : Cycle m u n T) (d : Duty) : d.times T = u.share .sleep d := by
  obtain ⟨v, w, h⟩ := h
  exact h.times d

/-- One whole cycle for each attempt before. -/
theorem Before.times (h : Before m u n T) (d : Duty) : d.times T = (n - 1) * u.share .sleep d := by
  induction h with
  | first => simp
  | @next n T C h hc ih =>
    obtain ⟨k, rfl⟩ : ∃ k, n = k + 1 := by
      cases h with
      | first => exact ⟨0, rfl⟩
      | @next k => exact ⟨k, rfl⟩
    rw [Duty.times_append, ih, hc.times]
    simp [Nat.add_mul]

end Cycle

end Reattempt
