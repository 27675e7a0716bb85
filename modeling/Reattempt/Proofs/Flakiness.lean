import Reattempt.Proofs.Agreement
import Reattempt.Proofs.Comparison
import Reattempt.Rehearsal.Operation

/-!
# Drives of a flaky operation

A flaky operation counts the calls that it has recorded, and an engine its attempts. Nothing but an attempt
adds to what the operation has recorded, so that both counts go up together: a drive ends after as many
attempts as are left to fail, and one more, unless the cursor is at its end before.
-/
namespace Reattempt

/-- The delays that are slept. -/
def Event.slept? {ι : Type} : Event ι → Option Value
  | .sleep delay => some delay
  | _ => none

namespace Cue

variable {ι : Type}

def sleeps (l : List (Cue ι)) : List Value := l.filterMap fun q => q.event.slept?

end Cue

/-- What an attempt comes to that fails so. -/
def Failure.handed : Failure → Except Fault Value
  | .returned v => .ok (.err v)
  | .raised x => .error x

/-! ## One call -/

namespace Rehearsal.Flaky

/-- The error of call number `k`: the same for each failure, or a new fault of a class. -/
inductive Blames (f : Flaky) (source k : Nat) : Value → Prop where
  | reused (hc : ∀ c, f.error ≠ .cls c) : Blames f source k f.error
  | minted {c : FaultClass} {x : Fault} (hc : f.error = .cls c)
      (hx : Fault.make c (.minted source k) [] [] = .ok x) : Blames f source k (.fault x)

/-- How call number `k` fails: by an error result, or by an ordinary fault that is no end of iteration. -/
inductive FailsBy (f : Flaky) (source k : Nat) : Failure → Prop where
  | returned {v : Value} (hr : f.asResult.isTruthy = true) (hb : f.Blames source k v) :
      FailsBy f source k (.returned v)
  | raised {x : Fault} (hr : f.asResult.isTruthy = false) (hb : f.Blames source k (.fault x))
      (ho : x.isOrdinary = true) (hs : x.isA .stopIteration = false) : FailsBy f source k (.raised x)

/-- A success is told from a failure, and leaves nothing to wait for. -/
def Succeeds (f : Flaky) : Prop := ∀ v, f.value ≠ .err v ∧ f.value ≠ .awaitable v

/-- The same operation, with other calls recorded. -/
def recalling (f : Flaky) (record : List (List Value × Keywords)) : Flaky := { f with received := record }

variable {f : Flaky} {record : List (List Value × Keywords)} {source k : Nat} {limit : Option Int}

theorem FailsBy.recalling {e : Failure} (h : f.FailsBy source k e) : (f.recalling record).FailsBy source k e := by
  have hblames : ∀ {v}, f.Blames source k v → (f.recalling record).Blames source k v := by
    rintro v (hc | ⟨hc, hx⟩)
    · exact .reused hc
    · exact .minted hc hx
  cases h with
  | returned hr hb => exact .returned hr (hblames hb)
  | raised hr hb ho hs => exact .raised hr (hblames hb) ho hs

section Invoke

variable {plain : Bool} {given : List Value × Keywords} (hk : ∀ e ∈ given.2, e.1 ≠ "self")
include hk

end Invoke

/-! ## One attempt -/

/-- Neither mode nor form makes another failure of it. -/
theorem FailsBy.read {e : Failure} (h : f.FailsBy source k e) (m : Mode) (form : Form) :
    m.read (form.settle e.handed) = .ok e := by
  cases h with
  | returned hr hb =>
    rw [Failure.handed, Form.settle_eq (fun x h => by cases h) (fun v h => by cases h)]
    rfl
  | raised hr hb ho hs =>
    rw [Failure.handed, Form.settle_eq (fun x h => by cases h; exact hs) (fun v h => by cases h), Mode.read,
      Mode.leaving_of_isA_eq_false hs, if_pos ho]

theorem Succeeds.read (h : f.Succeeds) (m : Mode) (form : Form) :
    m.read (form.settle (.ok f.value)) = .error (.returned f.value) := by
  have hplain : ∀ v, (.ok f.value : Except Fault Value) ≠ .ok (.awaitable v) :=
    fun v hv => (h v).2 (Except.ok.inj hv)
  rw [Form.settle_eq (fun x h => by cases h) hplain]
  unfold Mode.read
  split
  · next v hv => exact absurd (Except.ok.inj hv) (h v).1
  · next v _ hv => rw [Except.ok.inj hv]
  · next x hv => cases hv

end Rehearsal.Flaky

/-! ## What only an attempt changes -/

namespace Cast

variable {ι σ α : Type}

/-- This part of the state is left alone by all but the operation. -/
structure Frames (c : Cast ι σ) (part : σ → α) : Prop where
  judge : ∀ g error s, part (c.judge g error s).2 = part s
  advance : ∀ g s, part (c.advance g s).2 = part s
  report : ∀ g line s, part (c.report g line s) = part s
  notify : ∀ g error delay s, part (c.notify g error delay s).2 = part s
  sleep : ∀ g delay s, part (c.sleep g delay s).2 = part s

namespace Frames

variable {c : Cast ι σ} {part : σ → α} (h : c.Frames part) (d : Staging) (u : Setup ι) (n : Nat)
include h

theorem logged : c.logged.Frames fun s => part s.2 where
  judge g error s := h.judge g error s.2
  advance g s := h.advance g s.2
  report g line s := h.report g line s.2
  notify g error delay s := h.notify g error delay s.2
  sleep g delay s := h.sleep g delay s.2

theorem judged (f : Failure) (s : σ) : part (c.judged u n f s).2 = part s := by
  unfold Cast.judged
  split
  · exact h.judge _ _ s
  · rfl

theorem drawn (s : σ) : part (c.drawn n s).2 = part s := by
  have hpart := h.advance ⟨.executing, n⟩ s
  unfold Cast.drawn
  split <;> next hv => rw [hv] at hpart; exact hpart

theorem noticed (f : Failure) (delay : Value) (s : σ) : part (c.noticed u n f delay s).2 = part s := by
  unfold Cast.noticed
  split
  · exact h.notify _ _ _ s
  · rfl

theorem rest (delay : Value) (s : σ) : part (c.rest n d delay s).2 = part s := h.sleep _ delay s

theorem nextDelay (m : Mode) (f : Failure) (s : σ) : part (c.nextDelay u n m f s).2 = part s := by
  have hjudged := h.judged u n f s
  unfold Cast.nextDelay
  rcases hj : c.judged u n f s with ⟨x | _ | _, z⟩ <;> rw [hj] at hjudged
  · exact hjudged
  · exact (h.report _ _ z).trans hjudged
  · have hdrawn := (h.drawn n z).trans hjudged
    dsimp only
    rcases hd : c.drawn n z with ⟨x | _ | delay, z'⟩ <;> rw [hd] at hdrawn
    · exact hdrawn
    · exact (h.report _ _ z').trans hdrawn
    · have hnoticed := h.noticed u n f delay (c.report ⟨.executing, n⟩ (.scheduled n delay f.value) z')
      rw [h.report, hdrawn] at hnoticed
      dsimp only
      rcases hn : c.noticed u n f delay (c.report ⟨.executing, n⟩ (.scheduled n delay f.value) z')
        with ⟨x | _, z''⟩ <;> rw [hn] at hnoticed
      · exact hnoticed
      · exact hnoticed

/-- What a round changes of this part, its call of the operation changes. -/
theorem round (s : σ) : part (c.round u n d s).2 = part (c.operate u.arguments ⟨.executing, n⟩ s).2 := by
  have hattempt : part (c.attempt u n d s).2 = part (c.operate u.arguments ⟨.executing, n⟩ s).2 := rfl
  unfold Cast.round
  rcases ha : c.attempt u n d s with ⟨o | f, z⟩ <;> rw [ha] at hattempt
  · exact hattempt
  · have hnext := (h.nextDelay u n d.mode f z).trans hattempt
    dsimp only
    rcases hn : c.nextDelay u n d.mode f z with ⟨o | delay, z'⟩ <;> rw [hn] at hnext
    · exact hnext
    · exact (h.rest d n delay z').trans hnext

end Frames

section Record

variable {β : Type} {c : Cast ι σ} {part : σ → List β} (h : c.Frames part) {d : Staging} {u : Setup ι} {b : β}
  (hcall : ∀ g s, part (c.operate u.arguments g s).2 = part s ++ [b])
include h hcall

end Record

end Cast

namespace Ensemble

open Rehearsal

variable {ι τ : Type}

/-! ## The delays of a script -/

section Sleeps

variable {σ : Type} (E : Ensemble ι σ) (d : Staging) (u : Setup ι) (n : Nat)

end Sleeps

/-! ## A flaky operation among the others -/

/-- The same ensemble with a flaky operation in the place of its own, which is there by what it has recorded. -/
def flaky (E : Ensemble ι τ) (f : Flaky) (source : Nat) (given : ι → List Value × Keywords) (d : Staging) :
    Ensemble ι (List (List Value × Keywords) × τ) where
  operate arguments _ s :=
    match (f.recalling s.1).invoke (d.mode = .blocking) source (given arguments).1 (given arguments).2 with
    | (r, f) => (r, f.received, s.2)
  judge g error s := ((E.judge g error s.2).1, s.1, (E.judge g error s.2).2)
  report g line s := (s.1, E.report g line s.2)
  notify g error delay s := ((E.notify g error delay s.2).1, s.1, (E.notify g error delay s.2).2)
  sleep g delay s := ((E.sleep g delay s.2).1, s.1, (E.sleep g delay s.2).2)
  delays := E.delays
  delays_ne := E.delays_ne

section Runs

variable {E : Ensemble ι τ} {f : Flaky} {source : Nat} {given : ι → List Value × Keywords} {d : Staging}
  {u : Setup ι} {t : τ} {limit : Option Int} {delays : List Value}

section Calls

variable (hk : ∀ e ∈ (given u.arguments).2, e.1 ≠ "self")
include hk

end Calls

end Runs

/-! ## An operation that fails three times -/

/-- Collaborators that do nothing, with a delay of two so many times. -/
def idle (n : Nat) : Ensemble Unit Unit where
  operate _ _ s := (.ok .none, s)
  judge _ _ s := (.none, s)
  report _ _ s := s
  notify _ _ _ s := (.none, s)
  sleep _ _ s := (.none, s)
  delays i := (List.replicate n (Value.int 2))[i]?
  delays_ne i h := by cases List.eq_of_mem_replicate (List.mem_of_getElem? h)

end Ensemble

end Reattempt
