import Reattempt.Proofs.Reference

/-!
# Both engines agree

With the same cast, a blocking engine and a cooperative one do the same, however the operation and
the sleeper are handed over and however often they suspend. The engines differ only in what they do
with an end of iteration that leaves them and with what they are handed to wait for: a cast that
provides neither goes through the same rounds with every staging.
-/
namespace Reattempt

/-- No end of iteration comes out. -/
def Fault.NeverStops (r : Except Fault Value) : Prop := ∀ x, r = .error x → x.isA .stopIteration = false

theorem Mode.read_eq {r : Except Fault Value} (h : Fault.NeverStops r) (m m' : Mode) :
    m.read r = m'.read r := by
  cases r with
  | ok v => cases v <;> rfl
  | error x =>
    have hx := h x rfl
    simp only [Mode.read, leaving_of_isA_eq_false hx]

theorem Form.settle_eq {r : Except Fault Value} (h : Fault.NeverStops r)
    (hp : ∀ v, r ≠ .ok (.awaitable v)) (f : Form) : f.settle r = r := by
  cases f with
  | plain => exact Form.settle_plain hp
  | coroutine k =>
    cases r with
    | ok v => rfl
    | error x => exact congrArg Except.error (Fault.leaving_of_isA_eq_false (h x rfl) _)
  | awaitable k =>
    cases r with
    | ok v => rfl
    | error x => exact congrArg Except.error (Fault.leaving_of_isA_eq_false (h x rfl) _)

namespace Cast

variable {ι σ : Type}

/-- Nothing to wait for is handed back, and no end of iteration is raised but by the cursor. -/
structure Tame (c : Cast ι σ) : Prop where
  plain : c.IsPlain
  operate : ∀ a g s, Fault.NeverStops (c.operate a g s).1
  judge : ∀ g error s, Fault.NeverStops (c.judge g error s).1
  notify : ∀ g error delay s, Fault.NeverStops (c.notify g error delay s).1
  sleep : ∀ g delay s, Fault.NeverStops (c.sleep g delay s).1

theorem Tame.logged {c : Cast ι σ} (h : c.Tame) : c.logged.Tame where
  plain := h.plain.logged
  operate a g s := h.operate a g s.2
  judge g error s := h.judge g error s.2
  notify g error delay s := h.notify g error delay s.2
  sleep g delay s := h.sleep g delay s.2

/-! ## Rounds do not depend on the staging -/

section Round

variable {c : Cast ι σ} (hc : c.Tame) (d d' : Staging) (u : Setup ι) (n : Nat)
include hc

theorem attempt_eq (s : σ) : c.attempt u n d s = c.attempt u n d' s := by
  have hstop := hc.operate u.arguments ⟨.executing, n⟩ s
  have hplain := hc.plain.1 u.arguments ⟨.executing, n⟩ s
  unfold attempt
  rcases hv : c.operate u.arguments ⟨.executing, n⟩ s with ⟨r, z⟩
  rw [hv] at hstop hplain
  simp only [Form.settle_eq hstop hplain, Mode.read_eq hstop d.mode d'.mode]

theorem judged_neverStops (f : Failure) (s : σ) {x : Fault} {z : σ} (h : c.judged u n f s = (.error x, z)) :
    x.isA .stopIteration = false := by
  have hstop := hc.judge ⟨.executing, n⟩ f.value s
  unfold judged at h
  split at h
  · rcases hv : c.judge ⟨.executing, n⟩ f.value s with ⟨_ | _, z⟩
    · rw [hv] at h hstop
      cases h
      exact hstop x rfl
    · rw [hv] at h
      cases h
  · cases h

theorem noticed_neverStops (f : Failure) (delay : Value) (s : σ) {x : Fault} {z : σ}
    (h : c.noticed u n f delay s = (.error x, z)) : x.isA .stopIteration = false := by
  have hstop := hc.notify ⟨.executing, n⟩ f.value delay s
  unfold noticed at h
  split at h
  · rcases hv : c.notify ⟨.executing, n⟩ f.value delay s with ⟨_ | _, z⟩
    · rw [hv] at h hstop
      cases h
      exact hstop x rfl
    · rw [hv] at h
      cases h
  · cases h

omit hc in
/-- Whatever a cursor raises, an end of iteration does not leave the engine. -/
theorem drawn_neverStops (s : σ) {x : Fault} {z : σ} (h : c.drawn n s = (.error x, z)) :
    x.isA .stopIteration = false := by
  unfold drawn at h
  split at h
  · cases h
  · cases h
  · next y t hv =>
    by_cases hy : y.isA .stopIteration
    · rw [if_pos hy] at h
      cases h
    · rw [if_neg hy] at h
      cases h
      simpa using hy

theorem nextDelay_eq (m m' : Mode) (f : Failure) (s : σ) :
    c.nextDelay u n m f s = c.nextDelay u n m' f s := by
  have hleave : ∀ {x : Fault}, x.isA .stopIteration = false → m.leaving x = m'.leaving x := by
    intro x hx
    rw [Mode.leaving_of_isA_eq_false hx, Mode.leaving_of_isA_eq_false hx]
  unfold nextDelay
  rcases hj : c.judged u n f s with ⟨x | _ | _, z⟩
  · simp only [hleave (judged_neverStops hc u n f s hj)]
  · rfl
  · dsimp only
    rcases hd : c.drawn n z with ⟨x | _ | delay, z⟩
    · simp only [hleave (drawn_neverStops n _ hd)]
    · rfl
    · dsimp only
      rcases hn : c.noticed u n f delay (c.report ⟨.executing, n⟩ (.scheduled n delay f.value) z)
        with ⟨x | _, z⟩
      · simp only [hleave (noticed_neverStops hc u n f delay _ hn)]
      · rfl

theorem rest_eq (delay : Value) (s : σ) : c.rest n d delay s = c.rest n d' delay s := by
  have hstop := hc.sleep ⟨.waiting, n⟩ delay s
  have hplain := hc.plain.2 ⟨.waiting, n⟩ delay s
  unfold rest
  rcases hv : c.sleep ⟨.waiting, n⟩ delay s with ⟨r, z⟩
  rw [hv] at hstop hplain
  simp only [Form.settle_eq hstop hplain]
  cases r with
  | ok v => rfl
  | error x => simp only [Mode.leaving_of_isA_eq_false (hstop x rfl)]

theorem round_eq (s : σ) : c.round u n d s = c.round u n d' s := by
  unfold round
  rw [attempt_eq hc d d' u n s]
  rcases c.attempt u n d' s with ⟨_ | f, z⟩
  · rfl
  · dsimp only
    rw [nextDelay_eq hc u n d.mode d'.mode f z]
    rcases c.nextDelay u n d'.mode f z with ⟨_ | delay, z⟩
    · rfl
    · exact rest_eq hc d d' n delay z

end Round

section Play

variable {c : Cast ι σ} (hc : c.Tame) {d : Staging} (d' : Staging) {u : Setup ι} {s : σ}
include hc

theorem Begins.staged {n : Nat} {t : σ} (h : c.Begins d u s n t) : c.Begins d' u s n t := by
  induction h with
  | first => exact .first
  | next _ hr ih => exact .next ih (by rw [← round_eq hc d d', hr])

theorem Ends.staged {n : Nat} {o : Outcome} {t : σ} (h : c.Ends d u s n o t) : c.Ends d' u s n o t := by
  obtain ⟨z, hb, hr⟩ := h
  exact ⟨z, hb.staged hc d', by rw [← round_eq hc d d', hr]⟩

end Play

/-- Whatever a play of one staging does, a play of any other that is long enough does as well: it has
the same cues in the same order, and if the one ends, then the other ends by the same outcome after
as many attempts, with the cast left the same. -/
theorem stagings_agree {c : Cast ι σ} (hc : c.Tame) (d d' : Staging) (u : Setup ι) (s : σ) (fuel m : Nat) :
    ∃ far, ∀ fuel' ≥ far, ∀ m' ≥ far,
      (c.logged.play d u fuel m ([], s)).world.1 <+: (c.logged.play d' u fuel' m' ([], s)).world.1 ∧
      ∀ o, (c.logged.play d u fuel m ([], s)).yield = .ended o → ∃ n t,
        c.logged.play d u fuel m ([], s) = ⟨.ended o, .finished, ⟨d.mode, u, .done n o⟩, t⟩ ∧
        c.logged.play d' u fuel' m' ([], s) = ⟨.ended o, .finished, ⟨d'.mode, u, .done n o⟩, t⟩ := by
  have hp : ∀ d : Staging, d.mode = .blocking → c.IsPlain := fun _ _ => hc.plain
  by_cases hend : ∃ n o t, c.logged.Ends d u ([], s) n o t
  · obtain ⟨n, o, t, he⟩ := hend
    obtain ⟨far, hfar⟩ := play_of_ends (fun _ => hc.plain.logged) (he.staged hc.logged d')
    refine ⟨far, fun fuel' hf m' hm => ?_⟩
    rw [hfar fuel' hf m' hm]
    refine ⟨play_prefix_of_ends (hp d) he fuel m, fun o' ho => ?_⟩
    obtain ⟨n', t', he', hplay⟩ := ends_of_play (fun _ => hc.plain.logged) ho
    obtain ⟨rfl, rfl, rfl⟩ := he.unique (fun _ => hc.plain.logged) he'
    exact ⟨n, t, hplay, rfl⟩
  · have hend : ∀ n o t, ¬ c.logged.Ends d u ([], s) n o t := fun n o t h => hend ⟨n, o, t, h⟩
    obtain ⟨n, t, hb, hpre⟩ := play_prefix_of_begins (hp d) hend fuel m
    obtain ⟨far, hfar⟩ := prefix_play_of_begins (hp d') (hb.staged hc.logged d')
    refine ⟨far, fun fuel' hf m' hm => ⟨hpre.trans (hfar fuel' hf m' hm), fun o ho => ?_⟩⟩
    obtain ⟨n', t', he, -⟩ := ends_of_play (fun _ => hc.plain.logged) ho
    exact absurd he (hend n' o t')

theorem busy_tame (b : Nat → Bool) : (Ensemble.busy b).cast.Tame where
  plain := Ensemble.busy_isPlain b
  operate a g s x h := by
    simp only [Ensemble.cast, Ensemble.busy] at h
    split at h <;> cases h
    rfl
  judge g error s x h := by cases h
  notify g error delay s x h := by cases h
  sleep g delay s x h := by cases h

open Ensemble in
/-- Busy twice, the operation is awaited as it is called, however it suspends. -/
theorem busy_agrees : (busy (· ≤ 2)).cast.Tame ∧ ∃ far, ∀ fuel ≥ far, ∀ m ≥ far, ∃ l,
    (busy (· ≤ 2)).cast.logged.play (.cooperative (fun _ => .coroutine 2) (fun _ => .awaitable 1)) observed
        fuel m ([], (), 0) =
      ⟨.ended (.returned (.int 7)), .finished, ⟨.cooperative, observed, .done 3 (.returned (.int 7))⟩,
        (l, (), 2)⟩ := by
  refine ⟨busy_tame _, ?_⟩
  obtain ⟨far, hfar⟩ := stagings_agree (busy_tame (· ≤ 2)) .blocking
    (.cooperative (fun _ => .coroutine 2) (fun _ => .awaitable 1)) observed ((), 0) 40 0
  refine ⟨far, fun fuel hf m hm => ?_⟩
  obtain ⟨n, ⟨l, t⟩, hcall, hawait⟩ := (hfar fuel hf m hm).2 (.returned (.int 7)) rfl
  have hlife : n = 3 := (congrArg (fun t => t.engine.attempts) hcall).symm
  have hstate : t = ((), 2) := (congrArg (fun t => t.world.2) hcall).symm
  subst hlife hstate
  exact ⟨l, hawait⟩

end Cast

end Reattempt
