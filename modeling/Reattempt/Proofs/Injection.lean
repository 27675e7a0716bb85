import Reattempt.Proofs.Misuse

/-!
# Faults that are thrown in

What is pending is resumed by the fault that is thrown into the coroutine, and if it lets the fault
through the engine has it. A fault that is no ordinary one ends the drive then and there, and so does any
that comes while a delay is pending. An ordinary one that comes while an attempt is pending is the failure of
that attempt, and nobody can tell how it got there. A coroutine that has not started has no engine to
trouble.
-/
namespace Reattempt

/-- What is parked. -/
def Stage.parked? {κ : Type} : Stage κ → Option κ
  | .attempting p .parked => some p
  | .dozing _ p .parked => some p
  | _ => none

theorem Stage.ask?_eq_none {κ : Type} {n : Nat} {stage : Stage κ} (h : stage.ask? n = none) :
    ∃ p, stage.parked? = some p := by
  cases stage with
  | attempting p hold =>
    cases hold with
    | parked => exact ⟨p, rfl⟩
    | waking signal => cases h
  | dozing d p hold =>
    cases hold with
    | parked => exact ⟨p, rfl⟩
    | waking signal => cases h
  | _ => cases h

theorem Stage.ask?_wake {κ : Type} {stage : Stage κ} {p : κ} (h : stage.parked? = some p)
    (signal : Option Fault) (n : Nat) : (stage.wake signal).ask? n = some (.resume p signal) := by
  cases stage with
  | attempting q hold =>
    cases hold with
    | parked => cases h; rfl
    | waking signal => cases h
  | dozing d q hold =>
    cases hold with
    | parked => cases h; rfl
    | waking signal => cases h
  | _ => cases h

namespace Engine

variable {ι κ : Type} {e : Engine ι κ} {n : Nat} {stage : Stage κ} {p : κ} {x : Fault}

/-- A fault that comes from what is pending ends the drive, unless an attempt may fail by it. -/
theorem reply_wake_final (hl : e.life = .running n stage) (hp : stage.parked? = some p)
    (hx : x.isOrdinary = false ∨ stage.phase = .waiting ∧ x.isA .stopIteration = false)
    (signal : Option Fault) : (e.wake signal).reply (.raised x) = e.finish n (.raised x) := by
  have hleaving : e.mode.leaving x = x := by
    refine Mode.leaving_of_isA_eq_false ?_ _
    rcases hx with hx | ⟨-, hx⟩
    · refine Bool.eq_false_iff.mpr fun h => ?_
      rw [Fault.isOrdinary, FaultClass.isOrdinary_of_isA_stopIteration h] at hx
      cases hx
    · exact hx
  have hwake : e.wake signal = { e with life := .running n (stage.wake signal) } := by simp only [wake, hl]
  rw [hwake, reply_running rfl, replyAt_of_life e.mode e.setup _ e.life]
  cases stage with
  | attempting q hold =>
    have hx : x.isOrdinary = false := by
      rcases hx with hx | ⟨hx, -⟩
      · exact hx
      · cases hx
    simp only [Stage.wake, replyAt, attemptRaised, hleaving, hx]
    rfl
  | dozing d q hold => simp only [Stage.wake, replyAt, abort, hleaving]
  | _ => cases hp

/-- An attempt that fails while it is pending fails as one that fails at once. -/
theorem reply_wake_attempting (hl : e.life = .running n stage) (hp : stage.parked? = some p)
    (hs : stage.phase = .executing) (signal : Option Fault) :
    (e.wake signal).reply (.raised x) = (e.enter n .calling).reply (.raised x) := by
  have hwake : e.wake signal = { e with life := .running n (stage.wake signal) } := by simp only [wake, hl]
  rw [hwake, reply_running rfl, reply_running (e := e.enter n .calling) rfl,
    replyAt_of_life e.mode e.setup _ e.life, enter, replyAt_of_life e.mode e.setup (.running n .calling) e.life]
  cases stage with
  | attempting q hold => rfl
  | dozing d q hold => cases hs
  | _ => cases hp

end Engine

namespace Family

open Engine

variable {ι κ : Type}

/-! ## Runs that differ in one ask -/

/-- What of a drive makes a difference to those who reply. -/
def Drive.bearing (v : Drive) : Nat × Option Nat × (Yield → Yield) :=
  (v.engine, v.coroutine, v.nudge.answer)

/-- Two families that cannot be told apart, but for what they have asked so far. -/
structure Alike (qs qs' : List (Nat × Ask κ)) (f f' : Family ι κ) : Prop where
  engines : f.engines = f'.engines
  coroutines : f.coroutines = f'.coroutines
  drives : f.drives.map Drive.bearing = f'.drives.map Drive.bearing
  asked : ∃ later, f.asked = qs ++ later ∧ f'.asked = qs' ++ later

section Alike

variable {qs qs' : List (Nat × Ask κ)} {f f' : Family ι κ}

theorem alike_proceed (h : Alike qs qs' f f') {v v' : Drive} (hv : v.bearing = v'.bearing)
    (e : Engine ι κ) :
    (f.proceed v e).1 = (f'.proceed v' e).1 ∧ Alike qs qs' (f.proceed v e).2 (f'.proceed v' e).2 := by
  obtain ⟨later, hq, hq'⟩ := h.asked
  have hengine : v.engine = v'.engine := congrArg Prod.fst hv
  have hcoroutine : v.coroutine = v'.coroutine := congrArg (fun b => b.2.1) hv
  have hanswer : v.nudge.answer = v'.nudge.answer := congrArg (fun b => b.2.2) hv
  cases ha : e.ask? with
  | none =>
    rw [proceed_of_ask_none v f ha, proceed_of_ask_none v' f' ha, hengine, hcoroutine, hanswer, h.engines,
      h.coroutines]
    exact ⟨rfl, rfl, rfl, h.drives, later, hq, hq'⟩
  | some a =>
    rw [proceed_of_ask v f ha, proceed_of_ask v' f' ha, hengine, hcoroutine, h.engines, h.coroutines, hq, hq']
    exact ⟨rfl, rfl, rfl, by rw [List.map_cons, List.map_cons, hv, h.drives], later ++ [(v'.engine, a)],
      by simp, by simp⟩

theorem alike_stir (h : Alike qs qs' f f') (v : Drive) (p : Progress) (e : Engine ι κ) :
    (f.stir v p e).1 = (f'.stir v p e).1 ∧ Alike qs qs' (f.stir v p e).2 (f'.stir v p e).2 := by
  unfold Family.stir
  cases e.stir p v.nudge with
  | error o => exact ⟨rfl, h.engines, by rw [h.coroutines], h.drives, h.asked⟩
  | ok e' => exact alike_proceed h rfl e'

theorem any_bearing (vs : List Drive) (k : Nat) : (vs.any fun v => v.coroutine == some k) =
    (vs.map Drive.bearing).any fun b => b.2.1 == some k := by
  rw [List.any_map]
  rfl

/-- Each move comes to the same. -/
theorem alike_step (h : Alike qs qs' f f') (m : Move ι κ) :
    (f.step m).1 = (f'.step m).1 ∧ Alike qs qs' (f.step m).2 (f'.step m).2 := by
  cases m with
  | reconfigure i change =>
    simp only [step, h.engines]
    cases f'.engines[i]? with
    | none => exact ⟨rfl, h⟩
    | some e =>
      cases hr : e.reconfigure change.apply with
      | error x => simp only [hr]; exact ⟨trivial, h⟩
      | ok p => simp only [hr]; exact ⟨trivial, rfl, h.coroutines, h.drives, h.asked⟩
  | call i =>
    simp only [step, h.engines]
    cases f'.engines[i]? with
    | none => exact ⟨rfl, h⟩
    | some e =>
      cases hm : e.mode with
      | blocking => simp only [hm]; exact alike_stir h _ _ e
      | cooperative => simp only [hm]; exact ⟨trivial, h⟩
  | run i =>
    simp only [step, h.engines, h.coroutines]
    cases f'.engines[i]? with
    | none => exact ⟨rfl, h⟩
    | some e =>
      cases hm : e.mode with
      | blocking => simp only [hm]; exact ⟨trivial, h⟩
      | cooperative =>
        cases hf : e.ensureFresh with
        | error x => simp only [hm, hf]; exact ⟨trivial, h⟩
        | ok _ => simp only [hm, hf]; exact ⟨trivial, rfl, rfl, h.drives, h.asked⟩
  | nudge k n =>
    simp only [step, h.coroutines, any_bearing, h.drives]
    cases f'.coroutines[k]? with
    | none => exact ⟨rfl, h⟩
    | some c =>
      cases hx : (f'.drives.map Drive.bearing).any fun b => b.2.1 == some k with
      | true => exact ⟨rfl, h⟩
      | false =>
        simp only [h.engines]
        cases f'.engines[c.engine]? with
        | none => exact ⟨rfl, h⟩
        | some e => exact alike_stir h _ _ e
  | reply r =>
    have hd := h.drives
    cases hv : f.drives with
    | nil =>
      rw [hv] at hd
      obtain hv' : f'.drives = [] := List.map_eq_nil_iff.mp hd.symm
      simp only [step, hv, hv']
      exact ⟨trivial, h⟩
    | cons v vs =>
      rw [hv] at hd
      obtain ⟨v', vs', hv', hhead, htail⟩ := List.map_eq_cons_iff.mp hd.symm
      have hengine : v.engine = v'.engine := (congrArg Prod.fst hhead).symm
      simp only [step, hv, hv', h.engines, hengine]
      cases f'.engines[v'.engine]? with
      | none => exact ⟨rfl, h⟩
      | some e =>
        have halike : Alike qs qs' { f with engines := f'.engines, drives := vs } { f' with drives := vs' } :=
          ⟨rfl, h.coroutines, htail.symm, h.asked⟩
        exact alike_proceed halike hhead.symm _

theorem alike_run (h : Alike qs qs' f f') (ms : List (Move ι κ)) :
    f.answers ms = f'.answers ms ∧ Alike qs qs' (f.run ms) (f'.run ms) := by
  induction ms generalizing f f' with
  | nil => exact ⟨rfl, h⟩
  | cons m ms ih =>
    obtain ⟨hanswer, hstep⟩ := alike_step h m
    obtain ⟨hanswers, hrun⟩ := ih hstep
    exact ⟨by rw [answers_cons, answers_cons, hanswer, hanswers], hrun⟩

end Alike

/-! ## What is thrown into a coroutine that has started -/

/-- The `k`-th coroutine waits with its engine, the `i`-th, for what is parked in attempt `n`. -/
structure Suspended (f : Family ι κ) (k i : Nat) (e : Engine ι κ) (n : Nat) (stage : Stage κ) (p : κ) :
    Prop where
  coroutine : f.coroutines[k]? = some ⟨i, .driving⟩
  drives : f.drives = []
  engine : f.engines[i]? = some e
  life : e.life = .running n stage
  parked : stage.parked? = some p

/-- A drive goes on with one engine in the place of another. -/
theorem proceed_set (v : Drive) (e e' : Engine ι κ) (f : Family ι κ) :
    ({ f with engines := f.engines.set v.engine e' } : Family ι κ).proceed v e = f.proceed v e := by
  cases ha : e.ask? with
  | none => rw [proceed_of_ask_none v _ ha, proceed_of_ask_none v f ha, List.set_set]
  | some a => rw [proceed_of_ask v _ ha, proceed_of_ask v f ha, List.set_set]

/-- The family while what is parked is being resumed. -/
def resuming (k i : Nat) (e : Engine ι κ) (p : κ) (q : Nudge) (f : Family ι κ) : Family ι κ :=
  ⟨f.engines.set i (e.wake q.signal), noted .driving (some k) f.coroutines, [⟨i, some k, q⟩],
    f.asked ++ [(i, .resume p q.signal)]⟩

/-- What is parked has been resumed, and its reply is all that is missing. -/
def resumed (k i : Nat) (p : κ) (q : Nudge) (f : Family ι κ) : Family ι κ :=
  ⟨f.engines, noted .driving (some k) f.coroutines, [], f.asked ++ [(i, .resume p q.signal)]⟩

section Suspended

variable {b : ι} {f : Family ι κ} {k i n : Nat} {e : Engine ι κ} {stage : Stage κ} {p : κ} {x : Fault}

/-- A coroutine that is driving and not executing is suspended. -/
theorem Sound.suspended (h : Sound b f) (hc : f.coroutines[k]? = some ⟨i, .driving⟩) (hd : f.drives = []) :
    ∃ e n stage p, f.Suspended k i e n stage p := by
  obtain ⟨old, e, n, stage, hf, -, -, hi, hl, -, ha, -⟩ := h.parked hc rfl (by simp [hd])
  obtain ⟨p, hp⟩ := Stage.ask?_eq_none ha
  have hi : i = old.length := hi
  exact ⟨e, n, stage, p, hc, hd, by simp [hf, hi], hl, hp⟩

theorem Suspended.step_nudge (h : f.Suspended k i e n stage p) (q : Nudge) :
    f.step (.nudge k q) = (.asked (.resume p q.signal), f.resuming k i e p q) := by
  have hask : (e.wake q.signal).ask? = some (.resume p q.signal) := by
    simp only [wake, h.life, ask?, Stage.ask?_wake h.parked]
  rw [Family.step_nudge h.coroutine (by simp [h.drives]) h.engine q]
  simp only [Family.stir, Engine.stir]
  rw [proceed_of_ask _ f hask, h.drives]
  rfl

theorem Suspended.step_reply (h : f.Suspended k i e n stage p) (q : Nudge) (r : Reply κ) :
    (f.resuming k i e p q).step (.reply r) =
      (f.resumed k i p q).proceed ⟨i, some k, q⟩ ((e.wake q.signal).reply r) := by
  have he : (f.resuming k i e p q).engines[i]? = some (e.wake q.signal) := by
    simp [resuming, (List.getElem?_eq_some_iff.mp h.engine).1]
  have hd : (f.resuming k i e p q).drives = [⟨i, some k, q⟩] := rfl
  simp only [step, hd, he]
  exact proceed_set ⟨i, some k, q⟩ _ (e.wake q.signal) (f.resumed k i p q)

theorem Suspended.engine_reply (h : f.Suspended k i e n stage p) (q : Nudge) (r : Reply κ) :
    ((f.resuming k i e p q).step (.reply r)).2.engines[i]? = some ((e.wake q.signal).reply r) := by
  rw [h.step_reply, engines_proceed]
  simp [resumed, (List.getElem?_eq_some_iff.mp h.engine).1]

/-- Told `q`, the coroutine resumes what is parked by the fault `x`. If that lets it through, the drive ends
with it: who told the coroutine is given `o`, the engine is done for good, and nothing else is ever asked. -/
def EndsBy (f : Family ι κ) (k i : Nat) (e : Engine ι κ) (n : Nat) (p : κ) (q : Nudge) (x : Fault)
    (o : Outcome) : Prop :=
  f.answers [.nudge k q, .reply (.raised x)] = [.asked (.resume p (some x)), .came (.ended o)] ∧
    ∀ ms, (f.run (.nudge k q :: .reply (.raised x) :: ms)).asked = f.asked ++ [(i, .resume p (some x))] ∧
      (f.run (.nudge k q :: .reply (.raised x) :: ms)).engines[i]? = some (e.finish n (.raised x))

theorem Suspended.endsBy (h : f.Suspended k i e n stage p) (hs : Sound b f)
    (hx : x.isOrdinary = false ∨ stage.phase = .waiting ∧ x.isA .stopIteration = false)
    {q : Nudge} {o : Outcome} (hq : q.signal = some x) (ho : q.answer (.ended (.raised x)) = .ended o) :
    f.EndsBy k i e n p q x o := by
  have hlife : ((e.wake q.signal).reply (.raised x)).life = .done n (.raised x) := by
    rw [reply_wake_final h.life h.parked hx]
    rfl
  have hsound : Sound b (f.run [.nudge k q, .reply (.raised x)]) := sound_run hs _
  have hengine : (f.run [.nudge k q, .reply (.raised x)]).engines[i]? =
      some ((e.wake q.signal).reply (.raised x)) := by
    rw [run_cons, run_cons, h.step_nudge]
    exact h.engine_reply q _
  have hasked : (f.run [.nudge k q, .reply (.raised x)]).asked = f.asked ++ [(i, .resume p (some x))] := by
    rw [run_cons, run_cons, h.step_nudge, h.step_reply, proceed_of_ask_none _ _ (by simp [ask?, hlife]),
      run_nil, ← hq]
    rfl
  refine ⟨?_, fun ms => ⟨?_, ?_⟩⟩
  · rw [answers_cons, answers_cons, h.step_nudge, h.step_reply, proceed_of_ask_none _ _ (by simp [ask?, hlife]),
      yielded_of_over hlife, ho, hq]
    rfl
  · exact (asked_run_of_done hsound hengine hlife ms).trans hasked
  · rw [← reply_wake_final h.life h.parked hx q.signal]
    exact getElem?_run_of_settled hengine (by rw [hlife]; exact fun _ hl => hl) ms

/-- If what is parked lets `x` through, the attempt has failed by it, as if it had never been pending; and
from there on all is as if it had been resumed by nothing and had raised `x` of its own accord. -/
def FailsBy (f : Family ι κ) (k i : Nat) (e : Engine ι κ) (n : Nat) (p : κ) (x : Fault) : Prop :=
  (f.run [.nudge k (.throw x), .reply (.raised x)]).engines[i]? =
      some ((e.enter n .calling).reply (.raised x)) ∧
    ∀ ms, let thrown := f.run (.nudge k (.throw x) :: .reply (.raised x) :: ms)
      let own := f.run (.nudge k .send :: .reply (.raised x) :: ms)
      thrown.engines = own.engines ∧ thrown.coroutines = own.coroutines ∧
      (∃ later, thrown.asked = f.asked ++ (i, .resume p (some x)) :: later ∧
        own.asked = f.asked ++ (i, .resume p none) :: later) ∧
      ∃ as, f.answers (.nudge k (.throw x) :: .reply (.raised x) :: ms) = .asked (.resume p (some x)) :: as ∧
        f.answers (.nudge k .send :: .reply (.raised x) :: ms) = .asked (.resume p none) :: as

theorem Suspended.alike (h : f.Suspended k i e n stage p) (hp : stage.phase = .executing) :
    ((f.resuming k i e p (.throw x)).step (.reply (.raised x))).1 =
        ((f.resuming k i e p .send).step (.reply (.raised x))).1 ∧
      Alike (f.asked ++ [(i, .resume p (some x))]) (f.asked ++ [(i, .resume p none)])
        ((f.resuming k i e p (.throw x)).step (.reply (.raised x))).2
        ((f.resuming k i e p .send).step (.reply (.raised x))).2 := by
  have hreply : ∀ signal, (e.wake signal).reply (.raised x) = (e.enter n .calling).reply (.raised x) :=
    reply_wake_attempting h.life h.parked hp
  rw [h.step_reply, h.step_reply, hreply, hreply]
  have halike : Alike (f.asked ++ [(i, .resume p (some x))]) (f.asked ++ [(i, .resume p none)])
      (f.resumed k i p (.throw x)) (f.resumed k i p .send) :=
    ⟨rfl, rfl, rfl, [], (List.append_nil _).symm, (List.append_nil _).symm⟩
  have hbearing : (⟨i, some k, .throw x⟩ : Drive).bearing = (⟨i, some k, .send⟩ : Drive).bearing := rfl
  exact alike_proceed halike hbearing _

theorem Suspended.failsBy (h : f.Suspended k i e n stage p) (hp : stage.phase = .executing) :
    f.FailsBy k i e n p x := by
  refine ⟨?_, fun ms => ?_⟩
  · rw [run_cons, run_cons, h.step_nudge, ← reply_wake_attempting h.life h.parked hp (some x)]
    exact h.engine_reply (.throw x) _
  · obtain ⟨hanswer, hstep⟩ := h.alike (x := x) hp
    obtain ⟨hanswers, hrun⟩ := alike_run hstep ms
    obtain ⟨later, hthrown, hown⟩ := hrun.asked
    simp only [run_cons, answers_cons, h.step_nudge]
    exact ⟨hrun.engines, hrun.coroutines, ⟨later, by simpa using hthrown, by simpa using hown⟩, _, rfl,
      by rw [hanswer, hanswers]; rfl⟩

end Suspended

/-! ## What is thrown into a coroutine that has not started -/

section Unstarted

variable {b : ι} {f : Family ι κ} {k i : Nat} {e : Engine ι κ}

/-- It ends, and nothing else changes. -/
theorem step_throw_unstarted (h : Sound b f) (hc : f.coroutines[k]? = some ⟨i, .unstarted⟩)
    (he : f.engines[i]? = some e) (x : Fault) :
    f.step (.nudge k (.throw x)) = (.came (.ended (.raised (Mode.cooperative.leaving x))), f.ending k) := by
  rw [step_nudge hc (h.free hc nofun) he]
  rfl

theorem step_close_unstarted (h : Sound b f) (hc : f.coroutines[k]? = some ⟨i, .unstarted⟩)
    (he : f.engines[i]? = some e) :
    f.step (.nudge k .close) = (.came (.ended (.returned .none)), f.ending k) := by
  rw [step_nudge hc (h.free hc nofun) he]
  rfl

/-- A fresh engine can be driven and reconfigured. -/
theorem usable_of_fresh (h : Sound b f) (he : f.engines[i]? = some e) (hl : e.life = .fresh)
    (hm : e.mode = .cooperative) :
    f.answers [.run i, .nudge f.coroutines.length .send] = [.coroutine f.coroutines.length, .asked .invoke] ∧
      ∀ change, (f.step (.reconfigure i change)).1 = .engine f.engines.length := by
  have hrun := step_run he hl hm
  have hsound : Sound b (f.step (.run i)).2 := sound_step h _
  rw [hrun] at hsound
  refine ⟨?_, fun change => ?_⟩
  · rw [answers_cons, hrun, answers_cons, step_nudge_fresh hsound he hl (by simp)]
    rfl
  · simp only [step, he, reconfigure, hl]

end Unstarted

/-- Whatever moves were made with a cooperative engine and those that were reconfigured from it, by whomever:
a coroutine that is driving while no reply is waited for is suspended. A fault that is thrown into it and let
through by what is parked ends the drive unless it is an ordinary one, as does closing, and an ordinary one
does if a delay is pending. While an attempt is pending the fault is what the attempt has raised, and all goes
on as if the attempt had raised it by itself. A coroutine that has not started ends alone, and its engine can
be driven and reconfigured if it could be before. -/
theorem injected_fault_ends_drive_or_fails_attempt (setup : Setup ι) (ms : List (Move ι κ)) :
    let f := (found .cooperative setup).run ms
    (∀ k i, f.coroutines[k]? = some ⟨i, .driving⟩ → f.drives = [] →
      ∃ e n stage p, f.Suspended k i e n stage p ∧
        (∀ x, (x.isOrdinary = false ∨ stage.phase = .waiting ∧ x.isA .stopIteration = false) →
          f.EndsBy k i e n p (.throw x) x (.raised x)) ∧
        (∀ x, Nudge.close.signal = some x → f.EndsBy k i e n p .close x (.returned .none)) ∧
        (stage.phase = .executing → ∀ x, f.FailsBy k i e n p x)) ∧
    ∀ k i e, f.coroutines[k]? = some ⟨i, .unstarted⟩ → f.engines[i]? = some e →
      (∀ x, f.step (.nudge k (.throw x)) =
        (.came (.ended (.raised (Mode.cooperative.leaving x))), f.ending k)) ∧
      f.step (.nudge k .close) = (.came (.ended (.returned .none)), f.ending k) ∧
      (e.life = .fresh → (f.ending k).engines[i]? = some e ∧ e.attempts = 0 ∧
        (f.ending k).answers [.run i, .nudge f.coroutines.length .send] =
          [.coroutine f.coroutines.length, .asked .invoke] ∧
        ∀ change, ((f.ending k).step (.reconfigure i change)).1 = .engine f.engines.length) := by
  intro f
  have h : Sound setup.backoff f := sound_run (sound_found .cooperative setup) ms
  refine ⟨fun k i hc hd => ?_, fun k i e hc he => ?_⟩
  · obtain ⟨e, n, stage, p, hs⟩ := h.suspended hc hd
    refine ⟨e, n, stage, p, hs, fun x hx => hs.endsBy h hx rfl rfl, fun x hx => ?_, fun hp x => hs.failsBy hp⟩
    cases hx
    exact hs.endsBy h (.inl rfl) rfl rfl
  · have hclose := step_close_unstarted h hc he
    have hsound : Sound setup.backoff (f.ending k) := by
      have := sound_step h (.nudge k .close)
      rwa [hclose] at this
    refine ⟨step_throw_unstarted h hc he, hclose, fun hl => ⟨he, by simp [attempts, hl, Life.attempts], ?_⟩⟩
    have hm : e.mode = .cooperative := modes_run .cooperative setup ms e (List.mem_of_getElem? he)
    have hlen : (f.ending k).coroutines.length = f.coroutines.length := by simp [ending, noted]
    rw [← hlen]
    exact usable_of_fresh hsound he hl hm

/-- While the first attempt is pending, closing ends the drive, and an ordinary fault is its failure. -/
theorem pending_attempt_ends_or_fails :
    let f := (found .cooperative (default : Setup Unit) : Family Unit Unit).run
      [.run 0, .nudge 0 .send, .reply (.pending () none), .reply (.pending () none)]
    ∃ e n p, e.phase = .executing ∧
      f.EndsBy 0 0 e n p .close (.plain .generatorExit .own [] []) (.returned .none) ∧
      f.FailsBy 0 0 e n p (Fault.valueError "lost") := by
  intro f
  obtain ⟨e, n, stage, p, hs, -, hclose, hfails⟩ :=
    (injected_fault_ends_drive_or_fails_attempt (default : Setup Unit)
      [.run 0, .nudge 0 .send, .reply (.pending () none), .reply (.pending () none)]).1 0 0 rfl rfl
  have he : e = ⟨.cooperative, default, .running 1 (.attempting () .parked)⟩ :=
    (Option.some.inj hs.engine).symm
  obtain ⟨rfl, rfl⟩ : n = 1 ∧ stage = .attempting () .parked := by
    have hl := hs.life
    rw [he] at hl
    cases hl
    exact ⟨rfl, rfl⟩
  exact ⟨e, 1, p, by rw [he]; rfl, hclose _ rfl, hfails rfl _⟩

end Family

end Reattempt
