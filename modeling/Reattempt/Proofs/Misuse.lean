import Reattempt.Proofs.Ownership

/-!
# Misuse changes nothing

An engine that is not fresh refuses to be driven and to be reconfigured, by whatever way and from
wherever it is tried. The one who tries is told so; all else goes on as if nobody had tried. So of several
coroutines of one engine the first that is stepped drives it, and each of the others ends with its first
step.
-/
namespace Reattempt.Family

open Engine

variable {ι κ : Type}

/-- The moves by which the `i`-th engine is to be driven or reconfigured. A coroutine that was obtained
before drives by its first step. -/
def Uses (f : Family ι κ) (i : Nat) (e : Engine ι κ) : Move ι κ → Prop
  | .reconfigure j _ => j = i
  | .call j => j = i ∧ e.mode = .blocking
  | .run j => j = i ∧ e.mode = .cooperative
  | .nudge k n => n = .send ∧ f.coroutines[k]? = some ⟨i, .unstarted⟩
  | .reply _ => False

/-- The same family, but a coroutine has ended. -/
def ending (j : Nat) (f : Family ι κ) : Family ι κ :=
  { f with coroutines := noted .finished (some j) f.coroutines }

/-- What is left of a family after a refused move: the coroutine whose step it was has ended. -/
def spent (f : Family ι κ) : Move ι κ → Family ι κ
  | .nudge k _ => f.ending k
  | _ => f

/-- A move steps a coroutine. -/
def Move.Steps (k : Nat) : Move ι κ → Prop
  | .nudge j _ => j = k
  | _ => False

/-! ## What is refused -/

section Refused

variable {f : Family ι κ} {i : Nat} {e : Engine ι κ}

theorem ensureFresh_of_ne (hl : e.life ≠ .fresh) : ∃ message, e.ensureFresh = .error (e.misuse message) := by
  unfold ensureFresh
  split
  · next h => exact absurd h hl
  · exact ⟨_, rfl⟩
  · exact ⟨_, rfl⟩

theorem reconfigure_of_ne (hl : e.life ≠ .fresh) (change : Setup ι → Setup ι) :
    ∃ message, e.reconfigure change = .error (e.misuse message) := by
  unfold reconfigure
  split
  · next h => exact absurd h hl
  · exact ⟨_, rfl⟩

theorem stir_of_ne (hl : e.life ≠ .fresh) {v : Drive} (hv : v.nudge = .send) (f : Family ι κ) :
    ∃ message, f.stir v .unstarted e = (.came (.ended (.raised (e.misuse message))),
      { f with coroutines := noted .finished v.coroutine f.coroutines }) := by
  obtain ⟨message, h⟩ := ensureFresh_of_ne hl
  have hb : e.begin = .error (e.misuse message) := by simp only [begin, h, bind, Except.bind]
  exact ⟨message, by simp only [Family.stir, hv, stir_of_begin_error hb]⟩

theorem step_nudge_of_ne {b : ι} (h : Sound b f) (he : f.engines[i]? = some e) (hl : e.life ≠ .fresh)
    {k : Nat} (hc : f.coroutines[k]? = some ⟨i, .unstarted⟩) : ∃ message,
    f.step (.nudge k .send) = (.came (.ended (.raised (e.misuse message))), f.ending k) := by
  rw [step_nudge hc (h.free hc nofun) he .send]
  exact stir_of_ne hl rfl f

/-- Whatever way it is tried. -/
theorem step_of_uses {b : ι} (h : Sound b f) (he : f.engines[i]? = some e) (hl : e.life ≠ .fresh)
    {m : Move ι κ} (hm : f.Uses i e m) :
    ∃ message, (f.step m).1.fault? = some (e.misuse message) ∧ (f.step m).2 = f.spent m := by
  cases m with
  | reconfigure j change =>
    obtain rfl : j = i := hm
    obtain ⟨message, hr⟩ := reconfigure_of_ne hl change.apply
    exact ⟨message, by simp only [step, he, hr, Answer.fault?], by simp only [step, he, hr, spent]⟩
  | call j =>
    obtain ⟨rfl, hmode⟩ := hm
    obtain ⟨message, hs⟩ := stir_of_ne hl (v := ⟨j, none, .send⟩) rfl f
    exact ⟨message, by simp only [step, he, hmode, hs, Answer.fault?],
      by simp only [step, he, hmode, hs, spent, noted]⟩
  | run j =>
    obtain ⟨rfl, hmode⟩ := hm
    obtain ⟨message, hf⟩ := ensureFresh_of_ne hl
    exact ⟨message, by simp only [step, he, hmode, hf, Answer.fault?],
      by simp only [step, he, hmode, hf, spent]⟩
  | nudge k n =>
    obtain ⟨rfl, hc⟩ := hm
    obtain ⟨message, hs⟩ := step_nudge_of_ne h he hl hc
    rw [hs]
    exact ⟨message, rfl, rfl⟩
  | reply r => cases hm

end Refused

/-! ## A coroutine that has ended makes no difference -/

theorem noted_comm (p p' : Progress) {x : Option Nat} {j : Nat} (hx : x ≠ some j) (cs : List Coroutine) :
    noted p x (noted p' (some j) cs) = noted p' (some j) (noted p x cs) := by
  apply List.ext_getElem?
  intro k
  simp only [getElem?_noted, Option.map_map]
  congr 1
  funext c
  by_cases hk : x = some k
  · have hjk : some j ≠ some k := fun h => hx (hk.trans h.symm)
    simp only [Function.comp, hk, if_true, if_neg hjk]
  · simp only [Function.comp, if_neg hk]

theorem noted_append (p : Progress) {j : Nat} {cs : List Coroutine} (hj : j < cs.length) (c : Coroutine) :
    noted p (some j) (cs ++ [c]) = noted p (some j) cs ++ [c] := by
  apply List.ext_getElem?
  intro k
  rw [getElem?_noted, List.getElem?_append, List.getElem?_append, getElem?_noted]
  have hlen : (noted p (some j) cs).length = cs.length := by simp [noted]
  rw [hlen]
  by_cases hk : k < cs.length
  · rw [if_pos hk, if_pos hk]
  · have hne : some j ≠ some k := by
      rintro h
      cases h
      exact hk hj
    simp only [if_neg hk, if_neg hne, Option.map_id']

section Ending

variable {f : Family ι κ} {j : Nat}

theorem proceed_ending {v : Drive} (hv : v.coroutine ≠ some j) (e : Engine ι κ) :
    (f.ending j).proceed v e = ((f.proceed v e).1, (f.proceed v e).2.ending j) := by
  cases ha : e.ask? with
  | none =>
    rw [proceed_of_ask_none v _ ha, proceed_of_ask_none v f ha]
    simp only [ending, noted_comm _ _ hv]
  | some a =>
    rw [proceed_of_ask v _ ha, proceed_of_ask v f ha]
    simp only [ending, noted_comm _ _ hv]

theorem stir_ending {v : Drive} (hv : v.coroutine ≠ some j) (p : Progress) (e : Engine ι κ) :
    (f.ending j).stir v p e = ((f.stir v p e).1, (f.stir v p e).2.ending j) := by
  unfold Family.stir
  cases e.stir p v.nudge with
  | error o => simp only [ending, noted_comm _ _ hv]
  | ok e' => exact proceed_ending hv e'

/-- A move that is no step of the coroutine comes to the same. -/
theorem step_ending (hj : j < f.coroutines.length) (hfree : ∀ v ∈ f.drives, v.coroutine ≠ some j)
    {m : Move ι κ} (hm : ¬ m.Steps j) :
    (f.ending j).step m = ((f.step m).1, (f.step m).2.ending j) := by
  cases m with
  | reconfigure i change =>
    have he : (f.ending j).engines[i]? = f.engines[i]? := rfl
    simp only [step, he]
    cases f.engines[i]? with
    | none => rfl
    | some e =>
      cases hr : e.reconfigure change.apply with
      | error x => simp only [hr]
      | ok p => simp only [hr]; rfl
  | call i =>
    have he : (f.ending j).engines[i]? = f.engines[i]? := rfl
    simp only [step, he]
    cases f.engines[i]? with
    | none => rfl
    | some e =>
      cases hmode : e.mode with
      | blocking => simp only [hmode]; exact stir_ending (v := ⟨i, none, .send⟩) (by simp) _ e
      | cooperative => simp only [hmode]
  | run i =>
    have he : (f.ending j).engines[i]? = f.engines[i]? := rfl
    simp only [step, he]
    cases f.engines[i]? with
    | none => rfl
    | some e =>
      cases hmode : e.mode with
      | blocking => simp only [hmode]
      | cooperative =>
        cases hf : e.ensureFresh with
        | error x => simp only [hmode, hf]
        | ok _ =>
          have hlen : (f.ending j).coroutines.length = f.coroutines.length := by simp [ending, noted]
          simp only [hmode, hf, hlen]
          simp only [ending, noted_append _ hj]
  | nudge k n =>
    have hk : some j ≠ some k := by
      rintro h
      cases h
      exact hm rfl
    have hc : (f.ending j).coroutines[k]? = f.coroutines[k]? := by
      simp only [ending, getElem?_noted, if_neg hk, Option.map_id']
    have hd : (f.ending j).drives = f.drives := rfl
    simp only [step, hc, hd]
    cases f.coroutines[k]? with
    | none => rfl
    | some c =>
      cases f.drives.any fun v => v.coroutine == some k with
      | true => rfl
      | false =>
        have he : (f.ending j).engines[c.engine]? = f.engines[c.engine]? := rfl
        simp only [he]
        cases f.engines[c.engine]? with
        | none => rfl
        | some e => exact stir_ending (Ne.symm hk) c.progress e
  | reply r =>
    have hd : (f.ending j).drives = f.drives := rfl
    simp only [step, hd]
    cases hd : f.drives with
    | nil => rfl
    | cons v vs =>
      have he : (f.ending j).engines[v.engine]? = f.engines[v.engine]? := rfl
      simp only [he]
      cases f.engines[v.engine]? with
      | none => rfl
      | some e => exact proceed_ending (f := { f with drives := vs }) (hfree v (by simp [hd])) (e.reply r)

/-- A coroutine of the `i`-th engine that is not driving, and never will, as its engine is not fresh. -/
def Barred (f : Family ι κ) (i j : Nat) : Prop :=
  ∃ e p, f.engines[i]? = some e ∧ e.life ≠ .fresh ∧ f.coroutines[j]? = some ⟨i, p⟩ ∧ p ≠ .driving

variable {b : ι} {i : Nat}

theorem Barred.lt (hj : f.Barred i j) : j < f.coroutines.length := by
  obtain ⟨e, p, -, -, hc, -⟩ := hj
  exact (List.getElem?_eq_some_iff.mp hc).1

theorem Barred.free (hj : f.Barred i j) (h : Sound b f) : ∀ v ∈ f.drives, v.coroutine ≠ some j := by
  obtain ⟨e, p, -, -, hc, hp⟩ := hj
  exact h.free hc hp

/-- Who is no party to a drive stays as it is. -/
theorem getElem?_coroutines_proceed {v : Drive} (hv : v.coroutine ≠ some j) (f : Family ι κ)
    (e : Engine ι κ) : (f.proceed v e).2.coroutines[j]? = f.coroutines[j]? := by
  obtain ⟨p, hp⟩ := coroutines_proceed f v e
  simp only [hp, getElem?_noted, if_neg hv, Option.map_id']

/-- A coroutine begins to drive only a fresh engine. -/
theorem Barred.driving (hj : f.Barred i j) (h : Sound b f) (m : Move ι κ) :
    (f.step m).2.coroutines[j]? ≠ some ⟨i, .driving⟩ := by
  have hfree := hj.free h
  obtain ⟨e, p, he, hl, hc, hp⟩ := hj
  have hsame : f.coroutines[j]? ≠ some ⟨i, .driving⟩ := by
    rw [hc]
    simpa using hp
  cases f.effect m with
  | quiet cs hcs hkeep hm => rwa [hm, ne_eq, hcs j _ rfl]
  | handover i₀ e₀ change he₀ hl₀ hm => rwa [hm]
  | begun v e₀ he₀ hl₀ hv hm =>
    have hne : v.coroutine ≠ some j := by
      intro hvj
      rcases hv with ⟨hnone, -⟩ | ⟨k, hk, hck⟩
      · rw [hnone] at hvj
        cases hvj
      · rw [hk] at hvj
        cases hvj
        rw [hc] at hck
        cases hck
        rw [he] at he₀
        cases he₀
        exact hl hl₀
    rwa [hm, getElem?_coroutines_proceed hne]
  | woken v e₀ k he₀ hv hck hfreek hm =>
    have hne : v.coroutine ≠ some j := by
      rw [hv]
      rintro hkj
      cases hkj
      rw [hc] at hck
      cases hck
      exact hp rfl
    rwa [hm, getElem?_coroutines_proceed hne]
  | replied r v vs e₀ _ hd he₀ hm =>
    rwa [hm, getElem?_coroutines_proceed (hfree v (by simp [hd]))]

/-- No engine comes to be fresh. -/
theorem barred_step (h : Sound b f) (hj : f.Barred i j) (m : Move ι κ) : (f.step m).2.Barred i j := by
  have hdriving := hj.driving h m
  obtain ⟨e, p, he, hl, hc, hp⟩ := hj
  obtain ⟨p', hc'⟩ := getElem?_coroutines_step hc m
  obtain ⟨e', he', hleads, -, -⟩ := leads_step he m
  refine ⟨e', p', he', fun hl' => ?_, hc', ?_⟩
  · rw [hl'] at hleads
    cases hlife : e.life with
    | fresh => exact hl hlife
    | _ => rw [hlife] at hleads; cases hleads
  · rintro rfl
    exact hdriving hc'

theorem barred_run (h : Sound b f) (hj : f.Barred i j) (ms : List (Move ι κ)) : (f.run ms).Barred i j := by
  induction ms generalizing f with
  | nil => exact hj
  | cons m ms ih => exact ih (sound_step h m) (barred_step h hj m)

/-- Its steps end it at once. -/
theorem step_nudge_barred (h : Sound b f) (hj : f.Barred i j) (n : Nudge) :
    (f.step (.nudge j n)).2 = f.ending j := by
  have hfree := hj.free h
  obtain ⟨e, p, he, hl, hc, hp⟩ := hj
  rw [step_nudge hc hfree he n]
  rcases f.stir_cases ⟨i, some j, n⟩ p e with ⟨o, -, hs⟩ | ⟨-, hl', -⟩ | ⟨hp', -⟩
  · rw [hs]
    rfl
  · exact absurd hl' hl
  · exact absurd hp' hp

theorem Barred.ending (hj : f.Barred i j) : (f.ending j).Barred i j := by
  obtain ⟨e, p, he, hl, hc, -⟩ := hj
  exact ⟨e, .finished, he, hl, by simp [Family.ending, getElem?_noted, hc], nofun⟩

theorem sound_ending (h : Sound b f) (hj : f.Barred i j) : Sound b (f.ending j) := by
  rw [← step_nudge_barred h hj .send]
  exact sound_step h _

/-- Whether such a coroutine has ended or not, all goes on in the same way. -/
theorem run_ending (h : Sound b f) (hj : f.Barred i j) (ms : List (Move ι κ)) :
    (f.ending j).run ms = (f.run ms).ending j := by
  induction ms generalizing f with
  | nil => rfl
  | cons m ms ih =>
    have hstep : ((f.ending j).step m).2 = (f.step m).2.ending j := by
      by_cases hm : m.Steps j
      · cases m with
        | nudge k n =>
          obtain rfl : k = j := hm
          rw [step_nudge_barred h hj, step_nudge_barred (sound_ending h hj) hj.ending]
        | _ => cases hm
      · rw [step_ending hj.lt (hj.free h) hm]
    rw [run_cons, run_cons, hstep, ih (sound_step h m) (barred_step h hj m)]

/-- After a refused move all goes on as without it. -/
theorem run_spent (h : Sound b f) {e : Engine ι κ} (he : f.engines[i]? = some e) (hl : e.life ≠ .fresh)
    {m : Move ι κ} (hm : f.Uses i e m) (ms : List (Move ι κ)) :
    (f.spent m).run ms = (f.run ms).spent m ∧ ∀ m', (∀ k, m.Steps k → ¬ m'.Steps k) →
      (((f.spent m).run ms).step m').1 = ((f.run ms).step m').1 := by
  cases m with
  | nudge k n =>
    have hk : f.Barred i k := ⟨e, .unstarted, he, hl, hm.2, nofun⟩
    have hk' := barred_run h hk ms
    refine ⟨run_ending h hk ms, fun m' hm' => ?_⟩
    simp only [spent, run_ending h hk ms, step_ending hk'.lt (hk'.free (sound_run h ms)) (hm' k rfl)]
  | _ => exact ⟨rfl, fun _ _ => rfl⟩

/-- A refused move leaves every coroutine that has been stepped. -/
theorem getElem?_coroutines_spent {e : Engine ι κ} {m : Move ι κ} (hm : f.Uses i e m)
    {c : Coroutine} (hc : f.coroutines[j]? = some c) (hp : c.progress ≠ .unstarted) :
    (f.spent m).coroutines[j]? = some c := by
  cases m with
  | nudge k n =>
    have hne : some k ≠ some j := by
      rintro hk
      cases hk
      obtain ⟨-, hc'⟩ := hm
      rw [hc] at hc'
      cases hc'
      exact hp rfl
    simp only [spent, ending, getElem?_noted, if_neg hne, Option.map_id', hc]
  | _ => exact hc

end Ending

/-! ## The first coroutine that is stepped -/

section First

variable {b : ι} {f : Family ι κ} {i : Nat} {e : Engine ι κ}

theorem step_run (he : f.engines[i]? = some e) (hl : e.life = .fresh) (hm : e.mode = .cooperative) :
    f.step (.run i) =
      (.coroutine f.coroutines.length, { f with coroutines := f.coroutines ++ [⟨i, .unstarted⟩] }) := by
  simp only [step, he, hm, ensureFresh, hl]

/-- It drives a fresh engine, which calls the operation. -/
theorem step_nudge_fresh (h : Sound b f) (he : f.engines[i]? = some e) (hl : e.life = .fresh) {k : Nat}
    (hc : f.coroutines[k]? = some ⟨i, .unstarted⟩) :
    f.step (.nudge k .send) = (.asked .invoke,
      ⟨f.engines.set i { e with life := .running 1 .calling }, noted .driving (some k) f.coroutines,
        ⟨i, some k, .send⟩ :: f.drives, f.asked ++ [(i, .invoke)]⟩) := by
  have hb : e.begin = .ok { e with life := .running 1 .calling } := (begin_eq_ok_iff e _).2 ⟨hl, rfl⟩
  rw [step_nudge hc (h.free hc nofun) he .send]
  simp only [Family.stir, stir_of_begin hb]
  exact proceed_of_ask _ f rfl

/-- Once it runs, no other coroutine ever drives it. -/
theorem step_nudge_second (h : Sound b f) (he : f.engines[i]? = some e) (hl : e.life ≠ .fresh) {j : Nat}
    (hc : f.coroutines[j]? = some ⟨i, .unstarted⟩) (ms : List (Move ι κ)) :
    ∃ p ≠ .driving, (f.run ms).coroutines[j]? = some ⟨i, p⟩ ∧ (p = .unstarted →
      ∃ x, (f.run ms).step (.nudge j .send) =
        (.came (.ended (.raised x)), (f.run ms).ending j) ∧ x.isA (.complaint .state)) := by
  obtain ⟨e', p, he', hl', hc', hp⟩ := barred_run h ⟨e, .unstarted, he, hl, hc, nofun⟩ ms
  refine ⟨p, hp, hc', ?_⟩
  rintro rfl
  obtain ⟨message, hs⟩ := step_nudge_of_ne (sound_run h ms) he' hl' hc'
  exact ⟨_, hs, rfl⟩

end First

/-- Whatever moves were made with a family, by whomever: an engine that is not fresh answers every try to
drive or to reconfigure it by a complaint. A coroutine whose step it was has ended with it, and nothing
else has changed, now or after any other moves; so a complaint that leaves the operation is no more than a
fault that the operation raised. Of all the coroutines of a fresh engine the first to be stepped drives
it, and no other ever does. -/
theorem misuse_changes_nothing (mode : Mode) (setup : Setup ι) (ms : List (Move ι κ)) :
    let f := (found mode setup).run ms
    (∀ i e m, f.engines[i]? = some e → e.life ≠ .fresh → f.Uses i e m →
      (∃ x, (f.step m).1.fault? = some x ∧ x.isA (.complaint .state)) ∧ (f.step m).2 = f.spent m ∧
      (∀ (j : Nat) c, f.coroutines[j]? = some c → c.progress ≠ .unstarted →
        (f.step m).2.coroutines[j]? = some c) ∧
      ∀ ms', (f.step m).2.run ms' = (f.run ms').spent m ∧
        ∀ m', (∀ k, m.Steps k → ¬ m'.Steps k) →
          (((f.step m).2.run ms').step m').1 = ((f.run ms').step m').1) ∧
    ∀ i e, f.engines[i]? = some e → e.life = .fresh → e.mode = .cooperative →
      f.step (.run i) =
        (.coroutine f.coroutines.length, { f with coroutines := f.coroutines ++ [⟨i, .unstarted⟩] }) ∧
      ∀ k, f.coroutines[k]? = some ⟨i, .unstarted⟩ →
        let g := (f.step (.nudge k .send)).2
        (f.step (.nudge k .send)).1 = .asked .invoke ∧ g.coroutines[k]? = some ⟨i, .driving⟩ ∧
        g.engines[i]? = some { e with life := .running 1 .calling } ∧
        ∀ (j : Nat) ms', j ≠ k → f.coroutines[j]? = some ⟨i, .unstarted⟩ →
          ∃ p ≠ .driving, (g.run ms').coroutines[j]? = some ⟨i, p⟩ ∧ (p = .unstarted →
            ∃ x, (g.run ms').step (.nudge j .send) =
              (.came (.ended (.raised x)), (g.run ms').ending j) ∧ x.isA (.complaint .state)) := by
  intro f
  have h : Sound setup.backoff f := sound_run (sound_found mode setup) ms
  refine ⟨fun i e m he hl hm => ?_, fun i e he hl hmode => ⟨step_run he hl hmode, fun k hk => ?_⟩⟩
  · obtain ⟨message, hfault, hspent⟩ := step_of_uses h he hl hm
    rw [hspent]
    exact ⟨⟨_, hfault, rfl⟩, rfl, fun j c => getElem?_coroutines_spent hm, run_spent h he hl hm⟩
  · intro g
    have hstep := step_nudge_fresh h he hl hk
    have hg : Sound setup.backoff g := sound_step h _
    have hge : g.engines[i]? = some { e with life := .running 1 .calling } := by
      simp [g, hstep, (List.getElem?_eq_some_iff.mp he).1]
    refine ⟨by rw [hstep], by simp [g, hstep, getElem?_noted, hk], hge, fun j ms' hj hc => ?_⟩
    have hne : some k ≠ some j := by simpa using Ne.symm hj
    exact step_nudge_second hg hge nofun (by simp [g, hstep, getElem?_noted, hc, hne]) ms'

/-- Of two coroutines the first is driving, and the second is stepped by the operation. -/
theorem second_step_changes_nothing :
    let f := (found .cooperative (default : Setup Unit) : Family Unit Unit).run [.run 0, .run 0, .nudge 0 .send]
    (∃ x, (f.step (.nudge 1 .send)).1.fault? = some x ∧ x.isA (.complaint .state)) ∧
      (f.step (.nudge 1 .send)).2 = f.ending 1 ∧ f.drives.length = 1 := by
  intro f
  obtain ⟨hfault, hspent, -⟩ :=
    (misuse_changes_nothing .cooperative (default : Setup Unit) [.run 0, .run 0, .nudge 0 .send]).1
      0 ⟨.cooperative, default, .running 1 .calling⟩ (.nudge 1 .send) rfl nofun ⟨rfl, rfl⟩
  exact ⟨hfault, hspent, rfl⟩

end Reattempt.Family
