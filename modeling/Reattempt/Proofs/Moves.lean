import Reattempt.Engine.Family
import Reattempt.Proofs.Pace

/-!
# What a move can do

A move either leaves the engines, the drives and what has been asked alone, or it hands over to a new
engine, or one engine goes on: with its first attempt, woken by its coroutine, or with a reply. `effect`
says so once, and what a family keeps is proved for these cases.
-/
namespace Reattempt

/-- What an engine may come to by one move: a fresh one begins or hands over, a running one goes on or
ends, and one that has moved or is done stays as it is. -/
def Life.Leads {κ : Type} : Life κ → Life κ → Prop
  | .fresh, .done .. => False
  | .fresh, _ => True
  | .running .., .running .. => True
  | .running .., .done .. => True
  | .running .., _ => False
  | l, l' => l' = l

theorem Life.Leads.refl {κ : Type} (l : Life κ) : l.Leads l := by
  cases l <;> trivial

namespace Family

open Engine

variable {ι κ : Type}

inductive Effect (f : Family ι κ) (m : Move ι κ) : Prop where
  /-- At most a coroutine has come or ended that was not driving. -/
  | quiet (cs : List Coroutine)
      (hcs : ∀ (k : Nat) c, c.progress = .driving → (cs[k]? = some c ↔ f.coroutines[k]? = some c))
      (hkeep : ∀ (k : Nat) c, f.coroutines[k]? = some c → ∃ p, cs[k]? = some { c with progress := p })
      (h : (f.step m).2 = { f with coroutines := cs })
  | handover (i : Nat) (e : Engine ι κ) (change : Setup.Change ι) (he : f.engines[i]? = some e)
      (hl : e.life = .fresh)
      (h : (f.step m).2 = { f with engines := f.engines.set i { e with life := .moved } ++
        [{ e with setup := change.apply e.setup }] })
  | begun (v : Drive) (e : Engine ι κ) (he : f.engines[v.engine]? = some e) (hl : e.life = .fresh)
      (hv : v.coroutine = none ∧ e.mode = .blocking ∨
        ∃ k, v.coroutine = some k ∧ f.coroutines[k]? = some ⟨v.engine, .unstarted⟩)
      (h : f.step m = f.proceed v { e with life := .running 1 .calling })
  | woken (v : Drive) (e : Engine ι κ) (k : Nat) (he : f.engines[v.engine]? = some e)
      (hv : v.coroutine = some k) (hc : f.coroutines[k]? = some ⟨v.engine, .driving⟩)
      (hfree : ∀ x ∈ f.drives, x.coroutine ≠ some k) (h : f.step m = f.proceed v (e.wake v.nudge.signal))
  | replied (r : Reply κ) (v : Drive) (vs : List Drive) (e : Engine ι κ) (hm : m = .reply r)
      (hd : f.drives = v :: vs) (he : f.engines[v.engine]? = some e)
      (h : f.step m = { f with drives := vs }.proceed v (e.reply r))

/-- A step of a coroutine, or a call, ends at once unless its engine begins or is being driven by it. -/
theorem stir_cases (f : Family ι κ) (v : Drive) (p : Progress) (e : Engine ι κ) :
    (∃ o, p ≠ .driving ∧ f.stir v p e =
        (.came (.ended o), { f with coroutines := noted .finished v.coroutine f.coroutines })) ∨
      (p = .unstarted ∧ e.life = .fresh ∧
        f.stir v p e = f.proceed v { e with life := .running 1 .calling }) ∨
      (p = .driving ∧ f.stir v p e = f.proceed v (e.wake v.nudge.signal)) := by
  cases hs : e.stir p v.nudge with
  | error o =>
    refine .inl ⟨o, ?_, by simp only [Family.stir, hs]⟩
    rintro rfl
    cases hs
  | ok e' =>
    have hf : f.stir v p e = f.proceed v e' := by simp only [Family.stir, hs]
    rcases stir_eq_ok hs with ⟨hp, hl, rfl⟩ | ⟨hp, rfl⟩
    · exact .inr (.inl ⟨hp, hl, hf⟩)
    · exact .inr (.inr ⟨hp, hf⟩)

section Effect

variable {f : Family ι κ} {m : Move ι κ}

theorem Effect.same (h : (f.step m).2 = f) : f.Effect m :=
  .quiet f.coroutines (fun _ _ _ => Iff.rfl) (fun _ c hc => ⟨c.progress, hc⟩) h

/-- A coroutine that is obtained is not driving. -/
theorem driving_append {cs : List Coroutine} {c' : Coroutine} (hc' : c'.progress ≠ .driving) (k : Nat)
    (c : Coroutine) (hc : c.progress = .driving) : (cs ++ [c'])[k]? = some c ↔ cs[k]? = some c := by
  rcases Nat.lt_or_ge k cs.length with hk | hk
  · rw [List.getElem?_append_left hk]
  · have hne : c' ≠ c := by
      rintro rfl
      exact hc' hc
    rw [List.getElem?_append_right hk, List.getElem?_eq_none hk]
    constructor
    · intro h
      exact absurd (List.mem_singleton.mp (List.mem_of_getElem? h)).symm hne
    · nofun

/-- A coroutine that ends without having been driving anything leaves those that are. -/
theorem driving_noted_finished {cs : List Coroutine} {x : Option Nat}
    (hx : ∀ k c, x = some k → cs[k]? = some c → c.progress ≠ .driving) (k : Nat) (c : Coroutine)
    (hc : c.progress = .driving) : (noted .finished x cs)[k]? = some c ↔ cs[k]? = some c := by
  rw [getElem?_noted]
  by_cases hk : x = some k
  · cases hget : cs[k]? with
    | none => simp
    | some c' =>
      have hne : c' ≠ c := by
        rintro rfl
        exact hx k c' hk hget hc
      have hne' : ({ c' with progress := .finished } : Coroutine) ≠ c := by
        rintro rfl
        cases hc
      simp [hk, hne, hne']
  · simp [hk]

/-- A note leaves every coroutine with its engine. -/
theorem kept_noted (p : Progress) (x : Option Nat) {cs : List Coroutine} {k : Nat} {c : Coroutine}
    (hc : cs[k]? = some c) : ∃ p', (noted p x cs)[k]? = some { c with progress := p' } := by
  rw [getElem?_noted, hc]
  by_cases hk : x = some k
  · exact ⟨p, by simp [hk]⟩
  · exact ⟨c.progress, by simp [hk]⟩

theorem effect_stir {v : Drive} {p : Progress} {e : Engine ι κ} (he : f.engines[v.engine]? = some e)
    (hcall : v.coroutine = none → p = .unstarted ∧ e.mode = .blocking)
    (hk : ∀ k, v.coroutine = some k → f.coroutines[k]? = some ⟨v.engine, p⟩ ∧
      ∀ x ∈ f.drives, x.coroutine ≠ some k)
    (hm : f.step m = f.stir v p e) : f.Effect m := by
  rcases f.stir_cases v p e with ⟨o, hp, h⟩ | ⟨rfl, hl, h⟩ | ⟨rfl, h⟩
  · refine .quiet (noted .finished v.coroutine f.coroutines) (driving_noted_finished ?_)
      (fun _ _ => kept_noted _ _) (by rw [hm, h])
    intro k c hvk hc
    rw [(hk k hvk).1] at hc
    cases hc
    exact hp
  · refine .begun v e he hl ?_ (hm.trans h)
    cases hvk : v.coroutine with
    | none => exact .inl ⟨rfl, (hcall hvk).2⟩
    | some k => exact .inr ⟨k, rfl, (hk k hvk).1⟩
  · cases hvk : v.coroutine with
    | none => cases (hcall hvk).1
    | some k => exact .woken v e k he hvk (hk k hvk).1 (hk k hvk).2 (hm.trans h)

end Effect

theorem reconfigure_eq_ok {e : Engine ι κ} {change : Setup ι → Setup ι} {p : Engine ι κ × Engine ι κ}
    (h : e.reconfigure change = .ok p) :
    e.life = .fresh ∧ p = ({ e with life := .moved }, { e with setup := change e.setup }) := by
  unfold reconfigure at h
  split at h
  · next hl => exact ⟨hl, by cases h; rfl⟩
  · cases h

/-- A coroutine that is not executing takes its step. -/
theorem step_nudge {f : Family ι κ} {k : Nat} {c : Coroutine} {e : Engine ι κ} (hc : f.coroutines[k]? = some c)
    (hfree : ∀ v ∈ f.drives, v.coroutine ≠ some k) (he : f.engines[c.engine]? = some e) (n : Nudge) :
    f.step (.nudge k n) = f.stir ⟨c.engine, some k, n⟩ c.progress e := by
  have hx : (f.drives.any fun v => v.coroutine == some k) = false := by
    simpa [List.any_eq_false] using hfree
  simp only [step, hc, hx, he]
  rfl

/-- Whatever the move is. -/
theorem effect (f : Family ι κ) (m : Move ι κ) : f.Effect m := by
  cases m with
  | reconfigure i change =>
    cases he : f.engines[i]? with
    | none => exact .same (by simp only [step, he])
    | some e =>
      cases hr : e.reconfigure change.apply with
      | error x => exact .same (by simp only [step, he, hr])
      | ok p =>
        obtain ⟨hl, rfl⟩ := reconfigure_eq_ok hr
        exact .handover i e change he hl (by simp only [step, he, hr])
  | call i =>
    cases he : f.engines[i]? with
    | none => exact .same (by simp only [step, he])
    | some e =>
      cases hm : e.mode with
      | cooperative => exact .same (by simp only [step, he, hm])
      | blocking =>
        exact effect_stir (v := ⟨i, none, .send⟩) he (fun _ => ⟨rfl, hm⟩) (by simp) (by simp only [step, he, hm])
  | run i =>
    cases he : f.engines[i]? with
    | none => exact .same (by simp only [step, he])
    | some e =>
      cases hm : e.mode with
      | blocking => exact .same (by simp only [step, he, hm])
      | cooperative =>
        cases hf : e.ensureFresh with
        | error x => exact .same (by simp only [step, he, hm, hf])
        | ok _ =>
          refine .quiet (f.coroutines ++ [⟨i, .unstarted⟩]) (driving_append (by simp)) ?_
            (by simp only [step, he, hm, hf])
          intro k c hc
          exact ⟨c.progress, by rw [List.getElem?_append_left (List.getElem?_eq_some_iff.mp hc).1, hc]⟩
  | nudge k n =>
    cases hc : f.coroutines[k]? with
    | none => exact .same (by simp only [step, hc])
    | some c =>
      by_cases hx : f.drives.any fun v => v.coroutine == some k
      · exact .same (by simp only [step, hc, hx, if_true])
      · cases he : f.engines[c.engine]? with
        | none => exact .same (by simp only [step, hc, hx, he]; rfl)
        | some e =>
          refine effect_stir (v := ⟨c.engine, some k, n⟩) he (by simp) ?_ (by simp only [step, hc, hx, he]; rfl)
          intro j hj
          cases hj
          refine ⟨hc, fun v hv hvk => hx (List.any_eq_true.mpr ⟨v, hv, by simp [hvk]⟩)⟩
  | reply r =>
    cases hd : f.drives with
    | nil => exact .same (by simp only [step, hd])
    | cons v vs =>
      cases he : f.engines[v.engine]? with
      | none => exact .same (by simp only [step, hd, he])
      | some e => exact .replied r v vs e rfl hd he (by simp only [step, hd, he])

/-! ## What becomes of an engine -/

section Engines

variable {f : Family ι κ} {i : Nat} {e : Engine ι κ}

theorem engines_proceed (f : Family ι κ) (v : Drive) (e : Engine ι κ) :
    (f.proceed v e).2.engines = f.engines.set v.engine e := by
  cases ha : e.ask? with
  | none => rw [proceed_of_ask_none v f ha]
  | some a => rw [proceed_of_ask v f ha]

/-- The engine of a drive comes to what the drive goes on with, and any other stays as it is. -/
theorem getElem?_proceed {v : Drive} {e' : Engine ι κ} (he : f.engines[i]? = some e) :
    (f.proceed v e').2.engines[i]? = some (if v.engine = i then e' else e) := by
  obtain ⟨hlt, -⟩ := List.getElem?_eq_some_iff.mp he
  rw [engines_proceed, List.getElem?_set]
  by_cases hv : v.engine = i
  · rw [if_pos hv, if_pos (by omega), if_pos hv]
  · rw [if_neg hv, if_neg hv, he]

theorem leads_wake (signal : Option Fault) (e : Engine ι κ) : e.life.Leads (e.wake signal).life := by
  cases hl : e.life <;> simp [wake, hl, Life.Leads]

theorem leads_reply (e : Engine ι κ) (r : Reply κ) : e.life.Leads (e.reply r).life := by
  cases hl : e.life with
  | running n stage =>
    have h := follows_replyAt e n stage r
    rw [reply_running hl]
    cases hl' : (e.replyAt n stage r).life with
    | running m st => trivial
    | done m o => trivial
    | fresh => rw [hl'] at h; cases h
    | moved => rw [hl'] at h; cases h
  | _ => simp [reply, hl, Life.Leads]

/-- One move takes an engine no further than `Leads` allows, and changes nothing but its life. -/
theorem leads_step (he : f.engines[i]? = some e) (m : Move ι κ) :
    ∃ e', (f.step m).2.engines[i]? = some e' ∧ e.life.Leads e'.life ∧ e'.mode = e.mode ∧
      e'.setup = e.setup := by
  have hproceed : ∀ {f' : Family ι κ} {v : Drive} {e₀ e₁ : Engine ι κ}, f'.engines = f.engines →
      f.engines[v.engine]? = some e₀ → e₀.life.Leads e₁.life → e₁.mode = e₀.mode → e₁.setup = e₀.setup →
      ∃ e', (f'.proceed v e₁).2.engines[i]? = some e' ∧ e.life.Leads e'.life ∧ e'.mode = e.mode ∧
        e'.setup = e.setup := by
    intro f' v e₀ e₁ hf he₀ hl hm hs
    refine ⟨_, getElem?_proceed (by rw [hf, he]), ?_⟩
    by_cases hv : v.engine = i
    · rw [hv, he] at he₀
      cases he₀
      rw [if_pos hv]
      exact ⟨hl, hm, hs⟩
    · rw [if_neg hv]
      exact ⟨.refl _, rfl, rfl⟩
  cases f.effect m with
  | quiet cs hcs hkeep h => exact ⟨e, by rw [h, he], .refl _, rfl, rfl⟩
  | handover j e₀ change he₀ hl h =>
    obtain ⟨hlt, -⟩ := List.getElem?_eq_some_iff.mp he
    rw [h, List.getElem?_append_left (by simpa using hlt)]
    by_cases hj : j = i
    · subst hj
      rw [he] at he₀
      cases he₀
      exact ⟨{ e with life := .moved }, by simp [hlt], by rw [hl]; trivial, rfl, rfl⟩
    · exact ⟨e, by rw [List.getElem?_set_ne hj, he], .refl _, rfl, rfl⟩
  | begun v e₀ he₀ hl hv h => rw [h]; exact hproceed rfl he₀ (by rw [hl]; trivial) rfl rfl
  | woken v e₀ k he₀ hv hc hfree h => rw [h]; exact hproceed rfl he₀ (leads_wake _ _) (by simp) (by simp)
  | replied r v vs e₀ hm hd he₀ h => rw [h]; exact hproceed rfl he₀ (leads_reply _ _) (by simp) (by simp)

/-- An engine that has moved or is done stays as it is, whatever move is made. -/
theorem getElem?_step_of_settled (he : f.engines[i]? = some e) (hl : ∀ l, e.life.Leads l → l = e.life)
    (m : Move ι κ) : (f.step m).2.engines[i]? = some e := by
  obtain ⟨e', he', hleads, hm, hs⟩ := leads_step he m
  obtain ⟨mode, setup, life⟩ := e
  obtain ⟨mode', setup', life'⟩ := e'
  obtain rfl : mode' = mode := hm
  obtain rfl : setup' = setup := hs
  obtain rfl : life' = life := hl life' hleads
  exact he'

theorem getElem?_run_of_settled (he : f.engines[i]? = some e) (hl : ∀ l, e.life.Leads l → l = e.life)
    (ms : List (Move ι κ)) : (f.run ms).engines[i]? = some e := by
  induction ms generalizing f with
  | nil => exact he
  | cons m ms ih => exact ih (getElem?_step_of_settled he hl m)

/-- A successor has the mode of the engine that it takes over from. -/
theorem modes_step {mode : Mode} (h : ∀ e ∈ f.engines, e.mode = mode) (m : Move ι κ) :
    ∀ e ∈ (f.step m).2.engines, e.mode = mode := by
  have hproceed : ∀ {f' : Family ι κ} {v : Drive} {e₀ e₁ : Engine ι κ}, f'.engines = f.engines →
      f.engines[v.engine]? = some e₀ → e₁.mode = e₀.mode → ∀ e ∈ (f'.proceed v e₁).2.engines, e.mode = mode := by
    intro f' v e₀ e₁ hf he₀ hm e he
    rw [engines_proceed, hf] at he
    rcases List.mem_or_eq_of_mem_set he with he | rfl
    · exact h e he
    · exact hm.trans (h e₀ (List.mem_of_getElem? he₀))
  cases f.effect m with
  | quiet cs hcs hkeep hm => rwa [hm]
  | handover i e₀ change he₀ hl hm =>
    have hmode := h e₀ (List.mem_of_getElem? he₀)
    rw [hm]
    intro e he
    rcases List.mem_append.mp he with he | he
    · rcases List.mem_or_eq_of_mem_set he with he | rfl
      · exact h e he
      · exact hmode
    · obtain rfl := List.mem_singleton.mp he
      exact hmode
  | begun v e₀ he₀ hl hv hm => rw [hm]; exact hproceed rfl he₀ rfl
  | woken v e₀ k he₀ hv hc hfree hm => rw [hm]; exact hproceed rfl he₀ (by simp)
  | replied r v vs e₀ _ hd he₀ hm => rw [hm]; exact hproceed rfl he₀ (by simp)

theorem modes_run (mode : Mode) (setup : Setup ι) (ms : List (Move ι κ)) :
    ∀ e ∈ ((found mode setup).run ms).engines, e.mode = mode := by
  suffices h : ∀ f : Family ι κ, (∀ e ∈ f.engines, e.mode = mode) → ∀ e ∈ (f.run ms).engines, e.mode = mode from
    h _ fun e he => by obtain rfl := List.mem_singleton.mp he; rfl
  induction ms with
  | nil => exact fun f h => h
  | cons m ms ih => exact fun f h => ih (f.step m).2 (modes_step h m)

end Engines

/-! ## What becomes of a coroutine -/

theorem coroutines_proceed (f : Family ι κ) (v : Drive) (e : Engine ι κ) :
    ∃ p, (f.proceed v e).2.coroutines = noted p v.coroutine f.coroutines := by
  cases ha : e.ask? with
  | none => exact ⟨_, by rw [proceed_of_ask_none v f ha]⟩
  | some a => exact ⟨_, by rw [proceed_of_ask v f ha]⟩

/-- It stays a coroutine of its engine. -/
theorem getElem?_coroutines_step {f : Family ι κ} {k : Nat} {c : Coroutine} (hc : f.coroutines[k]? = some c)
    (m : Move ι κ) : ∃ p, (f.step m).2.coroutines[k]? = some { c with progress := p } := by
  have hproceed : ∀ {f' : Family ι κ} {v : Drive} {e : Engine ι κ}, f'.coroutines = f.coroutines →
      ∃ p, (f'.proceed v e).2.coroutines[k]? = some { c with progress := p } := by
    intro f' v e hf
    obtain ⟨p, hp⟩ := coroutines_proceed f' v e
    rw [hp, hf]
    exact kept_noted p v.coroutine hc
  cases f.effect m with
  | quiet cs hcs hkeep h => rw [h]; exact hkeep k c hc
  | handover i e change he hl h => rw [h]; exact ⟨c.progress, hc⟩
  | begun v e he hl hv h => rw [h]; exact hproceed rfl
  | woken v e j he hv hj hfree h => rw [h]; exact hproceed rfl
  | replied r v vs e hm hd he h => rw [h]; exact hproceed rfl

end Family

end Reattempt
