import Reattempt.Engine.Concert

/-!
# Retries of one builder are independent

Every player of a concert owns the cursor in one place, and no other player ever comes to that place. So what
a player comes to is what it comes to alone: its engine is the same but for the place, its cursor stands
where the lone cursor stands, and it has asked and been told the same.
-/
namespace Reattempt

open Backoff

namespace Engine

variable {κ : Type} (i : Nat) (e : Engine Nat κ)

/-! ## The place of a cursor makes no difference to an engine -/

@[simp] theorem ask?_placed : (e.placed i).ask? = e.ask? := rfl

@[simp] theorem phase_placed : (e.placed i).phase = e.phase := rfl

@[simp] theorem attempts_placed : (e.placed i).attempts = e.attempts := rfl

@[simp] theorem yielded_placed : (e.placed i).yielded = e.yielded := rfl

theorem wake_placed (signal : Option Fault) : (e.placed i).wake signal = (e.wake signal).placed i := by
  obtain ⟨mode, setup, life⟩ := e
  cases life <;> rfl

theorem begin_placed : (e.placed i).begin = e.begin.map (placed i) := by
  obtain ⟨mode, setup, life⟩ := e
  cases life <;> rfl

theorem stir_placed (p : Progress) (n : Nudge) : (e.placed i).stir p n = (e.stir p n).map (placed i) := by
  cases p with
  | unstarted =>
    cases n with
    | send =>
      simp only [stir, begin_placed]
      cases e.begin <;> rfl
    | _ => rfl
  | driving => simp only [stir, wake_placed]; rfl
  | finished => cases n <;> rfl

theorem attemptRaised_placed (n : Nat) (x : Fault) :
    (e.placed i).attemptRaised n x = (e.attemptRaised n x).placed i := by
  have hmode : (e.placed i).mode = e.mode := rfl
  simp only [attemptRaised, hmode]
  split <;> rfl

theorem attemptReturned_placed (n : Nat) (v : Value) :
    (e.placed i).attemptReturned n v = (e.attemptReturned n v).placed i := by
  cases v <;> rfl

theorem replyAt_placed (n : Nat) (stage : Stage κ) (r : Reply κ) :
    (e.placed i).replyAt n stage r = (e.replyAt n stage r).placed i := by
  cases stage with
  | calling =>
    cases r with
    | returned v => exact attemptReturned_placed i e n v
    | raised x => exact attemptRaised_placed i e n x
    | pending k closing =>
      obtain ⟨mode, setup, life⟩ := e
      cases mode <;> rfl
  | attempting k hold =>
    cases r with
    | returned v => exact attemptReturned_placed i e n v
    | raised x => exact attemptRaised_placed i e n x
    | pending k closing => rfl
  | advancing f =>
    cases r with
    | returned v => cases v <;> rfl
    | raised x => cases hx : x.isA .stopIteration <;> simp only [replyAt, hx] <;> rfl
    | pending k closing => rfl
  | sleeping d =>
    cases r with
    | pending k closing =>
      obtain ⟨mode, setup, life⟩ := e
      cases mode <;> rfl
    | _ => rfl
  | _ => cases r <;> rfl

theorem reply_placed (r : Reply κ) : (e.placed i).reply r = (e.reply r).placed i := by
  cases hl : e.life with
  | running n stage =>
    have hl' : (e.placed i).life = .running n stage := hl
    rw [reply_running hl, reply_running hl', replyAt_placed]
  | _ =>
    have hl' : (e.placed i).life = e.life := rfl
    simp only [reply, hl', hl]

end Engine

/-! ## A drive touches no cursor but its own -/

/-- Nothing has changed but the cursor in one place. -/
structure Backoff.Stock.Beside (i : Nat) (s s' : Stock) : Prop where
  builder : s'.builder = s.builder
  length : s'.cursors.length = s.cursors.length
  others : ∀ k ≠ i, s'.cursors[k]? = s.cursors[k]?

theorem Backoff.Stock.Beside.refl (i : Nat) (s : Stock) : s.Beside i s := ⟨rfl, rfl, fun _ _ => rfl⟩

theorem Backoff.Stock.Beside.trans {i : Nat} {s s' s'' : Stock} (h : s.Beside i s') (h' : s'.Beside i s'') :
    s.Beside i s'' :=
  ⟨h'.builder.trans h.builder, h'.length.trans h.length, fun k hk => (h'.others k hk).trans (h.others k hk)⟩

namespace Role

variable {κ σ : Type} (r : Role κ σ) (b : Builder)

theorem surroundings_alone (e : Engine Nat κ) (a : Ask κ) (own : σ) {st : Stock} {c : Cursor}
    (hc : st.cursors[e.setup.backoff]? = some c) : ∃ reply own' st' c',
      r.surroundings .shared e a (own, st) = (reply, own', st') ∧
      r.surroundings (.lone b) (e.placed 0) a (own, some c) = (reply, own', some c') ∧
      st'.cursors[e.setup.backoff]? = some c' ∧ st.Beside e.setup.backoff st' := by
  cases a with
  | advance =>
    obtain ⟨hlt, -⟩ := List.getElem?_eq_some_iff.mp hc
    have hdraw : draw st.cursors e.setup.backoff =
        (c.advance.1, st.cursors.set e.setup.backoff c.advance.2) := by
      simp only [draw, hc]
    refine ⟨.drawn c.advance.1, own, { st with cursors := st.cursors.set e.setup.backoff c.advance.2 },
      c.advance.2, ?_, rfl, by simp [hlt], rfl, by simp, fun k hk => ?_⟩
    · simp only [surroundings, Supply.shared, hdraw]
    · exact List.getElem?_set_ne hk.symm
  | _ => exact ⟨_, _, st, c, rfl, rfl, hc, .refl _ st⟩

/-- Alone or not, a drive comes to the same. -/
theorem drive_alone (fuel : Nat) (e : Engine Nat κ) (T : List (Exchange κ)) (own : σ) {st : Stock}
    {c : Cursor} (hc : st.cursors[e.setup.backoff]? = some c) : ∃ e' T' own' st' c',
      Engine.drive (Engine.recording (r.surroundings .shared)) fuel e (T, own, st) = (e', T', own', st') ∧
      Engine.drive (Engine.recording (r.surroundings (.lone b))) fuel (e.placed 0) (T, own, some c) =
        (e'.placed 0, T', own', some c') ∧
      e'.setup = e.setup ∧ st'.cursors[e.setup.backoff]? = some c' ∧ st.Beside e.setup.backoff st' := by
  induction fuel generalizing e T own st c with
  | zero => exact ⟨e, T, own, st, c, rfl, rfl, rfl, hc, .refl _ st⟩
  | succ fuel ih =>
    cases ha : e.ask? with
    | none =>
      have ha' : (e.placed 0).ask? = none := by rw [Engine.ask?_placed, ha]
      rw [Engine.drive_of_ask_none _ _ _ ha, Engine.drive_of_ask_none _ _ _ ha']
      exact ⟨e, T, own, st, c, rfl, rfl, rfl, hc, .refl _ st⟩
    | some a =>
      have ha' : (e.placed 0).ask? = some a := by rw [Engine.ask?_placed, ha]
      obtain ⟨reply, own₁, st₁, c₁, hshared, hlone, hc₁, hbeside⟩ := r.surroundings_alone b e a own hc
      have hsetup₁ : (e.reply reply).setup = e.setup := Engine.setup_reply e reply
      rw [← hsetup₁] at hc₁
      rw [Engine.drive_succ _ _ _ ha, Engine.drive_succ _ _ _ ha']
      simp only [Engine.recording, hshared, hlone, Engine.reply_placed, Engine.phase_placed,
        Engine.attempts_placed]
      obtain ⟨e', T', own', st', c', hd, hd', hsetup, hc', hbeside'⟩ :=
        ih (e.reply reply) (T ++ [⟨e.phase, e.attempts, a, reply⟩]) own₁ hc₁
      rw [hsetup₁] at hsetup hc' hbeside'
      exact ⟨e', T', own', st', c', hd, hd', hsetup, hc', hbeside.trans hbeside'⟩

/-- Alone or not, so does a step. -/
theorem go_alone (fuel : Nat) (e : Engine Nat κ) (p : Progress) (n : Nudge) (T : List (Exchange κ)) (own : σ)
    {st : Stock} {c : Cursor} (hc : st.cursors[e.setup.backoff]? = some c) : ∃ y q e' T' own' st' c',
      r.go .shared fuel e p n (T, own, st) = (y, q, e', T', own', st') ∧
      r.go (.lone b) fuel (e.placed 0) p n (T, own, some c) = (y, q, e'.placed 0, T', own', some c') ∧
      e'.setup = e.setup ∧ st'.cursors[e.setup.backoff]? = some c' ∧ st.Beside e.setup.backoff st' := by
  unfold go Engine.nudge
  rw [Engine.stir_placed]
  cases hs : e.stir p n with
  | error o => exact ⟨.ended o, .finished, e, T, own, st, c, rfl, rfl, rfl, hc, .refl _ st⟩
  | ok e₁ =>
    have hsetup : e₁.setup = e.setup := by
      rcases Engine.stir_eq_ok hs with ⟨-, -, rfl⟩ | ⟨-, rfl⟩
      · rfl
      · exact Engine.setup_wake _ e
    rw [← hsetup] at hc ⊢
    obtain ⟨e', T', own', st', c', hd, hd', hsetup', hc', hbeside⟩ := r.drive_alone b fuel e₁ T own hc
    refine ⟨n.answer e'.yielded, e'.yielded.progress, e', T', own', st', c', ?_, ?_, hsetup', hc', hbeside⟩
    · simp only [Engine.proceed, hd]
    · simp only [Except.map, Engine.proceed, hd', Engine.yielded_placed]

end Role

/-! ## Players -/

/-- The place of the cursor that a player has. -/
def Player.place? {κ σ : Type} (p : Option (Player κ σ)) : Option Nat :=
  p.bind fun q => q.engine.map fun e => e.setup.backoff

/-- A player among others, with the stock, is what it is alone. -/
structure Tuned {κ σ : Type} (p : Option (Player κ σ)) (st : Stock)
    (s : Option (Player κ σ) × Option Cursor) : Prop where
  same : p.map Player.unplaced = s.1
  cursor : ∀ i, Player.place? p = some i → ∃ c, s.2 = some c ∧ st.cursors[i]? = some c

/-- Whoever had the place `i`, or none, has the place `i'` now: the same, or one that nobody had. The cursors
in other places are as they were, and the builder makes what it made. -/
structure Backoff.Stock.Yields (st : Stock) (i : Option Nat) (st' : Stock) (i' : Option Nat) : Prop where
  fresh : st'.builder.fresh = st.builder.fresh
  others : ∀ k c, i ≠ some k → st.cursors[k]? = some c → st'.cursors[k]? = some c
  place : i' = i ∨ ∃ k, i' = some k ∧ st.cursors[k]? = none

theorem Backoff.Stock.Yields.refl (st : Stock) (i : Option Nat) : st.Yields i st i :=
  ⟨rfl, fun _ _ _ h => h, .inl rfl⟩

/-- A new cursor is advanced. -/
theorem Backoff.Stock.Yields.beside {i : Nat} {st st' st'' : Stock} (h : st.Yields none st' (some i))
    (h' : st'.Beside i st'') : st.Yields none st'' (some i) := by
  refine ⟨by rw [h'.builder, h.fresh], fun k c _ hc => ?_, h.place⟩
  have hk : k ≠ i := by
    rintro rfl
    rcases h.place with hi | ⟨j, hj, hnone⟩
    · cases hi
    · cases hj
      rw [hc] at hnone
      cases hnone
  rw [h'.others k hk]
  exact h.others k c nofun hc

theorem Backoff.Stock.Beside.yields {i : Nat} {st st' : Stock} (h : st.Beside i st') :
    st.Yields (some i) st' (some i) :=
  ⟨by rw [h.builder], fun k c hk hc => by rw [h.others k (by simpa using Ne.symm hk), hc], .inl rfl⟩

namespace Role

variable {κ σ : Type} (r : Role κ σ) (b : Builder)

/-- An engine gets the cursor that it gets alone, in a place that nobody had. -/
theorem make_alone {st : Stock} (hf : st.builder.fresh = b.fresh) (z : Option Cursor) :
    (∃ e c st', r.make .shared st = (.ok e, st') ∧ r.make (.lone b) z = (.ok (e.placed 0), some c) ∧
      st'.cursors[e.setup.backoff]? = some c ∧ st.Yields none st' (some e.setup.backoff)) ∨
    ∃ x st', r.make .shared st = (.error x, st') ∧ r.make (.lone b) z = (.error x, none) ∧
      st.Yields none st' none := by
  have hfresh := (st.builder.build_eq_fresh st.cursors.length).trans hf
  have hnext := st.builder.fresh_build st.cursors.length
  rcases hbuild : st.builder.build st.cursors.length with ⟨x | c, builder⟩
  · rw [hbuild] at hfresh hnext
    refine .inr ⟨x, ⟨builder, st.cursors⟩, ?_, ?_, hnext, fun _ _ _ h => h, .inl rfl⟩
    · simp only [make, Supply.shared, Stock.build, hbuild]
    · simp only [make, Supply.lone, ← hfresh]
  · rw [hbuild] at hfresh hnext
    refine .inl ⟨Engine.make .cooperative (r.options.apply { r.setup with backoff := st.cursors.length }), c,
      ⟨builder, st.cursors ++ [c]⟩, ?_, ?_, ?_, hnext, fun k c' _ h => ?_, .inr ⟨_, rfl, ?_⟩⟩
    · simp only [make, Supply.shared, Stock.build, hbuild, Engine.configure_make]
    · simp only [make, Supply.lone, ← hfresh, Engine.configure_make]
      rfl
    · simp [Engine.make, Options.apply]
    · rwa [List.getElem?_append_left (List.getElem?_eq_some_iff.mp h).1]
    · simp [Engine.make, Options.apply]

/-- A step of a player that has its engine. -/
theorem step_seated (fuel : Nat) (n : Nudge) (q : Player κ σ) {e : Engine Nat κ} (he : q.engine = some e)
    {st : Stock} {c : Cursor} (hc : st.cursors[e.setup.backoff]? = some c) : ∃ q' st' c',
      r.step .shared fuel n q st = (q', st') ∧
      r.step (.lone b) fuel n q.unplaced (some c) = (q'.unplaced, some c') ∧
      Player.place? (some q') = some e.setup.backoff ∧ st'.cursors[e.setup.backoff]? = some c' ∧
      st.Beside e.setup.backoff st' := by
  obtain ⟨y, p, e', T, own, st', c', hgo, hgo', hsetup, hc', hbeside⟩ :=
    r.go_alone b fuel e q.progress n q.transcript q.own hc
  refine ⟨⟨y, p, some e', T, own⟩, st', c', ?_, ?_, ?_, hc', hbeside⟩
  · simp only [step, he, Engine.belated, hgo]
  · simp only [step, Player.unplaced, he, Option.map_some, Engine.belated, hgo']
  · simp [Player.place?, hsetup]

/-- A player that has no engine and does not begin goes on without one. -/
theorem step_idle (fuel : Nat) {n : Nudge} {q : Player κ σ} (he : q.engine = none)
    (hn : q.progress ≠ .unstarted ∨ n ≠ .send) : ∃ y p, ∀ (ς : Type) (supply : Supply ς) z,
      r.step supply fuel n q z = (⟨y, p, none, q.transcript, q.own⟩, z) := by
  obtain ⟨y, p, hs⟩ := Engine.belated_idle hn
  exact ⟨y, p, fun ς supply z => by simp only [step, he, hs]⟩

/-- A step of a player that has no engine yet. -/
theorem step_unseated (fuel : Nat) (n : Nudge) {q : Player κ σ} (he : q.engine = none) {st : Stock}
    (hf : st.builder.fresh = b.fresh) (z : Option Cursor) : ∃ q' st' z',
      r.step .shared fuel n q st = (q', st') ∧ r.step (.lone b) fuel n q.unplaced z = (q'.unplaced, z') ∧
      Tuned (some q') st' (some q'.unplaced, z') ∧ st.Yields none st' (Player.place? (some q')) := by
  have hq : q.unplaced = q := by
    obtain ⟨y, p, e, T, own⟩ := q
    obtain rfl : e = none := he
    rfl
  by_cases hn : q.progress ≠ .unstarted ∨ n ≠ .send
  · obtain ⟨y, p, hs⟩ := r.step_idle fuel he hn
    exact ⟨⟨y, p, none, q.transcript, q.own⟩, st, z, hs _ _ _, by rw [hq, hs]; rfl, ⟨rfl, nofun⟩,
      .refl st none⟩
  · obtain ⟨hp, rfl⟩ : q.progress = .unstarted ∧ n = .send := by simpa [not_or] using hn
    rcases r.make_alone b hf z with ⟨e, c, st₁, hmake, hmake', hc, hyields⟩ | ⟨x, st', hmake, hmake', hyields⟩
    · obtain ⟨y, p, e', T, own, st', c', hgo, hgo', hsetup, hc', hbeside⟩ :=
        r.go_alone b fuel e .unstarted .send q.transcript q.own hc
      have hplace : Player.place? (some (⟨y, p, some e', T, own⟩ : Player κ σ)) = some e.setup.backoff := by
        simp [Player.place?, hsetup]
      refine ⟨⟨y, p, some e', T, own⟩, st', some c', ?_, ?_, ⟨rfl, fun i hi => ?_⟩, ?_⟩
      · simp only [step, he, hp, Engine.belated, hmake, hgo]
      · rw [hq]
        simp only [step, he, hp, Engine.belated, hmake', hgo']
        rfl
      · rw [hplace] at hi
        cases hi
        exact ⟨c', rfl, hc'⟩
      · rw [hplace]
        exact hyields.beside hbeside
    · refine ⟨⟨.ended (.raised (x.leaving "coroutine")), .finished, none, q.transcript, q.own⟩, st', none,
        ?_, ?_, ⟨rfl, nofun⟩, hyields⟩
      · simp only [step, he, hp, Engine.belated, hmake]
      · rw [hq]
        simp only [step, he, hp, Engine.belated, hmake']
        rfl

/-- A player that has its beat among others does as it does alone, and leaves the others alone. -/
theorem beat_alone {p : Option (Player κ σ)} {st : Stock} {s : Option (Player κ σ) × Option Cursor}
    (h : Tuned p st s) (hf : st.builder.fresh = b.fresh) (q : Beat) :
    Tuned (r.beat .shared q (p, st)).1 (r.beat .shared q (p, st)).2 (r.beat (.lone b) q s) ∧
      st.Yields (Player.place? p) (r.beat .shared q (p, st)).2
        (Player.place? (r.beat .shared q (p, st)).1) := by
  obtain ⟨p', z⟩ := s
  obtain rfl : p.map Player.unplaced = p' := h.same
  cases p with
  | none =>
    cases q with
    | step fuel n => exact ⟨⟨rfl, nofun⟩, .refl st _⟩
    | enter =>
      by_cases hcall : r.isCall
      · simp only [beat, Option.map_none, hcall, if_true]
        exact ⟨⟨rfl, nofun⟩, .refl st _⟩
      · simp only [beat, Option.map_none, hcall, Bool.false_eq_true, if_false]
        rcases r.make_alone b hf z with
          ⟨e, c, st', hmake, hmake', hc, hyields⟩ | ⟨x, st', hmake, hmake', hyields⟩
        · rw [hmake, hmake']
          refine ⟨⟨rfl, fun i hi => ?_⟩, hyields⟩
          cases hi
          exact ⟨c, rfl, hc⟩
        · rw [hmake, hmake']
          exact ⟨⟨rfl, nofun⟩, hyields⟩
  | some q₀ =>
    cases q with
    | enter => exact ⟨h, .refl st _⟩
    | step fuel n =>
      simp only [beat, Option.map_some]
      cases he : q₀.engine with
      | none =>
        obtain ⟨q', st', z', hs, hs', htuned, hyields⟩ := r.step_unseated b fuel n he hf z
        have hplace : Player.place? (some q₀) = none := by simp [Player.place?, he]
        rw [hs, hs', hplace]
        exact ⟨htuned, hyields⟩
      | some e =>
        have hplace : Player.place? (some q₀) = some e.setup.backoff := by simp [Player.place?, he]
        obtain ⟨c, rfl, hc⟩ := h.cursor _ hplace
        obtain ⟨q', st', c', hs, hs', hplace', hc', hbeside⟩ := r.step_seated b fuel n q₀ he hc
        rw [hs, hs', hplace, hplace']
        refine ⟨⟨rfl, fun i hi => ?_⟩, hbeside.yields⟩
        rw [hplace'] at hi
        cases hi
        exact ⟨c', rfl, hc'⟩

end Role

/-! ## A player alone -/

/-- A player that is alone and has entered, with its cursor, and a coroutine of a fresh engine. -/
inductive Role.Seated {κ σ : Type} (r : Role κ σ) (c : Cursor) : Option (Player κ σ) × Option Cursor →
    Turn Nat κ (List (Exchange κ) × σ × Option Cursor) → Prop where
  | made (y : Yield) (p : Progress) (e : Engine Nat κ) (T : List (Exchange κ)) (own : σ) (z : Option Cursor) :
      r.Seated c (some ⟨y, p, some e, T, own⟩, z) ⟨y, p, e, T, own, z⟩
  | unmade (y : Yield) (p : Progress) (hp : p ≠ .driving) (z : Option Cursor) :
      r.Seated c (some ⟨y, p, none, [], r.own⟩, z)
        ⟨y, p, Engine.make .cooperative r.outfit, [], r.own, some c⟩

namespace Role

variable {κ σ : Type} {r : Role κ σ} {b : Builder} {c : Cursor}

theorem make_lone (hc : b.fresh = .ok c) (z : Option Cursor) :
    r.make (.lone b) z = (.ok (Engine.make .cooperative r.outfit), some c) := by
  simp only [make, Supply.lone, hc, Engine.configure_make, outfit]

theorem seated_enter (hc : b.fresh = .ok c) :
    r.Seated c (r.beat (.lone b) .enter (none, none)) (r.solo b c []) := by
  by_cases hcall : r.isCall
  · simp only [beat, hcall, if_true]
    exact .unmade .suspended .unstarted nofun none
  · simp only [beat, hcall, Bool.false_eq_true, if_false, make_lone hc]
    exact .made .suspended .unstarted (Engine.make .cooperative r.outfit) [] r.own (some c)

/-- Each step comes to the same. -/
theorem seated_step (hc : b.fresh = .ok c) {s : Option (Player κ σ) × Option Cursor}
    {t : Turn Nat κ (List (Exchange κ) × σ × Option Cursor)} (h : r.Seated c s t) (q : Nat × Nudge) :
    r.Seated c (r.beat (.lone b) (.step q.1 q.2) s)
      (Engine.urge (Engine.recording (r.surroundings (.lone b))) t q) := by
  obtain ⟨fuel, n⟩ := q
  cases h with
  | made y p e T own z =>
    exact .made _ _ _ _ _ _
  | unmade y p hp z =>
    cases p with
    | driving => exact absurd rfl hp
    | finished =>
      cases n with
      | close => exact .unmade (.ended (.returned .none)) .finished nofun z
      | _ => exact .unmade (.ended (.raised Engine.reuse)) .finished nofun z
    | unstarted =>
      cases n with
      | close => exact .unmade (.ended (.returned .none)) .finished nofun z
      | throw x => exact .unmade (.ended (.raised (x.leaving "coroutine"))) .finished nofun z
      | send =>
        simp only [beat, step, Engine.belated, make_lone hc]
        exact .made _ _ _ _ _ _

theorem seated_foldl (hc : b.fresh = .ok c) (qs : List (Nat × Nudge))
    {s : Option (Player κ σ) × Option Cursor} {t : Turn Nat κ (List (Exchange κ) × σ × Option Cursor)}
    (h : r.Seated c s t) :
    r.Seated c ((qs.map fun q => Beat.step q.1 q.2).foldl (fun s q => r.beat (.lone b) q s) s)
      (qs.foldl (Engine.urge (Engine.recording (r.surroundings (.lone b)))) t) := by
  induction qs generalizing s t with
  | nil => exact h
  | cons q qs ih => exact ih (seated_step hc h q)

theorem Seated.standsAt {s : Option (Player κ σ) × Option Cursor}
    {t : Turn Nat κ (List (Exchange κ) × σ × Option Cursor)} (h : r.Seated c s t) :
    ∃ p, s.1 = some p ∧ p.StandsAt r.outfit t := by
  cases h with
  | made => exact ⟨_, rfl, rfl, rfl, rfl, rfl, rfl⟩
  | unmade => exact ⟨_, rfl, rfl, rfl, rfl, rfl, rfl⟩

/-- Alone, a player is a coroutine of a fresh engine: that the engine of a call is made late is not seen. -/
theorem alone_standsAt_solo (r : Role κ σ) (hc : b.fresh = .ok c) (qs : List (Nat × Nudge)) :
    ∃ p, (r.alone b (.enter :: qs.map fun q => .step q.1 q.2)).1 = some p ∧
      p.StandsAt r.outfit (r.solo b c qs) :=
  (seated_foldl hc qs (seated_enter hc)).standsAt

end Role

/-! ## Concerts -/

namespace Concert

variable {κ σ : Type} {roles : Nat → Role κ σ} {b : Builder}

/-- Every player of a concert is what it is alone, and no two of them have one place. -/
structure InTune (b : Builder) (g : Concert κ σ) (s : Nat → Option (Player κ σ) × Option Cursor) : Prop where
  fresh : g.stock.builder.fresh = b.fresh
  tuned : ∀ j, Tuned (g.players j) g.stock (s j)
  apart : ∀ j k i, Player.place? (g.players j) = some i → Player.place? (g.players k) = some i → j = k

theorem beat_of_ne (g : Concert κ σ) {m : Nat × Beat} {j : Nat} (hj : j ≠ m.1) :
    (g.beat roles m).players j = g.players j := by
  simp only [beat, if_neg hj]

theorem beat_self (g : Concert κ σ) (j : Nat) (q : Beat) :
    (g.beat roles (j, q)).players j = ((roles j).beat .shared q (g.players j, g.stock)).1 := by
  simp only [beat, if_true]

/-- One player has its beat. -/
theorem inTune_beat {g : Concert κ σ} {s : Nat → Option (Player κ σ) × Option Cursor} (h : InTune b g s)
    (j : Nat) (q : Beat) :
    InTune b (g.beat roles (j, q)) fun k => if k = j then (roles j).beat (.lone b) q (s j) else s k := by
  obtain ⟨htuned, hyields⟩ := (roles j).beat_alone b (h.tuned j) h.fresh q
  have hself : (g.beat roles (j, q)).players j = ((roles j).beat .shared q (g.players j, g.stock)).1 :=
    g.beat_self j q
  have hother : ∀ k, k ≠ j → (g.beat roles (j, q)).players k = g.players k := fun k hk => g.beat_of_ne hk
  -- A place that another player has is not given away.
  have hplace : ∀ k i, k ≠ j → Player.place? (g.players k) = some i →
      Player.place? ((g.beat roles (j, q)).players j) ≠ some i := by
    intro k i hk hi hj
    rw [hself] at hj
    rcases hyields.place with hsame | ⟨i', hi', hnone⟩
    · rw [hsame] at hj
      exact hk (h.apart k j i hi hj)
    · rw [hj] at hi'
      cases hi'
      obtain ⟨c, -, hc⟩ := (h.tuned k).cursor i hi
      rw [hc] at hnone
      cases hnone
  refine ⟨hyields.fresh.trans h.fresh, fun k => ?_, fun k l i hk hl => ?_⟩
  · by_cases hk : k = j
    · subst hk
      rw [if_pos rfl, hself]
      exact htuned
    · rw [if_neg hk, hother k hk]
      refine ⟨(h.tuned k).same, fun i hi => ?_⟩
      obtain ⟨c, hs, hc⟩ := (h.tuned k).cursor i hi
      have hne : Player.place? (g.players j) ≠ some i := fun hi' => hk (h.apart k j i hi hi')
      exact ⟨c, hs, hyields.others i c hne hc⟩
  · by_cases hkj : k = j
    · by_cases hlj : l = j
      · rw [hkj, hlj]
      · rw [hother l hlj] at hl
        rw [hkj] at hk
        exact absurd hk (hplace l i hlj hl)
    · rw [hother k hkj] at hk
      by_cases hlj : l = j
      · rw [hlj] at hl
        exact absurd hl (hplace k i hkj hk)
      · rw [hother l hlj] at hl
        exact h.apart k l i hk hl

theorem beatsOf_cons (j : Nat) (m : Nat × Beat) (ms : List (Nat × Beat)) :
    beatsOf j (m :: ms) = if m.1 = j then m.2 :: beatsOf j ms else beatsOf j ms := by
  by_cases hm : m.1 = j <;> simp [beatsOf, hm]

theorem inTune_foldl (ms : List (Nat × Beat)) {g : Concert κ σ}
    {s : Nat → Option (Player κ σ) × Option Cursor} (h : InTune b g s) :
    InTune b (ms.foldl (beat roles) g) fun j =>
      (beatsOf j ms).foldl (fun s q => (roles j).beat (.lone b) q s) (s j) := by
  induction ms generalizing g s with
  | nil => exact h
  | cons m ms ih =>
    obtain ⟨i, q⟩ := m
    have hstates : (fun j => (beatsOf j ((i, q) :: ms)).foldl (fun s q => (roles j).beat (.lone b) q s) (s j)) =
        fun j => (beatsOf j ms).foldl (fun s q => (roles j).beat (.lone b) q s)
          (if j = i then (roles i).beat (.lone b) q (s i) else s j) := by
      funext j
      rw [beatsOf_cons]
      by_cases hj : i = j
      · subst hj
        rw [if_pos rfl, if_pos rfl, List.foldl_cons]
      · rw [if_neg hj, if_neg (Ne.symm hj)]
    rw [hstates]
    exact ih (inTune_beat h i q)

theorem inTune_play (roles : Nat → Role κ σ) (b : Builder) (ms : List (Nat × Beat)) :
    InTune b (play roles b ms) fun j => (roles j).alone b (beatsOf j ms) :=
  inTune_foldl ms ⟨rfl, fun _ => ⟨rfl, nofun⟩, nofun⟩

theorem beatsOf_filter (j : Nat) (ms : List (Nat × Beat)) :
    beatsOf j (ms.filter fun m => m.1 = j) = beatsOf j ms := by
  induction ms with
  | nil => rfl
  | cons m ms ih =>
    by_cases hm : m.1 = j
    · rw [List.filter_cons_of_pos (by simpa using hm), beatsOf_cons, beatsOf_cons, ih]
    · rw [List.filter_cons_of_neg (by simpa using hm), beatsOf_cons, if_neg hm, ih]

/-- Whoever plays, and in whatever order they have their beats: what each player comes to, and all that it has
asked and been told, is what it comes to alone with a new cursor of the same builder, or in a concert where
nobody else has a beat. Its cursor stands where it stands alone, and is nobody else's. One that enters and is
then stepped stands where a coroutine of a fresh engine stands that is told the same. -/
theorem players_as_alone (roles : Nat → Role κ σ) (b : Builder) (ms : List (Nat × Beat)) :
    let g := play roles b ms
    (∀ j, (g.players j).map Player.unplaced = ((roles j).alone b (beatsOf j ms)).1 ∧
      (g.players j).map Player.unplaced =
        ((play roles b (ms.filter fun m => m.1 = j)).players j).map Player.unplaced ∧
      (∀ i, Player.place? (g.players j) = some i →
        ∃ c, ((roles j).alone b (beatsOf j ms)).2 = some c ∧ g.stock.cursors[i]? = some c) ∧
      ∀ c qs, b.fresh = .ok c → beatsOf j ms = .enter :: qs.map (fun q => .step q.1 q.2) →
        ∃ p, (g.players j).map Player.unplaced = some p ∧
          p.StandsAt (roles j).outfit ((roles j).solo b c qs)) ∧
    ∀ j k i, Player.place? (g.players j) = some i → Player.place? (g.players k) = some i → j = k := by
  intro g
  have h := inTune_play roles b ms
  refine ⟨fun j => ⟨(h.tuned j).same, ?_, (h.tuned j).cursor, fun c qs hc hqs => ?_⟩, h.apart⟩
  · have hsame := ((inTune_play roles b (ms.filter fun m => m.1 = j)).tuned j).same
    rw [beatsOf_filter] at hsame
    exact (h.tuned j).same.trans hsame.symm
  · obtain ⟨p, hp, hstands⟩ := (roles j).alone_standsAt_solo hc qs
    rw [← hqs] at hp
    exact ⟨p, (h.tuned j).same.trans hp, hstands⟩

/-- The engine of a call is made with its first step, after that of another player. -/
example : Player.place? ((play
    (fun j => (⟨j == 0, default, default, fun _ _ _ => (.pending () none, ()), ()⟩ : Role Unit Unit))
    (.scripted (.tuple []) []) [(0, .enter), (1, .enter), (0, .step 2 .send)]).players 0) = some 1 := rfl

end Concert

end Reattempt
