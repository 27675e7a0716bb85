import Reattempt.Proofs.Decoration
import Reattempt.Proofs.Independence

/-!
# Calls start afresh

Of all calls of a decorated function, those that have begun have built a cursor each, and the others none. The
cursor of a call is in a place of its own, and hands out what a cursor does that nobody else has advanced:
whatever has become of the calls before, a call has all delays.
-/
namespace Reattempt

open Backoff

variable {ι κ σ : Type}

namespace Engine

variable {α : Type} {w : World ι κ σ} {f : σ → α} (hw : ∀ e a s, f (w e a s).2 = f s)
include hw

/-- What no reply changes, no drive changes. -/
theorem drive_keeps (fuel : Nat) (e : Engine ι κ) (s : σ) : f (drive w fuel e s).2 = f s := by
  induction fuel generalizing e s with
  | zero => rfl
  | succ fuel ih =>
    cases ha : e.ask? with
    | none => rw [drive_of_ask_none _ _ _ ha]
    | some a => rw [drive_succ _ _ _ ha, ih, hw]

theorem nudge_keeps (fuel : Nat) (p : Progress) (n : Nudge) (e : Engine ι κ) (s : σ) :
    f (nudge w fuel p n e s).world = f s := by
  unfold nudge
  cases e.stir p n with
  | error o => rfl
  | ok e' => exact drive_keeps hw fuel e' s

end Engine

/-! ## One cursor for each call that has begun -/

namespace Retryable

variable {g : Retryable ι} {build : σ → Except Fault ι × σ} {w : World ι κ σ}

/-- Nobody but the builder counts. -/
theorem count_nudge (w : World ι κ σ) (fuel : Nat) (p : Progress) (n : Nudge) (e : Engine ι κ)
    (T : List (Exchange κ)) (s : Nat × σ) :
    (Engine.nudge (Engine.recording w.aside) fuel p n e (T, s)).world.2.1 = s.1 :=
  Engine.nudge_keeps (f := fun z : List (Exchange κ) × Nat × σ => z.2.1) (fun _ _ _ => rfl) fuel p n e (T, s)

theorem count_of_begun {c : Call ι κ (Nat × σ)} (h : Behaves g (counted build) w.aside c) {fuel : Nat}
    {s : Nat × σ} (hpast : c.past = [(fuel, .send, s)]) : c.left.1 = s.1 + 1 := by
  rcases h.of_begun hpast with ⟨x, s', hbuild, -, -, hleft⟩ | ⟨cursor, s', hbuild, -, -, hleft⟩
  · rw [hleft]
    exact congrArg (·.2.1) hbuild.symm
  · rw [hleft, count_nudge]
    exact congrArg (·.2.1) hbuild.symm

theorem begun_of_past {c : Call ι κ σ} {fuel : Nat} {s : σ} (hpast : c.past = [(fuel, .send, s)]) : c.begun := by
  simp [Call.begun, begins, Call.told, hpast]

/-- One call is replaced by what has become of it. -/
theorem countP_set_begun {calls : List (Call ι κ σ)} {k : Nat} {c : Call ι κ σ} (hk : calls[k]? = some c)
    (c' : Call ι κ σ) : (calls.set k c').countP (·.begun) + (if c.begun then 1 else 0) =
      calls.countP (·.begun) + if c'.begun then 1 else 0 := by
  obtain ⟨hlt, rfl⟩ := List.getElem?_eq_some_iff.mp hk
  have hone : (if calls[k].begun then 1 else 0) ≤ calls.countP (·.begun) := by
    split
    · next hbegun => exact List.countP_pos_iff.mpr ⟨_, List.getElem_mem hlt, hbegun⟩
    · exact Nat.zero_le _
  rw [List.countP_set hlt]
  omega

theorem count_leads {z z' : Scene ι κ (Nat × σ)} (hl : Leads g (counted build) w.aside z z')
    (h : z.world.1 = z.calls.countP (·.begun)) : z'.world.1 = z'.calls.countP (·.begun) := by
  cases hl with
  | promised a =>
    rw [List.countP_append, ← h]
    rfl
  | called fuel hpast hc =>
    rw [count_of_begun hc hpast, h, List.countP_append]
    simp [begun_of_past hpast]
  | @begun k fuel c c' hk hbegun hengine hpast hc =>
    have hset := countP_set_begun hk c'
    rw [hbegun, begun_of_past hpast] at hset
    rw [count_of_begun hc hpast, h]
    exact hset.symm
  | @driven k fuel n c c' e hk hbegun hengine hstep =>
    have hset := countP_set_begun hk c'
    rw [hbegun] at hset
    obtain ⟨-, -, hleft⟩ := hstep
    rw [hleft, count_nudge, h]
    exact (Nat.add_right_cancel hset).symm
  | @idle k c c' hk hbegun hengine hengine' =>
    have hset := countP_set_begun hk c'
    rw [hbegun] at hset
    exact h.trans (Nat.add_right_cancel hset).symm
  | nothing => exact h

end Retryable

/-! ## Cursors that hand out what a fresh one does -/

/-- What advances of a cursor have come to. -/
def draws (T : List (Exchange κ)) : List (Reply κ) :=
  T.filterMap fun q => match q.ask with
    | .advance => some q.reply
    | _ => none

/-- The cursor in a place has handed out what a cursor does that stood at `c`, and stands where that stands. -/
structure Drawn (c : Cursor) (i : Nat) (T : List (Exchange κ)) (st : Stock) : Prop where
  replies : draws T = (List.range (draws T).length).map fun n => .drawn (c.after n).advance.1
  cursor : st.cursors[i]? = some (c.after (draws T).length)

theorem draws_append (T U : List (Exchange κ)) : draws (T ++ U) = draws T ++ draws U := List.filterMap_append

theorem drawn_nil {c : Cursor} {i : Nat} {st : Stock} (h : st.cursors[i]? = some c) :
    Drawn c i ([] : List (Exchange κ)) st := ⟨rfl, h⟩

theorem Drawn.other {c : Cursor} {i : Nat} {T : List (Exchange κ)} {st : Stock} (h : Drawn c i T st)
    {q : Exchange κ} (hq : draws [q] = []) : Drawn c i (T ++ [q]) st := by
  have hsame : draws (T ++ [q]) = draws T := by rw [draws_append, hq, List.append_nil]
  exact ⟨by rw [hsame]; exact h.replies, by rw [hsame]; exact h.cursor⟩

section Stocked

variable (w : World Nat κ σ) {c : Cursor}

/-- Whatever is asked, the cursor hands out what is next, and the other cursors stay as they are. -/
theorem drawn_reply {e : Engine Nat κ} {T : List (Exchange κ)} {st : Stock} (h : Drawn c e.setup.backoff T st)
    (a : Ask κ) (own : σ) :
    Drawn c e.setup.backoff (T ++ [⟨e.phase, e.attempts, a, (w.stocked e a (own, st)).1⟩])
        (w.stocked e a (own, st)).2.2 ∧
      st.Beside e.setup.backoff (w.stocked e a (own, st)).2.2 := by
  obtain ⟨hlt, -⟩ := List.getElem?_eq_some_iff.mp h.cursor
  cases a with
  | advance =>
    have hdraw : draw st.cursors e.setup.backoff = ((c.after (draws T).length).advance.1,
        st.cursors.set e.setup.backoff (c.after (draws T).length).advance.2) := by
      simp only [draw, h.cursor]
    have hnew : draws (T ++ [⟨e.phase, e.attempts, .advance, (w.stocked e .advance (own, st)).1⟩]) =
        draws T ++ [.drawn (c.after (draws T).length).advance.1] := by
      rw [draws_append, World.stocked, hdraw]
      rfl
    refine ⟨⟨?_, ?_⟩, ?_⟩
    · rw [hnew, List.length_append, List.length_singleton, List.range_succ, List.map_append, ← h.replies]
      rfl
    · rw [hnew, List.length_append, World.stocked, hdraw]
      simp [hlt, Cursor.after]
    · rw [World.stocked, hdraw]
      exact ⟨rfl, by simp, fun k hk => List.getElem?_set_ne hk.symm⟩
  | _ => exact ⟨h.other rfl, .refl _ st⟩

theorem drawn_drive (fuel : Nat) {e : Engine Nat κ} {T : List (Exchange κ)} {st : Stock}
    (h : Drawn c e.setup.backoff T st) (own : σ) :
    let d := Engine.drive (Engine.recording w.stocked) fuel e (T, own, st)
    d.1.setup = e.setup ∧ Drawn c e.setup.backoff d.2.1 d.2.2.2 ∧ st.Beside e.setup.backoff d.2.2.2 := by
  induction fuel generalizing e T st own with
  | zero => exact ⟨rfl, h, .refl _ st⟩
  | succ fuel ih =>
    cases ha : e.ask? with
    | none =>
      rw [Engine.drive_of_ask_none _ _ _ ha]
      exact ⟨rfl, h, .refl _ st⟩
    | some a =>
      have hsetup := Engine.setup_reply e (w.stocked e a (own, st)).1
      obtain ⟨hnext, hbeside⟩ := drawn_reply w h a own
      rw [← hsetup] at hnext
      obtain ⟨hsetup', hdrawn, hbeside'⟩ := ih hnext (w.stocked e a (own, st)).2.1
      rw [hsetup] at hsetup' hdrawn hbeside'
      rw [Engine.drive_succ _ _ _ ha]
      exact ⟨hsetup', hdrawn, hbeside.trans hbeside'⟩

theorem drawn_nudge (fuel : Nat) (p : Progress) (n : Nudge) {e : Engine Nat κ} {T : List (Exchange κ)}
    {st : Stock} (h : Drawn c e.setup.backoff T st) (own : σ) :
    let t := Engine.nudge (Engine.recording w.stocked) fuel p n e (T, own, st)
    t.engine.setup = e.setup ∧ Drawn c e.setup.backoff t.world.1 t.world.2.2 ∧
      st.Beside e.setup.backoff t.world.2.2 := by
  unfold Engine.nudge
  cases hs : e.stir p n with
  | error o => exact ⟨rfl, h, .refl _ st⟩
  | ok e' =>
    have hsetup : e'.setup = e.setup := by
      rcases Engine.stir_eq_ok hs with ⟨-, -, rfl⟩ | ⟨-, rfl⟩
      · rfl
      · exact Engine.setup_wake _ e
    rw [← hsetup] at h ⊢
    exact drawn_drive w fuel h own

end Stocked

/-! ## Calls with cursors of one stock -/

/-- A new cursor is in a place that nobody had. -/
theorem Backoff.Stock.yields_supply {s s' : σ × Stock} {r : Except Fault Nat} (h : Stock.supply s = (r, s')) :
    match r with
    | .error _ => s.2.Yields none s'.2 none
    | .ok i => (∃ c, s.2.builder.fresh = .ok c ∧ s'.2.cursors[i]? = some c) ∧ s.2.Yields none s'.2 (some i) := by
  obtain ⟨own, st⟩ := s
  have hfresh := st.builder.build_eq_fresh st.cursors.length
  have hnext := st.builder.fresh_build st.cursors.length
  rcases hbuild : st.builder.build st.cursors.length with ⟨x | c, builder⟩
  · rw [hbuild] at hnext
    simp only [Stock.supply, Stock.build, hbuild] at h
    cases h
    exact ⟨hnext, fun _ _ _ hc => hc, .inl rfl⟩
  · rw [hbuild] at hfresh hnext
    simp only [Stock.supply, Stock.build, hbuild] at h
    cases h
    refine ⟨⟨c, hfresh.symm, by simp⟩, hnext, fun k c' _ hc' => ?_, .inr ⟨_, rfl, by simp⟩⟩
    rwa [List.getElem?_append_left (List.getElem?_eq_some_iff.mp hc').1]

namespace Retryable

/-- The place of the cursor that a call has. -/
def Call.place? {τ : Type} (c : Call Nat κ τ) : Option Nat := c.engine.map (·.setup.backoff)

/-- What a call has drawn so far is what a fresh cursor hands out, and its cursor stands where that stands. -/
def Call.Fresh {τ : Type} (c : Call Nat κ τ) (b : Builder) (st : Stock) : Prop :=
  ∀ i, c.place? = some i → ∃ c₀, b.fresh = .ok c₀ ∧ Drawn c₀ i c.transcript st

/-- Every call has drawn what a fresh cursor hands out, from a cursor of its own. -/
structure Kept (b : Builder) (z : Scene Nat κ (σ × Stock)) : Prop where
  fresh : z.world.2.builder.fresh = b.fresh
  drawn : ∀ (k : Nat) (c : Call Nat κ (σ × Stock)), z.calls[k]? = some c → c.Fresh b z.world.2
  apart : ∀ (j k i : Nat), (z.calls[j]?).bind Call.place? = some i → (z.calls[k]?).bind Call.place? = some i → j = k

theorem kept_nil (b : Builder) (own : σ) : Kept b (⟨(own, ⟨b, []⟩), []⟩ : Scene Nat κ (σ × Stock)) := by
  refine ⟨rfl, fun k c hk => ?_, fun j k i hj hk => ?_⟩
  · simp at hk
  · simp at hj

variable {b : Builder} {g : Retryable Nat} {w : World Nat κ σ}

theorem fresh_begun {c : Call Nat κ (σ × Stock)} (h : Behaves g Stock.supply w.stocked c) {fuel : Nat}
    {s : σ × Stock} (hpast : c.past = [(fuel, .send, s)]) (hf : s.2.builder.fresh = b.fresh) :
    c.Fresh b c.left.2 ∧ s.2.Yields none c.left.2 c.place? := by
  rcases h.of_begun hpast with
    ⟨x, s', hbuild, hengine, -, hleft⟩ | ⟨cursor, s', hbuild, hengine, htranscript, hleft⟩
  · have hplace : c.place? = none := by rw [Call.place?, hengine]; rfl
    have hyields := Stock.yields_supply hbuild
    rw [hleft, hplace]
    refine ⟨fun i hi => ?_, hyields⟩
    rw [hplace] at hi
    cases hi
  · obtain ⟨⟨c₀, hc₀, hcursor⟩, hyields⟩ := Stock.yields_supply hbuild
    obtain ⟨hsetup, hdrawn, hbeside⟩ := drawn_nudge w fuel .unstarted .send
      (e := Engine.make g.mode (g.options.apply (g.setup c.arguments cursor))) (drawn_nil hcursor) s'.1
    have hplace : c.place? = some cursor := by
      rw [Call.place?, hengine]
      exact congrArg (fun u => some u.backoff) hsetup
    rw [hleft, hplace]
    refine ⟨fun i hi => ⟨c₀, hf ▸ hc₀, ?_⟩, hyields.beside hbeside⟩
    obtain rfl := Option.some.inj (hplace.symm.trans hi)
    rw [htranscript]
    exact hdrawn

theorem fresh_driven {c c' : Call Nat κ (σ × Stock)} {e : Engine Nat κ} (hengine : c.engine = some e) {fuel : Nat}
    {n : Nudge} {s : σ × Stock} (h : c.Fresh b s.2)
    (hstep : let t := Engine.nudge (Engine.recording w.stocked) fuel c.progress n e (c.transcript, s)
      c'.engine = some t.engine ∧ c'.transcript = t.world.1 ∧ c'.left = t.world.2) :
    c'.Fresh b c'.left.2 ∧ s.2.Yields c.place? c'.left.2 c'.place? := by
  obtain ⟨hengine', htranscript, hleft⟩ := hstep
  have hplace : c.place? = some e.setup.backoff := by rw [Call.place?, hengine]; rfl
  obtain ⟨c₀, hc₀, hdrawn⟩ := h _ hplace
  obtain ⟨hsetup, hdrawn, hbeside⟩ := drawn_nudge w fuel c.progress n hdrawn s.1
  have hplace' : c'.place? = some e.setup.backoff := by
    rw [Call.place?, hengine']
    exact congrArg (fun u => some u.backoff) hsetup
  rw [hleft, hplace, hplace']
  refine ⟨fun i hi => ⟨c₀, hc₀, ?_⟩, hbeside.yields⟩
  obtain rfl := Option.some.inj (hplace'.symm.trans hi)
  rw [htranscript]
  exact hdrawn

/-- One call has become something, and the others are as they were. -/
theorem Kept.change {z z' : Scene Nat κ (σ × Stock)} (h : Kept b z) {k : Nat} {c : Call Nat κ (σ × Stock)}
    (hk : z'.calls[k]? = some c) (hothers : ∀ j ≠ k, z'.calls[j]? = z.calls[j]?)
    (hyields : z.world.2.Yields ((z.calls[k]?).bind Call.place?) z'.world.2 c.place?)
    (hc : c.Fresh b z'.world.2) : Kept b z' := by
  -- A place that another call has is not given away.
  have hplace : ∀ j i, j ≠ k → (z.calls[j]?).bind Call.place? = some i → c.place? ≠ some i := by
    intro j i hj hi hci
    rcases hyields.place with hsame | ⟨i', hi', hnone⟩
    · rw [hsame] at hci
      exact hj (h.apart j k i hi hci)
    · obtain rfl := Option.some.inj (hi'.symm.trans hci)
      obtain ⟨c', hc', hplace'⟩ := Option.bind_eq_some_iff.mp hi
      obtain ⟨c₀, -, hdrawn⟩ := h.drawn j c' hc' _ hplace'
      rw [hdrawn.cursor] at hnone
      cases hnone
  refine ⟨hyields.fresh.trans h.fresh, fun j c' hj => ?_, fun j l i hj hl => ?_⟩
  · by_cases hjk : j = k
    · subst hjk
      obtain rfl := Option.some.inj (hk.symm.trans hj)
      exact hc
    · rw [hothers j hjk] at hj
      intro i hi
      obtain ⟨c₀, hc₀, hdrawn⟩ := h.drawn j c' hj i hi
      refine ⟨c₀, hc₀, hdrawn.replies, hyields.others i _ ?_ hdrawn.cursor⟩
      intro hi'
      exact hjk (h.apart j k i (by rw [hj]; exact hi) hi')
  · by_cases hjk : j = k
    · by_cases hlk : l = k
      · rw [hjk, hlk]
      · rw [hothers l hlk] at hl
        rw [hjk, hk] at hj
        exact absurd hj (hplace l i hlk hl)
    · rw [hothers j hjk] at hj
      by_cases hlk : l = k
      · rw [hlk, hk] at hl
        exact absurd hl (hplace j i hjk hj)
      · rw [hothers l hlk] at hl
        exact h.apart j l i hj hl

/-- A new call comes last. -/
theorem Kept.append {z : Scene Nat κ (σ × Stock)} (h : Kept b z) {c : Call Nat κ (σ × Stock)} {s : σ × Stock}
    (hyields : z.world.2.Yields none s.2 c.place?) (hc : c.Fresh b s.2) : Kept b ⟨s, z.calls ++ [c]⟩ := by
  refine h.change (k := z.calls.length) (by simp) (fun j hj => ?_) (by simpa using hyields) hc
  by_cases hlt : j < z.calls.length
  · exact List.getElem?_append_left hlt
  · have hlength : (z.calls ++ [c]).length ≤ j := by
      rw [List.length_append, List.length_singleton]
      omega
    rw [List.getElem?_eq_none hlength, List.getElem?_eq_none (Nat.not_lt.mp hlt)]

theorem Kept.set {z : Scene Nat κ (σ × Stock)} (h : Kept b z) {k : Nat} {c c' : Call Nat κ (σ × Stock)}
    (hk : z.calls[k]? = some c) {s : σ × Stock} (hyields : z.world.2.Yields c.place? s.2 c'.place?)
    (hc : c'.Fresh b s.2) : Kept b ⟨s, z.calls.set k c'⟩ := by
  obtain ⟨hlt, -⟩ := List.getElem?_eq_some_iff.mp hk
  refine h.change (k := k) (by simp [hlt]) (fun j hj => ?_) (by simpa [hk] using hyields) hc
  exact List.getElem?_set_ne hj.symm

theorem kept_leads {z z' : Scene Nat κ (σ × Stock)} (hl : Leads g Stock.supply w.stocked z z') (h : Kept b z) :
    Kept b z' := by
  cases hl with
  | promised a => exact h.append (.refl _ _) nofun
  | called fuel hpast hc =>
    obtain ⟨hfresh, hyields⟩ := fresh_begun hc hpast h.fresh
    exact h.append hyields hfresh
  | @begun k fuel c c' hk hbegun hengine hpast hc =>
    obtain ⟨hfresh, hyields⟩ := fresh_begun hc hpast h.fresh
    have hplace : c.place? = none := by rw [Call.place?, hengine]; rfl
    rw [← hplace] at hyields
    exact h.set hk hyields hfresh
  | @driven k fuel n c c' e hk hbegun hengine hstep =>
    obtain ⟨hfresh, hyields⟩ := fresh_driven hengine (h.drawn k c hk) hstep
    exact h.set hk hyields hfresh
  | @idle k c c' hk hbegun hengine hengine' =>
    have hplace : c.place? = none := by rw [Call.place?, hengine]; rfl
    have hplace' : c'.place? = none := by rw [Call.place?, hengine']; rfl
    refine h.set hk ?_ fun i hi => ?_
    · rw [hplace, hplace']
      exact .refl _ _
    · rw [hplace'] at hi
      cases hi
  | nothing => exact h

/-! ## Whole runs -/

/-- What holds at the beginning and of what every move makes of a scene holds throughout. -/
theorem play_induction {ι σ : Type} (g : Retryable ι) (build : σ → Except Fault ι × σ) (w : World ι κ σ) {s : σ}
    {P : Scene ι κ σ → Prop} (hbegin : P ⟨s, []⟩) (hmove : ∀ z z', Leads g build w z z' → P z → P z')
    (ms : List (Move ι)) : P (g.play build w s ms) := by
  have hboth : (∀ c ∈ (g.play build w s ms).calls, Behaves g build w c) ∧ P (g.play build w s ms) :=
    ms.foldlRecOn (g.move build w) (motive := fun z => (∀ c ∈ z.calls, Behaves g build w c) ∧ P z)
      ⟨fun _ h => absurd h List.not_mem_nil, hbegin⟩ fun z h m _ =>
        ⟨behaves_move g build w h.1 m, hmove z _ (leads_move g build w h.1 m) h.2⟩
  exact hboth.2

theorem countP_begun (calls : List (Call ι κ σ)) :
    calls.countP (·.begun) = (calls.map Call.told).countP fun t => begins t.2 := by
  rw [List.countP_map]
  rfl

/-- Whenever a decorated function is called, and in whatever order the coroutines of its calls are stepped: a call
behaves as a coroutine of a new engine does, with the arguments of the call and with all options in any order. A
cursor is built once for each call that has begun, and the call of a plain function begins at once. With a builder
of cursors side by side, a call has drawn from a cursor of its own what a fresh cursor hands out, whatever other
calls have drawn, and however they have ended. -/
theorem calls_drive_new_engines {ι σ : Type} (g : Retryable ι) (build : σ → Except Fault ι × σ) (w : World ι κ σ)
    (s : σ) (ms : List (Move ι)) :
    let z := g.play build w s ms
    z.calls.map Call.told = ms.foldl g.tell [] ∧
    (∀ c ∈ z.calls, Behaves g build w c ∧ (g.isCoroutine = false → c.begun)) ∧
    (g.play (counted build) w.aside (0, s) ms).world.1 = z.calls.countP (·.begun) ∧
    ∀ (g : Retryable Nat) (b : Builder) (w : World Nat κ σ) (ms : List (Move Nat)),
      let z := g.play Stock.supply w.stocked (s, ⟨b, []⟩) ms
      (∀ c ∈ z.calls, c.Fresh b z.world.2) ∧
      ∀ j k i : Nat, (z.calls[j]?).bind Call.place? = some i → (z.calls[k]?).bind Call.place? = some i → j = k := by
  have hcount : (g.play (counted build) w.aside (0, s) ms).world.1 = (g.play build w s ms).calls.countP (·.begun) := by
    rw [countP_begun, told_play, ← told_play g (counted build) w.aside (0, s), ← countP_begun]
    exact play_induction g (counted build) w.aside (P := fun z => z.world.1 = z.calls.countP (·.begun)) rfl
      (fun _ _ hl h => count_leads hl h) ms
  refine ⟨told_play g build w s ms, fun c hc => ⟨behaves_play g build w s ms c hc, fun hg => ?_⟩, hcount,
    fun g b w ms => ?_⟩
  · exact begun_play g build w hg s ms c hc
  · have hkept := play_induction g Stock.supply w.stocked (P := Kept b) (s := (s, ⟨b, []⟩)) (kept_nil b s)
      (fun _ _ hl h => kept_leads hl h) ms
    refine ⟨fun c hc => ?_, hkept.apart⟩
    obtain ⟨k, hk⟩ := List.mem_iff_getElem?.mp hc
    exact hkept.drawn k c hk

/-- The second call has the delay that the first has used up. -/
example : ((play ⟨false, default, default⟩ Stock.supply
    (World.stocked fun _ a (s : Unit) => (match a with
      | .invoke => .raised (Fault.valueError "busy")
      | _ => .returned .none, s)) ((), ⟨.scripted (.tuple [.int 1]) [], []⟩)
    [.call 0 20, .call 0 20] : Scene Nat Unit (Unit × Stock)).calls.map fun c => draws c.transcript) =
    [[.returned (.int 1), .returned .none], [.returned (.int 1), .returned .none]] := rfl

end Retryable

end Reattempt
