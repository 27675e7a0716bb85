import Reattempt.Engine.Retryable

/-!
# Every call drives an engine of its own

A call of a decorated function stands where a coroutine stands of a new engine that was made when the call
began, with the arguments of the call and the options of the decoration, which may have been applied in any
order. A cursor is built once for each call that has begun.
-/
namespace Reattempt

variable {ι κ σ : Type}

/-! ## Options in any order -/

theorem Engine.changed_make (mode : Mode) (u : Setup ι) (cs : List (Setup.Change ι)) :
    (make mode u : Engine ι κ).changed cs = .ok (make mode (cs.foldl (fun u c => c.apply u) u)) := by
  induction cs generalizing u with
  | nil => rfl
  | cons c cs ih => exact ih (c.apply u)

namespace Options

variable (o : Options ι)

theorem foldl_changes (u : Setup ι) : o.changes.foldl (fun u c => c.apply u) u = o.apply u := by
  obtain ⟨j, n, s⟩ := o
  cases j <;> cases n <;> cases s <;> rfl

/-- Options are about different collaborators. -/
theorem apply_comm {c d : Setup.Change ι} (hc : c ∈ o.changes) (hd : d ∈ o.changes) (u : Setup ι) :
    d.apply (c.apply u) = c.apply (d.apply u) := by
  obtain ⟨j, n, s⟩ := o
  simp only [changes, List.mem_append, Option.mem_toList, Option.map_eq_some_iff] at hc hd
  rcases hc with (⟨a, ha, rfl⟩ | ⟨a, ha, rfl⟩) | ⟨a, ha, rfl⟩ <;>
    rcases hd with (⟨b, hb, rfl⟩ | ⟨b, hb, rfl⟩) | ⟨b, hb, rfl⟩ <;>
      first
        | rfl
        | (obtain rfl : a = b := Option.some.inj (ha.symm.trans hb)
           rfl)

/-- A new engine that takes the options in any order is the one that takes them in theirs. -/
theorem changed_of_perm {cs : List (Setup.Change ι)} (h : cs.Perm o.changes) (mode : Mode) (u : Setup ι) :
    (Engine.make mode u : Engine ι κ).changed cs = .ok (Engine.make mode (o.apply u)) := by
  rw [Engine.changed_make, h.foldl_eq' fun c hc d hd z => o.apply_comm (h.mem_iff.mp hc) (h.mem_iff.mp hd) z,
    o.foldl_changes]

end Options

/-! ## Calls as coroutines of engines -/

namespace Engine

/-- A coroutine that is told one thing after another, in the surroundings that there are each time. -/
def urged (w : World ι κ σ) (t : Turn ι κ (List (Exchange κ) × σ)) (qs : List (Nat × Nudge × σ)) :
    Turn ι κ (List (Exchange κ) × σ) :=
  qs.foldl (fun t q => nudge (recording w) q.1 t.progress q.2.1 t.engine (t.world.1, q.2.2)) t

theorem urged_append (w : World ι κ σ) (t : Turn ι κ (List (Exchange κ) × σ)) (qs : List (Nat × Nudge × σ))
    (fuel : Nat) (n : Nudge) (s : σ) : urged w t (qs ++ [(fuel, n, s)]) =
      nudge (recording w) fuel (urged w t qs).progress n (urged w t qs).engine ((urged w t qs).world.1, s) := by
  simp only [urged, List.foldl_append, List.foldl_cons, List.foldl_nil]

/-- A coroutine that has come to its end stays there. -/
theorem nudge_finished (w : World ι κ σ) (fuel : Nat) (n : Nudge) (e : Engine ι κ) (s : σ) :
    ∃ o, nudge w fuel .finished n e s = ⟨.ended o, .finished, e, s⟩ ∧
      ∀ {η τ : Type} (make : τ → Except Fault η × τ) (go : η → Progress → Nudge → τ → Yield × Progress × η × τ)
        (z : τ), belated make go none .finished n z = (.ended o, .finished, none, z) := by
  cases n <;> exact ⟨_, rfl, fun _ _ _ => rfl⟩

theorem progress_urged_of_finished (w : World ι κ σ) (qs : List (Nat × Nudge × σ))
    {t : Turn ι κ (List (Exchange κ) × σ)} (h : t.progress = .finished) : (urged w t qs).progress = .finished := by
  induction qs generalizing t with
  | nil => exact h
  | cons q qs ih =>
    obtain ⟨o, ho, -⟩ := nudge_finished (recording w) q.1 q.2.1 t.engine (t.world.1, q.2.2)
    refine ih ?_
    simp only [h, ho]

end Engine

namespace Retryable

/-- A call stands where a coroutine stands. -/
structure Call.StandsAt (c : Call ι κ σ) (t : Turn ι κ (List (Exchange κ) × σ)) : Prop where
  yield : c.yield = t.yield
  progress : c.progress = t.progress
  transcript : c.transcript = t.world.1
  left : c.left = t.world.2

/-- A call behaves as a coroutine of a new engine does that is told the same in the same surroundings. -/
inductive Behaves (g : Retryable ι) (build : σ → Except Fault ι × σ) (w : World ι κ σ) (c : Call ι κ σ) : Prop
    where
  /-- It has not begun: there is no engine, and nothing has been built. Any engine would be as good. -/
  | idle (hbegun : c.begun = false) (hengine : c.engine = none) (s : σ)
      (hstands : ∀ e, c.StandsAt (Engine.urged w ⟨.suspended, .unstarted, e, [], s⟩ c.past))
  /-- It was told to go on, and no cursor could be built. It ends by that fault. -/
  | failed {fuel : Nat} {s s' : σ} {qs : List (Nat × Nudge × σ)} {x : Fault}
      (hpast : c.past = (fuel, .send, s) :: qs) (hbuild : build s = (.error x, s')) (hengine : c.engine = none)
      (hstands : ∀ e, c.StandsAt
        (Engine.urged w ⟨.ended (.raised (g.mode.leaving x)), .finished, e, [], s'⟩ qs))
  /-- It was told to go on, and a cursor was built for its engine, which is the one that takes the options in any
  order. -/
  | driven {fuel : Nat} {s s' : σ} {qs : List (Nat × Nudge × σ)} {cursor : ι} {e : Engine ι κ}
      (hpast : c.past = (fuel, .send, s) :: qs) (hbuild : build s = (.ok cursor, s'))
      (hmade : ∀ cs, cs.Perm g.options.changes →
        (Engine.make g.mode (g.setup c.arguments cursor)).changed cs = .ok e)
      (hengine : c.engine = some (Engine.urged w ⟨.suspended, .unstarted, e, [], s'⟩ ((fuel, .send, s') :: qs)).engine)
      (hstands : c.StandsAt (Engine.urged w ⟨.suspended, .unstarted, e, [], s'⟩ ((fuel, .send, s') :: qs)))

variable {g : Retryable ι} {build : σ → Except Fault ι × σ} {w : World ι κ σ} {c : Call ι κ σ}

@[simp] theorem arguments_step (fuel : Nat) (n : Nudge) (s : σ) :
    (g.step build w fuel n c s).arguments = c.arguments := rfl

@[simp] theorem past_step (fuel : Nat) (n : Nudge) (s : σ) :
    (g.step build w fuel n c s).past = c.past ++ [(fuel, n, s)] := rfl

theorem behaves_promise (a : ι) (s : σ) : Behaves g build w (promise a s) :=
  .idle rfl rfl s fun _ => ⟨rfl, rfl, rfl, rfl⟩

theorem behaves_call (hg : g.isCoroutine = false) (fuel : Nat) (a : ι) (s : σ) :
    Behaves g build w (g.call build w fuel a s) := by
  have hmode : g.mode = .blocking := by simp [mode, hg]
  rcases hb : build s with ⟨x | cursor, s'⟩
  · have hcall : g.call build w fuel a s =
        ⟨a, [(fuel, .send, s)], .ended (.raised x), .finished, none, [], s'⟩ := by
      simp only [call, make, hb]
    rw [hcall]
    exact .failed rfl hb rfl fun e => ⟨by rw [hmode]; rfl, rfl, rfl, rfl⟩
  · simp only [call, make, hb, Engine.configure_make]
    exact .driven rfl hb (fun cs hcs => g.options.changed_of_perm hcs _ _) rfl ⟨rfl, rfl, rfl, rfl⟩

/-- The first step of a call that is told to go on. -/
theorem behaves_begin (hg : g.isCoroutine) (a : ι) (s₀ s : σ) (fuel : Nat) :
    Behaves g build w (g.step build w fuel .send (promise a s₀) s) := by
  have hmode : g.mode = .cooperative := by simp [mode, hg]
  rcases hb : build s with ⟨x | cursor, s'⟩
  · refine .failed rfl hb ?_ fun e => ?_
    · simp only [step, promise, Engine.belated, make, hb]
    · simp only [step, promise, Engine.belated, make, hb, hmode]
      exact ⟨rfl, rfl, rfl, rfl⟩
  · refine .driven rfl hb (fun cs hcs => g.options.changed_of_perm hcs _ _) ?_ ?_
    · simp only [step, promise, Engine.belated, make, hb, Engine.configure_make]
      rfl
    · simp only [step, promise, Engine.belated, make, hb, Engine.configure_make]
      exact ⟨rfl, rfl, rfl, rfl⟩

/-- A call that has not been told anything has not come to anything. -/
theorem eq_promise (h : Behaves g build w c) (hpast : c.past = []) : ∃ s, c = promise c.arguments s := by
  cases h with
  | idle hbegun hengine s hstands =>
    obtain ⟨a, past, y, p, engine, T, left⟩ := c
    obtain rfl : past = [] := hpast
    obtain rfl : engine = none := hengine
    have hfresh := hstands (Engine.make g.mode (g.setup a a))
    obtain rfl : y = .suspended := hfresh.yield
    obtain rfl : p = .unstarted := hfresh.progress
    obtain rfl : T = [] := hfresh.transcript
    exact ⟨left, rfl⟩
  | failed hpast' =>
    rw [hpast] at hpast'
    cases hpast'
  | driven hpast' =>
    rw [hpast] at hpast'
    cases hpast'

/-- One that has been told something and has no engine has come to its end. -/
theorem progress_of_engine_none (h : Behaves g build w c) (hengine : c.engine = none) (hpast : c.past ≠ []) :
    c.progress = .finished := by
  have e : Engine ι κ := Engine.make g.mode (g.setup c.arguments c.arguments)
  cases h with
  | idle hbegun _ s hstands =>
    rw [(hstands e).progress]
    obtain ⟨⟨fuel, n, s₁⟩, qs, hc⟩ := List.exists_cons_of_ne_nil hpast
    rw [hc]
    refine Engine.progress_urged_of_finished w qs ?_
    cases n with
    | send => simp [Call.begun, begins, Call.told, hc] at hbegun
    | _ => rfl
  | failed _ _ _ hstands =>
    rw [(hstands e).progress]
    exact Engine.progress_urged_of_finished w _ rfl
  | driven _ _ _ hengine' =>
    rw [hengine] at hengine'
    cases hengine'

theorem begun_step (hpast : c.past ≠ []) (fuel : Nat) (n : Nudge) (s : σ) :
    (g.step build w fuel n c s).begun = c.begun := by
  obtain ⟨⟨fuel₀, n₀, s₀⟩, qs, hc⟩ := List.exists_cons_of_ne_nil hpast
  simp only [Call.begun, Call.told, past_step, hc]
  cases n₀ <;> rfl

variable (g build w) in
/-- A call that has no engine and does not begin changes nothing. -/
theorem step_idle (hengine : c.engine = none) {n : Nudge} (h : c.progress ≠ .unstarted ∨ n ≠ .send) (fuel : Nat)
    (s : σ) : (g.step build w fuel n c s).engine = none ∧ (g.step build w fuel n c s).left = s := by
  obtain ⟨y, p, hbelated⟩ := Engine.belated_idle h
  simp only [step, hengine, hbelated, and_self]

theorem standsAt_step_finished (hengine : c.engine = none) (hp : c.progress = .finished)
    {t : Turn ι κ (List (Exchange κ) × σ)} (h : c.StandsAt t) (fuel : Nat) (n : Nudge) (s : σ) :
    (g.step build w fuel n c s).StandsAt
      (Engine.nudge (Engine.recording w) fuel t.progress n t.engine (t.world.1, s)) := by
  obtain ⟨o, ho, hbelated⟩ := Engine.nudge_finished (Engine.recording w) fuel n t.engine (t.world.1, s)
  rw [← h.progress, hp, ho]
  simp only [step, hengine, hp, hbelated]
  exact ⟨rfl, rfl, h.transcript, rfl⟩

variable (g build) in
/-- A call that has its engine drives it. -/
theorem standsAt_step_driving {t : Turn ι κ (List (Exchange κ) × σ)} (hengine : c.engine = some t.engine)
    (h : c.StandsAt t) (fuel : Nat) (n : Nudge) (s : σ) :
    (g.step build w fuel n c s).engine =
        some (Engine.nudge (Engine.recording w) fuel t.progress n t.engine (t.world.1, s)).engine ∧
      (g.step build w fuel n c s).StandsAt
        (Engine.nudge (Engine.recording w) fuel t.progress n t.engine (t.world.1, s)) := by
  rw [← h.progress, ← h.transcript]
  simp only [step, hengine, Engine.belated, go]
  exact ⟨trivial, rfl, rfl, rfl, rfl⟩

theorem behaves_step (hg : g.isCoroutine) (h : Behaves g build w c) (fuel : Nat) (n : Nudge) (s : σ) :
    Behaves g build w (g.step build w fuel n c s) := by
  by_cases hpast : c.past = []
  · obtain ⟨s₀, hc⟩ := eq_promise h hpast
    rw [hc]
    cases n with
    | send => exact behaves_begin hg c.arguments s₀ s fuel
    | _ => exact .idle rfl rfl s₀ fun e => ⟨rfl, rfl, rfl, rfl⟩
  · have hfinished := fun hengine => progress_of_engine_none h hengine hpast
    have hidle : c.engine = none → (g.step build w fuel n c s).engine = none := fun hengine =>
      (step_idle g build w hengine (.inl (by rw [hfinished hengine]; simp)) fuel s).1
    cases h with
    | idle hbegun hengine s₀ hstands =>
      refine .idle ?_ (hidle hengine) s₀ fun e => ?_
      · rw [begun_step hpast, hbegun]
      · rw [past_step, Engine.urged_append]
        exact standsAt_step_finished hengine (hfinished hengine) (hstands e) fuel n s
    | failed hpast' hbuild hengine hstands =>
      refine .failed (by rw [past_step, hpast', List.cons_append]) hbuild (hidle hengine) fun e => ?_
      rw [Engine.urged_append]
      exact standsAt_step_finished hengine (hfinished hengine) (hstands e) fuel n s
    | driven hpast' hbuild hmade hengine hstands =>
      obtain ⟨hengine', hstands'⟩ := standsAt_step_driving g build hengine hstands fuel n s
      rw [← Engine.urged_append, List.cons_append] at hengine' hstands'
      exact .driven (by rw [past_step, hpast', List.cons_append]) hbuild hmade hengine' hstands'

/-- What a call has become that has begun just now. -/
theorem Behaves.of_begun (h : Behaves g build w c) {fuel : Nat} {s : σ} (hpast : c.past = [(fuel, .send, s)]) :
    (∃ x s', build s = (.error x, s') ∧ c.engine = none ∧ c.transcript = [] ∧ c.left = s') ∨
    ∃ cursor s', build s = (.ok cursor, s') ∧
      let t := Engine.nudge (Engine.recording w) fuel .unstarted .send
        (Engine.make g.mode (g.options.apply (g.setup c.arguments cursor))) ([], s')
      c.engine = some t.engine ∧ c.transcript = t.world.1 ∧ c.left = t.world.2 := by
  cases h with
  | idle hbegun =>
    simp [Call.begun, begins, Call.told, hpast] at hbegun
  | failed hpast' hbuild hengine hstands =>
    cases hpast.symm.trans hpast'
    have e : Engine ι κ := Engine.make g.mode (g.setup c.arguments c.arguments)
    exact .inl ⟨_, _, hbuild, hengine, (hstands e).transcript, (hstands e).left⟩
  | driven hpast' hbuild hmade hengine hstands =>
    cases hpast.symm.trans hpast'
    cases (hmade _ (.refl _)).symm.trans (g.options.changed_of_perm (.refl _) _ _)
    exact .inr ⟨_, _, hbuild, hengine, hstands.transcript, hstands.left⟩

/-! ## Whole runs -/

variable (g build w)

/-- A call is made, or the coroutine of one takes a step, or nothing happens. -/
theorem move_cases (z : Scene ι κ σ) (m : Move ι) :
    (∃ a fuel, m = .call a fuel ∧ g.isCoroutine ∧ g.move build w z m = ⟨z.world, z.calls ++ [promise a z.world]⟩) ∨
    (∃ a fuel, m = .call a fuel ∧ g.isCoroutine = false ∧ g.move build w z m =
      ⟨(g.call build w fuel a z.world).left, z.calls ++ [g.call build w fuel a z.world]⟩) ∨
    (∃ k fuel n c, m = .step k fuel n ∧ g.isCoroutine ∧ z.calls[k]? = some c ∧ g.move build w z m =
      ⟨(g.step build w fuel n c z.world).left, z.calls.set k (g.step build w fuel n c z.world)⟩) ∨
    (∃ k fuel n, m = .step k fuel n ∧ g.move build w z m = z) := by
  cases m with
  | call a fuel =>
    cases hg : g.isCoroutine with
    | true => exact .inl ⟨a, fuel, rfl, rfl, by simp only [move, hg]; rfl⟩
    | false => exact .inr (.inl ⟨a, fuel, rfl, rfl, by simp only [move, hg]; rfl⟩)
  | step k fuel n =>
    refine .inr (.inr ?_)
    cases hg : g.isCoroutine with
    | false => exact .inr ⟨k, fuel, n, rfl, by simp only [move, hg]⟩
    | true =>
      cases hc : z.calls[k]? with
      | none => exact .inr ⟨k, fuel, n, rfl, by simp only [move, hg, hc]⟩
      | some c => exact .inl ⟨k, fuel, n, c, rfl, rfl, hc, by simp only [move, hg, hc]⟩

theorem behaves_move {z : Scene ι κ σ} (h : ∀ c ∈ z.calls, Behaves g build w c) (m : Move ι) :
    ∀ c ∈ (g.move build w z m).calls, Behaves g build w c := by
  intro c hc
  rcases move_cases g build w z m with ⟨a, fuel, -, hg, hmove⟩ | ⟨a, fuel, -, hg, hmove⟩ |
    ⟨k, fuel, n, c', -, hg, hk, hmove⟩ | ⟨k, fuel, n, -, hmove⟩
  · rw [hmove] at hc
    rcases List.mem_append.mp hc with hc | hc
    · exact h c hc
    · obtain rfl := List.mem_singleton.mp hc
      exact behaves_promise a z.world
  · rw [hmove] at hc
    rcases List.mem_append.mp hc with hc | hc
    · exact h c hc
    · obtain rfl := List.mem_singleton.mp hc
      exact behaves_call hg fuel a z.world
  · rw [hmove] at hc
    rcases List.mem_or_eq_of_mem_set hc with hc | rfl
    · exact h c hc
    · exact behaves_step hg (h c' (List.mem_of_getElem? hk)) fuel n z.world
  · rw [hmove] at hc
    exact h c hc

theorem behaves_play (s : σ) (ms : List (Move ι)) : ∀ c ∈ (g.play build w s ms).calls, Behaves g build w c :=
  ms.foldlRecOn (g.move build w) (motive := fun z => ∀ c ∈ z.calls, Behaves g build w c)
    (fun _ h => absurd h List.not_mem_nil) fun _ h m _ => behaves_move g build w h m

theorem told_move (z : Scene ι κ σ) (m : Move ι) :
    (g.move build w z m).calls.map Call.told = g.tell (z.calls.map Call.told) m := by
  cases hg : g.isCoroutine with
  | true =>
    cases m with
    | call a fuel => simp [move, tell, hg, promise, Call.told]
    | step k fuel n =>
      cases hk : z.calls[k]? with
      | none =>
        have hlength : (z.calls.map Call.told).length ≤ k := by
          rw [List.length_map]
          exact List.getElem?_eq_none_iff.mp hk
        simp only [move, tell, hg, hk, if_true]
        exact (List.modify_eq_self hlength).symm
      | some c =>
        obtain ⟨hlt, rfl⟩ := List.getElem?_eq_some_iff.mp hk
        simp only [move, tell, hg, hk, if_true]
        refine List.ext_getElem? fun j => ?_
        by_cases hj : k = j
        · subst hj
          simp [hlt, Call.told]
        · simp [hj]
  | false =>
    cases m with
    | call a fuel =>
      have htold : (g.call build w fuel a z.world).told = (a, [(fuel, .send)]) := by
        unfold call
        split <;> rfl
      simp [move, tell, hg, htold]
    | step k fuel n => simp [move, tell, hg]

/-- The calls are those that the moves make, in their order, and are told what the moves tell them. -/
theorem told_play (s : σ) (ms : List (Move ι)) :
    (g.play build w s ms).calls.map Call.told = ms.foldl g.tell [] := by
  have hrun : ∀ z : Scene ι κ σ, (ms.foldl (g.move build w) z).calls.map Call.told =
      ms.foldl g.tell (z.calls.map Call.told) := by
    induction ms with
    | nil => exact fun z => rfl
    | cons m ms ih => exact fun z => by rw [List.foldl_cons, List.foldl_cons, ih, told_move]
  exact hrun ⟨s, []⟩

/-- The call of a plain function begins at once. -/
theorem begun_play (hg : g.isCoroutine = false) (s : σ) (ms : List (Move ι)) :
    ∀ c ∈ (g.play build w s ms).calls, c.begun := by
  refine ms.foldlRecOn (g.move build w) (b := ⟨s, []⟩) (motive := fun z => ∀ c ∈ z.calls, c.begun)
    (fun _ h => absurd h List.not_mem_nil) fun z h m _ => ?_
  rcases move_cases g build w z m with ⟨a, fuel, -, hg', -⟩ | ⟨a, fuel, -, -, hmove⟩ |
    ⟨k, fuel, n, c', -, hg', -, -⟩ | ⟨k, fuel, n, -, hmove⟩
  · simp [hg] at hg'
  · have hbegun : (g.call build w fuel a z.world).begun := by
      unfold call
      split <;> rfl
    rw [hmove]
    intro c hc
    rcases List.mem_append.mp hc with hc | hc
    · exact h c hc
    · obtain rfl := List.mem_singleton.mp hc
      exact hbegun
  · simp [hg] at hg'
  · rw [hmove]
    exact h

/-! ## What a move does -/

/-- What a move makes of a scene: a call is promised, begins, goes on or changes nothing. -/
inductive Leads (z : Scene ι κ σ) : Scene ι κ σ → Prop where
  | promised (a : ι) : Leads z ⟨z.world, z.calls ++ [promise a z.world]⟩
  | called (fuel : Nat) {c : Call ι κ σ} (hpast : c.past = [(fuel, .send, z.world)]) (h : Behaves g build w c) :
      Leads z ⟨c.left, z.calls ++ [c]⟩
  | begun {k : Nat} (fuel : Nat) {c c' : Call ι κ σ} (hk : z.calls[k]? = some c) (hbegun : c.begun = false)
      (hengine : c.engine = none) (hpast : c'.past = [(fuel, .send, z.world)]) (h : Behaves g build w c') :
      Leads z ⟨c'.left, z.calls.set k c'⟩
  | driven {k : Nat} (fuel : Nat) (n : Nudge) {c c' : Call ι κ σ} {e : Engine ι κ} (hk : z.calls[k]? = some c)
      (hbegun : c'.begun = c.begun) (hengine : c.engine = some e)
      (hstep : let t := Engine.nudge (Engine.recording w) fuel c.progress n e (c.transcript, z.world)
        c'.engine = some t.engine ∧ c'.transcript = t.world.1 ∧ c'.left = t.world.2) :
      Leads z ⟨c'.left, z.calls.set k c'⟩
  | idle {k : Nat} {c c' : Call ι κ σ} (hk : z.calls[k]? = some c) (hbegun : c'.begun = c.begun)
      (hengine : c.engine = none) (hengine' : c'.engine = none) : Leads z ⟨z.world, z.calls.set k c'⟩
  | nothing : Leads z z

theorem leads_step (hg : g.isCoroutine) {z : Scene ι κ σ} {k : Nat} (hk : z.calls[k]? = some c)
    (h : Behaves g build w c) (fuel : Nat) (n : Nudge) :
    Leads g build w z
      ⟨(g.step build w fuel n c z.world).left, z.calls.set k (g.step build w fuel n c z.world)⟩ := by
  cases hengine : c.engine with
  | some e =>
    have hpast : c.past ≠ [] := by
      intro hpast
      obtain ⟨s₀, hc⟩ := eq_promise h hpast
      rw [hc] at hengine
      cases hengine
    refine .driven fuel n hk (begun_step hpast fuel n z.world) hengine ?_
    simp only [step, hengine, Engine.belated, go]
    exact ⟨trivial, trivial, trivial⟩
  | none =>
    have hidle : (g.step build w fuel n c z.world).begun = c.begun →
        (c.progress ≠ .unstarted ∨ n ≠ .send) → Leads g build w z
          ⟨(g.step build w fuel n c z.world).left, z.calls.set k (g.step build w fuel n c z.world)⟩ := by
      intro hbegun hn
      obtain ⟨hengine', hleft⟩ := step_idle g build w hengine hn fuel z.world
      rw [hleft]
      exact .idle hk hbegun hengine hengine'
    by_cases hpast : c.past = []
    · have hbegun : c.begun = false := by simp [Call.begun, begins, Call.told, hpast]
      cases n with
      | send =>
        refine .begun fuel hk hbegun hengine ?_ (behaves_step hg h fuel .send z.world)
        rw [past_step, hpast, List.nil_append]
      | _ =>
        refine hidle ?_ (.inr (by simp))
        rw [hbegun]
        simp [Call.begun, begins, Call.told, hpast]
    · refine hidle (begun_step hpast fuel n z.world) (.inl ?_)
      rw [progress_of_engine_none h hengine hpast]
      simp

theorem leads_move {z : Scene ι κ σ} (h : ∀ c ∈ z.calls, Behaves g build w c) (m : Move ι) :
    Leads g build w z (g.move build w z m) := by
  rcases move_cases g build w z m with ⟨a, fuel, -, hg, hmove⟩ | ⟨a, fuel, -, hg, hmove⟩ |
    ⟨k, fuel, n, c, -, hg, hk, hmove⟩ | ⟨k, fuel, n, -, hmove⟩
  · rw [hmove]
    exact .promised a
  · rw [hmove]
    refine .called fuel ?_ (behaves_call hg fuel a z.world)
    unfold call
    split <;> rfl
  · rw [hmove]
    exact leads_step g build w hg hk (h c (List.mem_of_getElem? hk)) fuel n
  · rw [hmove]
    exact .nothing

end Retryable

end Reattempt
