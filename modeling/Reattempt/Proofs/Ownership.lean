import Reattempt.Proofs.Moves
import Reattempt.Proofs.Pace

/-!
# One engine owns the cursor

Of a family, every engine but the one created last has moved, and only the last one has ever asked
anything. The invariant is said by the life of the last engine: while it is fresh nothing has been
asked, while it runs there is at most one drive and at most one coroutine that drives it, and as many
calls of the operation have been made as it counts attempts. Each move keeps the invariant, whoever
makes it and while whatever is asked.
-/
namespace Reattempt.Family

open Engine

variable {ι κ : Type}

/-! ## The invariant -/

/-- Only the coroutine `h`, if any, is driving, and what it drives is the `i`-th engine. -/
def Led (cs : List Coroutine) (i : Nat) (h : Option Nat) : Prop :=
  ∀ (k : Nat) (c : Coroutine), cs[k]? = some c → c.progress = .driving → h = some k ∧ c.engine = i

/-- A reply is waited for in a single drive, of the `i`-th engine. -/
def Executing (f : Family ι κ) (i : Nat) : Prop :=
  ∃ v, f.drives = [v] ∧ v.engine = i ∧ Led f.coroutines i v.coroutine ∧
    ∀ k, v.coroutine = some k → ∃ c, f.coroutines[k]? = some c ∧ c.progress = .driving

/-- Where a family stands, by the life of the engine that was created last, the `i`-th. -/
def Stands (f : Family ι κ) (i : Nat) : Life κ → Prop
  | .fresh => f.asked = [] ∧ f.drives = [] ∧ Led f.coroutines i none
  | .moved => False
  | .running n stage =>
    (f.drives = [] ∧ stage.ask? n = none ∧ ∃ h, Led f.coroutines i h) ∨ f.Executing i
  | .done _ _ => f.drives = [] ∧ Led f.coroutines i none

/-- All that has been asked was asked by the `i`-th engine, which has called the operation `n` times. -/
def Credited (f : Family ι κ) (i n : Nat) : Prop := (∀ q ∈ f.asked, q.1 = i) ∧ f.invocations = n

structure Sound (b : ι) (f : Family ι κ) : Prop where
  shared : ∀ e ∈ f.engines, e.setup.backoff = b
  owned : ∃ old last, f.engines = old ++ [last] ∧ (∀ e ∈ old, e.life = .moved) ∧
    f.Credited old.length last.attempts ∧ f.Stands old.length last.life

/-! ### Coroutines that drive -/

theorem Led.weaken {cs : List Coroutine} {i j : Nat} (hl : Led cs i none) (h : Option Nat) :
    Led cs j h := by
  intro k c hc hp
  cases (hl k c hc hp).1

theorem Led.mono {cs cs' : List Coroutine} {i : Nat} {h : Option Nat} (hl : Led cs i h)
    (hd : ∀ (k : Nat) c, cs'[k]? = some c → c.progress = .driving → cs[k]? = some c) : Led cs' i h :=
  fun k c hc hp => hl k c (hd k c hc hp) hp

/-- What is driving after another coroutine has come to something was driving before. -/
theorem driving_of_noted {cs : List Coroutine} {p : Progress} (hp : p ≠ .driving) {x : Option Nat} {k : Nat}
    {c : Coroutine} (hc : (noted p x cs)[k]? = some c) (hd : c.progress = .driving) :
    cs[k]? = some c ∧ x ≠ some k := by
  rw [getElem?_noted] at hc
  obtain ⟨c', hc', rfl⟩ := Option.map_eq_some_iff.mp hc
  by_cases hx : x = some k
  · rw [if_pos hx] at hd
    exact absurd hd hp
  · rw [if_neg hx]
    exact ⟨hc', hx⟩

/-- Nothing is driven when the one who leads ends. -/
theorem Led.ended {cs : List Coroutine} {i : Nat} {h : Option Nat} (hl : Led cs i h) {p : Progress}
    (hp : p ≠ .driving) : Led (noted p h cs) i none := by
  intro k c hc hd
  obtain ⟨hc', hne⟩ := driving_of_noted hp hc hd
  exact absurd (hl k c hc' hd).1 hne

/-- The one who leads goes on. -/
theorem Led.led {cs : List Coroutine} {i : Nat} {h : Option Nat} (hl : Led cs i h) (p : Progress)
    (hh : ∀ k c, h = some k → cs[k]? = some c → c.engine = i) : Led (Family.noted p h cs) i h := by
  intro k c hc hd
  rw [getElem?_noted] at hc
  obtain ⟨c', hc', rfl⟩ := Option.map_eq_some_iff.mp hc
  by_cases hk : h = some k
  · rw [if_pos hk]
    exact ⟨hk, hh k c' hk hc'⟩
  · rw [if_neg hk] at hd ⊢
    exact hl k c' hc' hd

/-! ### Engines of a family -/

/-- An engine of a family has moved, or it is the last. -/
theorem moved_or_last {old : List (Engine ι κ)} {last e : Engine ι κ} {i : Nat}
    (hold : ∀ e ∈ old, e.life = .moved) (h : (old ++ [last])[i]? = some e) :
    e.life = .moved ∨ i = old.length ∧ e = last := by
  by_cases hi : i < old.length
  · rw [List.getElem?_append_left hi] at h
    exact .inl (hold e (List.mem_of_getElem? h))
  · rw [List.getElem?_append_right (by omega)] at h
    obtain ⟨hlt, hget⟩ := List.getElem?_eq_some_iff.mp h
    have hi : i - old.length = 0 := by simpa using hlt
    refine .inr ⟨by omega, ?_⟩
    simp only [hi] at hget
    exact hget.symm

theorem invocations_append (f : Family ι κ) (q : Nat × Ask κ) (es : List (Engine ι κ))
    (cs : List Coroutine) (vs : List Drive) :
    (⟨es, cs, vs, f.asked ++ [q]⟩ : Family ι κ).invocations =
      f.invocations + (if q.2.isInvoke then 1 else 0) := by
  simp [invocations, List.countP_append, List.countP_cons]

/-! ## A drive goes on -/

theorem isInvoke_iff {n : Nat} {stage : Stage κ} {a : Ask κ} (h : stage.ask? n = some a) :
    a.isInvoke = true ↔ stage = .calling := by
  cases stage with
  | calling =>
    cases h
    exact ⟨fun _ => rfl, fun _ => rfl⟩
  | attempting k hold =>
    cases hold with
    | parked => cases h
    | waking signal =>
      cases h
      exact ⟨nofun, nofun⟩
  | dozing d k hold =>
    cases hold with
    | parked => cases h
    | waking signal =>
      cases h
      exact ⟨nofun, nofun⟩
  | _ =>
    cases h
    exact ⟨nofun, nofun⟩

/-- The last engine goes on with nobody else under way, and calls the operation only as often as it
counts an attempt. -/
theorem sound_proceed {b : ι} {f : Family ι κ} {old : List (Engine ι κ)} {last e : Engine ι κ} {v : Drive}
    (hs : ∀ e ∈ f.engines, e.setup.backoff = b) (hf : f.engines = old ++ [last])
    (hold : ∀ e ∈ old, e.life = .moved) (hsetup : e.setup = last.setup) (hv : v.engine = old.length)
    (hd : f.drives = []) (hq : ∀ q ∈ f.asked, q.1 = old.length)
    (hled : Led f.coroutines old.length v.coroutine)
    (hk : ∀ k, v.coroutine = some k → ∃ c, f.coroutines[k]? = some c ∧ c.engine = old.length)
    (hlife : (∃ o, e.life = .done f.invocations o) ∨ ∃ n stage, e.life = .running n stage ∧
      (stage = .calling ∧ n = f.invocations + 1 ∨ stage ≠ .calling ∧ n = f.invocations)) :
    Sound b (f.proceed v e).2 := by
  have hset : f.engines.set v.engine e = old ++ [e] := by simp [hf, hv]
  have hshared : ∀ x ∈ old ++ [e], x.setup.backoff = b := by
    intro x hx
    rcases List.mem_append.mp hx with hx | hx
    · exact hs x (by rw [hf]; exact List.mem_append_left _ hx)
    · obtain rfl := List.mem_singleton.mp hx
      rw [hsetup]
      exact hs last (by simp [hf])
  have hown : ∀ k c, v.coroutine = some k → f.coroutines[k]? = some c → c.engine = old.length := by
    intro k c hvk hc
    obtain ⟨c', hc', he⟩ := hk k hvk
    rw [hc] at hc'
    cases hc'
    exact he
  rcases hlife with ⟨o, hl⟩ | ⟨n, stage, hl, hn⟩
  · have hask : e.ask? = none := by simp [ask?, hl]
    rw [proceed_of_ask_none v f hask, hset, yielded_of_over hl]
    refine ⟨hshared, old, e, rfl, hold, ⟨hq, by simp [attempts, Life.attempts, hl, invocations]⟩, ?_⟩
    rw [hl]
    refine ⟨hd, hled.ended ?_⟩
    intro hp
    cases hp
  · have hask : e.ask? = stage.ask? n := by simp [ask?, hl]
    have hcount : e.attempts = n := by simp [attempts, Life.attempts, hl]
    cases ha : stage.ask? n with
    | none =>
      have hne : stage ≠ .calling := by
        rintro rfl
        cases ha
      have hn : n = f.invocations := by
        rcases hn with ⟨hc, -⟩ | ⟨-, hn⟩
        · exact absurd hc hne
        · exact hn
      rw [proceed_of_ask_none v f (hask.trans ha), hset]
      refine ⟨hshared, old, e, rfl, hold, ⟨hq, by rw [hcount, hn]; rfl⟩, ?_⟩
      rw [hl]
      exact .inl ⟨hd, ha, v.coroutine, hled.led _ hown⟩
    | some a =>
      rw [proceed_of_ask v f (hask.trans ha), hset]
      refine ⟨hshared, old, e, rfl, hold, ⟨?_, ?_⟩, ?_⟩
      · intro q hmem
        rcases List.mem_append.mp hmem with hmem | hmem
        · exact hq q hmem
        · obtain rfl := List.mem_singleton.mp hmem
          exact hv
      · rw [invocations_append, hcount]
        rcases hn with ⟨hc, hn⟩ | ⟨hc, hn⟩
        · rw [if_pos ((isInvoke_iff ha).2 hc), hn]
        · rw [if_neg fun h => hc ((isInvoke_iff ha).1 h), hn, Nat.add_zero]
      · rw [hl]
        refine .inr ⟨v, by rw [hd], hv, hled.led _ hown, fun k hvk => ?_⟩
        obtain ⟨c, hc, -⟩ := hk k hvk
        exact ⟨{ c with progress := .driving }, by simp [getElem?_noted, hc, hvk], rfl⟩

/-! ## Each move keeps the invariant -/

section Moves

variable {b : ι} {f : Family ι κ}

/-- An engine that is not fresh any more is not the last one, or the family does not stand there. -/
theorem Sound.last_of_fresh (h : Sound b f) {i : Nat} {e : Engine ι κ} (he : f.engines[i]? = some e)
    (hl : e.life = .fresh) : ∃ old, f.engines = old ++ [e] ∧ (∀ x ∈ old, x.life = .moved) ∧
      i = old.length ∧ f.asked = [] ∧ f.drives = [] ∧ Led f.coroutines i none := by
  obtain ⟨old, last, hf, hold, -, hstands⟩ := h.owned
  rw [hf] at he
  rcases moved_or_last hold he with hm | ⟨rfl, rfl⟩
  · rw [hl] at hm
    cases hm
  · rw [hl] at hstands
    exact ⟨old, hf, hold, rfl, hstands⟩

/-- A coroutine that is driving and not executing has the last engine parked. -/
theorem Sound.parked (h : Sound b f) {k : Nat} {c : Coroutine} (hc : f.coroutines[k]? = some c)
    (hp : c.progress = .driving) (hfree : ∀ v ∈ f.drives, v.coroutine ≠ some k) : ∃ old last m stage,
      f.engines = old ++ [last] ∧ (∀ e ∈ old, e.life = .moved) ∧ f.Credited old.length m ∧
        c.engine = old.length ∧ last.life = .running m stage ∧ f.drives = [] ∧ stage.ask? m = none ∧
        Led f.coroutines old.length (some k) := by
  obtain ⟨old, last, hf, hold, hcredit, hstands⟩ := h.owned
  cases hl : last.life with
  | moved => rw [hl] at hstands; cases hstands
  | fresh =>
    rw [hl] at hstands
    cases (hstands.2.2 k c hc hp).1
  | done m o =>
    rw [hl] at hstands
    cases (hstands.2 k c hc hp).1
  | running m stage =>
    have hm : last.attempts = m := by simp [attempts, Life.attempts, hl]
    rw [hm] at hcredit
    rw [hl] at hstands
    rcases hstands with ⟨hd, ha, x, hled⟩ | ⟨v, hd, -, hled, -⟩
    · obtain ⟨rfl, hce⟩ := hled k c hc hp
      exact ⟨old, last, m, stage, hf, hold, hcredit, hce, hl, hd, ha, hled⟩
    · exact absurd (hled k c hc hp).1 (hfree v (by simp [hd]))

/-- While a reply is waited for, the last engine is running, and no other drive is under way. -/
theorem Sound.executing (h : Sound b f) (hd : f.drives ≠ []) : ∃ old last m stage,
    f.engines = old ++ [last] ∧ (∀ e ∈ old, e.life = .moved) ∧ f.Credited old.length m ∧
      last.life = .running m stage ∧ f.Executing old.length := by
  obtain ⟨old, last, hf, hold, hcredit, hstands⟩ := h.owned
  cases hl : last.life with
  | moved => rw [hl] at hstands; cases hstands
  | fresh => rw [hl] at hstands; exact absurd hstands.2.1 hd
  | done m o => rw [hl] at hstands; exact absurd hstands.1 hd
  | running m stage =>
    have hm : last.attempts = m := by simp [attempts, Life.attempts, hl]
    rw [hl] at hstands
    rw [hm] at hcredit
    rcases hstands with ⟨hnil, -⟩ | hx
    · exact absurd hnil hd
    · exact ⟨old, last, m, stage, hf, hold, hcredit, hl, hx⟩

/-- Only one engine has not moved. -/
theorem Sound.unique (h : Sound b f) {i j : Nat} {e e' : Engine ι κ} (he : f.engines[i]? = some e)
    (he' : f.engines[j]? = some e') (hl : e.life ≠ .moved) (hl' : e'.life ≠ .moved) : i = j ∧ e = e' := by
  obtain ⟨old, last, hf, hold, -⟩ := h.owned
  rw [hf] at he he'
  rcases moved_or_last hold he with hm | ⟨rfl, rfl⟩
  · exact absurd hm hl
  · rcases moved_or_last hold he' with hm | ⟨rfl, rfl⟩
    · exact absurd hm hl'
    · exact ⟨rfl, rfl⟩

theorem Sound.drives_eq (h : Sound b f) {v : Drive} (hv : v ∈ f.drives) : f.drives = [v] := by
  obtain ⟨-, -, -, -, -, -, -, -, v', hd, -⟩ := h.executing (List.ne_nil_of_mem hv)
  rw [hd] at hv
  rw [hd, List.mem_singleton.mp hv]

/-- The coroutine of a drive drives its engine. -/
theorem Sound.driving_of_drive (h : Sound b f) {v : Drive} (hv : v ∈ f.drives) {k : Nat}
    (hk : v.coroutine = some k) : f.coroutines[k]? = some ⟨v.engine, .driving⟩ := by
  obtain ⟨old, -, -, -, -, -, -, -, v', hd, hv', hled, hdrive⟩ := h.executing (List.ne_nil_of_mem hv)
  rw [hd] at hv
  obtain rfl := List.mem_singleton.mp hv
  obtain ⟨⟨i, p⟩, hc, rfl⟩ := hdrive k hk
  obtain ⟨-, hi⟩ := hled k _ hc rfl
  rw [hc, hv', ← hi]

/-- No drive is a step of a coroutine that is not driving. -/
theorem Sound.free (h : Sound b f) {k : Nat} {c : Coroutine} (hc : f.coroutines[k]? = some c)
    (hp : c.progress ≠ .driving) : ∀ v ∈ f.drives, v.coroutine ≠ some k := by
  intro v hv hvk
  rw [h.driving_of_drive hv hvk] at hc
  cases hc
  exact hp rfl

/-- The engine of a drive is running. -/
theorem Sound.running_of_drive (h : Sound b f) {v : Drive} (hv : v ∈ f.drives) :
    ∃ e n stage, f.engines[v.engine]? = some e ∧ e.life = .running n stage := by
  obtain ⟨old, last, n, stage, hf, -, -, hl, v', hd, hv', -⟩ := h.executing (List.ne_nil_of_mem hv)
  rw [hd] at hv
  obtain rfl := List.mem_singleton.mp hv
  exact ⟨last, n, stage, by simp [hf, hv'], hl⟩

/-- The engine of a coroutine that is driving is running. -/
theorem Sound.running_of_driving (h : Sound b f) {k : Nat} {c : Coroutine} (hc : f.coroutines[k]? = some c)
    (hp : c.progress = .driving) : ∃ e n stage, f.engines[c.engine]? = some e ∧ e.life = .running n stage := by
  by_cases hfree : ∀ v ∈ f.drives, v.coroutine ≠ some k
  · obtain ⟨old, last, n, stage, hf, -, -, hce, hl, -⟩ := h.parked hc hp hfree
    exact ⟨last, n, stage, by simp [hf, hce], hl⟩
  · obtain ⟨v, hv, -⟩ : ∃ v ∈ f.drives, v.coroutine = some k := by simpa using hfree
    obtain ⟨old, last, n, stage, hf, -, -, hl, v', -, -, hled, -⟩ := h.executing (List.ne_nil_of_mem hv)
    exact ⟨last, n, stage, by simp [hf, (hled k c hc hp).2], hl⟩

/-- Coroutines may come and end as long as those that are driving stay. -/
theorem sound_coroutines (h : Sound b f) {cs : List Coroutine}
    (hcs : ∀ (k : Nat) c, c.progress = .driving → (cs[k]? = some c ↔ f.coroutines[k]? = some c)) :
    Sound b { f with coroutines := cs } := by
  obtain ⟨old, last, hf, hold, hcredit, hstands⟩ := h.owned
  have hled : ∀ {i : Nat} {x : Option Nat}, Led f.coroutines i x → Led cs i x :=
    fun hl => hl.mono fun k c hc hp => (hcs k c hp).1 hc
  refine ⟨h.shared, old, last, hf, hold, hcredit, ?_⟩
  cases hl : last.life with
  | moved => rw [hl] at hstands; cases hstands
  | fresh =>
    rw [hl] at hstands
    exact ⟨hstands.1, hstands.2.1, hled hstands.2.2⟩
  | done m o =>
    rw [hl] at hstands
    exact ⟨hstands.1, hled hstands.2⟩
  | running m stage =>
    rw [hl] at hstands
    rcases hstands with ⟨hnil, ha, y, hy⟩ | ⟨v, hdrives, hv, hv', hdrive⟩
    · exact .inl ⟨hnil, ha, y, hled hy⟩
    · refine .inr ⟨v, hdrives, hv, hled hv', fun k hvk => ?_⟩
      obtain ⟨c, hc, hp⟩ := hdrive k hvk
      exact ⟨c, (hcs k c hp).2 hc, hp⟩

theorem sound_handover (h : Sound b f) {i : Nat} {e : Engine ι κ} (he : f.engines[i]? = some e)
    (hl : e.life = .fresh) (change : Setup.Change ι) :
    Sound b { f with engines := f.engines.set i { e with life := .moved } ++
      [{ e with setup := change.apply e.setup }] } := by
  obtain ⟨old, hf, hold, rfl, hasked, hd, hled⟩ := h.last_of_fresh he hl
  have hset : f.engines.set old.length { e with life := .moved } = old ++ [{ e with life := .moved }] := by
    simp [hf]
  have hb : e.setup.backoff = b := h.shared e (by simp [hf])
  have hchange : (change.apply e.setup).backoff = b := by cases change <;> exact hb
  refine ⟨?_, old ++ [{ e with life := .moved }], { e with setup := change.apply e.setup },
    by rw [hset], ?_, ⟨by simp [hasked], by simp [invocations, hasked, attempts, Life.attempts, hl]⟩, ?_⟩
  · intro x hx
    rw [hset] at hx
    simp only [List.mem_append, List.mem_singleton] at hx
    rcases hx with (hx | rfl) | rfl
    · exact h.shared x (by rw [hf]; exact List.mem_append_left _ hx)
    · exact hb
    · exact hchange
  · intro x hx
    rcases List.mem_append.mp hx with hx | hx
    · exact hold x hx
    · obtain rfl := List.mem_singleton.mp hx
      rfl
  · simp only [hl]
    exact ⟨hasked, hd, hled.weaken none⟩

/-- A fresh engine begins with its first attempt. -/
theorem sound_begun (h : Sound b f) {e : Engine ι κ} {v : Drive} (he : f.engines[v.engine]? = some e)
    (hl : e.life = .fresh)
    (hk : ∀ k, v.coroutine = some k → ∃ c, f.coroutines[k]? = some c ∧ c.engine = v.engine) :
    Sound b (f.proceed v { e with life := .running 1 .calling }).2 := by
  obtain ⟨old, hf, hold, hv, hasked, hd, hled⟩ := h.last_of_fresh he hl
  have hcount : f.invocations = 0 := by simp [invocations, hasked]
  refine sound_proceed h.shared hf hold rfl hv hd (by simp [hasked]) (hled.weaken _) ?_ ?_
  · intro k hvk
    obtain ⟨c, hc, hce⟩ := hk k hvk
    exact ⟨c, hc, hce.trans hv⟩
  · exact .inr ⟨1, .calling, rfl, .inl ⟨rfl, by rw [hcount]⟩⟩

/-- A coroutine that drives and is not executing wakes its engine. -/
theorem sound_woken (h : Sound b f) {v : Drive} {k : Nat} {e : Engine ι κ}
    (he : f.engines[v.engine]? = some e) (hv : v.coroutine = some k)
    (hc : f.coroutines[k]? = some ⟨v.engine, .driving⟩) (hfree : ∀ x ∈ f.drives, x.coroutine ≠ some k) :
    Sound b (f.proceed v (e.wake v.nudge.signal)).2 := by
  obtain ⟨old, last, m, stage, hf, hold, ⟨hasked, hcount⟩, hce, hl, hd, ha, hled⟩ := h.parked hc rfl hfree
  have hce : v.engine = old.length := hce
  obtain rfl : e = last := by
    rw [hf, hce] at he
    simpa using he.symm
  refine sound_proceed h.shared hf hold (by simp) hce hd hasked (by rwa [hv]) ?_ ?_
  · intro j hj
    rw [hv] at hj
    cases hj
    exact ⟨_, hc, hce⟩
  · refine .inr ⟨m, stage.wake v.nudge.signal, by simp [wake, hl], .inr ⟨?_, hcount.symm⟩⟩
    cases stage with
    | attempting p hold => simp [Stage.wake]
    | dozing d p hold => simp [Stage.wake]
    | _ => cases ha

theorem sound_replied (h : Sound b f) {r : Reply κ} {v : Drive} {vs : List Drive} {e : Engine ι κ}
    (hd : f.drives = v :: vs) (he : f.engines[v.engine]? = some e) :
    Sound b (({ f with drives := vs } : Family ι κ).proceed v (e.reply r)).2 := by
  obtain ⟨old, last, m, stage, hf, hold, ⟨hasked, hm⟩, hl, x, hx, hxv, hled, hdrive⟩ :=
    h.executing (by simp [hd])
  rw [hd] at hx
  cases hx
  obtain rfl : e = last := by
    rw [hf, hxv] at he
    simpa using he.symm
  refine sound_proceed (f := { f with drives := [] }) h.shared hf hold (by simp) hxv rfl hasked hled ?_ ?_
  · intro k hvk
    obtain ⟨c, hc, hp⟩ := hdrive k hvk
    exact ⟨c, hc, (hled k c hc hp).2⟩
  · have hfollows := follows_replyAt e m stage r
    rw [reply_running hl]
    change (∃ o, _ = Life.done f.invocations o) ∨ ∃ n st, _ = Life.running n st ∧
      (st = .calling ∧ n = f.invocations + 1 ∨ st ≠ .calling ∧ n = f.invocations)
    rw [hm]
    cases hl' : (e.replyAt m stage r).life with
    | running n st =>
      rw [hl'] at hfollows
      exact .inr ⟨n, st, rfl, hfollows.2.2⟩
    | done n o =>
      rw [hl'] at hfollows
      obtain rfl : n = m := hfollows
      exact .inl ⟨o, rfl⟩
    | fresh => rw [hl'] at hfollows; cases hfollows
    | moved => rw [hl'] at hfollows; cases hfollows

/-- Whatever move is made, by whomever. -/
theorem sound_step (h : Sound b f) (m : Move ι κ) : Sound b (f.step m).2 := by
  cases f.effect m with
  | quiet cs hcs hkeep hm => rw [hm]; exact sound_coroutines h hcs
  | handover i e change he hl hm => rw [hm]; exact sound_handover h he hl change
  | begun v e he hl hv hm =>
    rw [hm]
    refine sound_begun h he hl fun k hvk => ?_
    rcases hv with ⟨hnone, -⟩ | ⟨j, hj, hc⟩
    · rw [hnone] at hvk
      cases hvk
    · rw [hj] at hvk
      cases hvk
      exact ⟨_, hc, rfl⟩
  | woken v e k he hv hc hfree hm => rw [hm]; exact sound_woken h he hv hc hfree
  | replied r v vs e _ hd he hm => rw [hm]; exact sound_replied h hd he

theorem sound_run (h : Sound b f) (ms : List (Move ι κ)) : Sound b (f.run ms) := by
  induction ms generalizing f with
  | nil => exact h
  | cons m ms ih => exact ih (sound_step h m)

/-- Once the last engine is done, nobody is asked any more. -/
theorem asked_step_of_done (h : Sound b f) {i n : Nat} {e : Engine ι κ} {o : Outcome}
    (he : f.engines[i]? = some e) (hl : e.life = .done n o) (m : Move ι κ) : (f.step m).2.asked = f.asked := by
  have hnever : ∀ {j : Nat} {e' : Engine ι κ}, f.engines[j]? = some e' → e'.life ≠ .moved →
      e'.life = .done n o := by
    intro j e' he' hl'
    rw [← (h.unique he he' (by rw [hl]; nofun) hl').2, hl]
  cases f.effect m with
  | quiet cs hcs hkeep hm => rw [hm]
  | handover j e' change he' hl' hm => rw [hm]
  | begun v e' he' hl' hv hm => cases hl'.symm.trans (hnever he' (by rw [hl']; nofun))
  | woken v e' k he' hv hc hfree hm =>
    obtain ⟨e₁, m₁, stage, he₁, hl₁⟩ := h.running_of_driving hc rfl
    cases hl₁.symm.trans (hnever he₁ (by rw [hl₁]; nofun))
  | replied r v vs e' _ hd he' hm =>
    obtain ⟨e₁, m₁, stage, he₁, hl₁⟩ := h.running_of_drive (v := v) (by simp [hd])
    cases hl₁.symm.trans (hnever he₁ (by rw [hl₁]; nofun))

theorem asked_run_of_done (h : Sound b f) {i n : Nat} {e : Engine ι κ} {o : Outcome}
    (he : f.engines[i]? = some e) (hl : e.life = .done n o) (ms : List (Move ι κ)) :
    (f.run ms).asked = f.asked := by
  induction ms generalizing f with
  | nil => rfl
  | cons m ms ih =>
    have hstep := getElem?_step_of_settled he (by rw [hl]; exact fun _ hl' => hl') m
    rw [run_cons, ih (sound_step h m) hstep, asked_step_of_done h he hl m]

end Moves

theorem sound_found (mode : Mode) (setup : Setup ι) :
    Sound setup.backoff (found mode setup : Family ι κ) where
  shared e he := by
    obtain rfl := List.mem_singleton.mp he
    rfl
  owned := ⟨[], Engine.make mode setup, rfl, nofun, ⟨nofun, rfl⟩, rfl, rfl, nofun⟩

/-! ## An engine that has moved -/

section Moved

variable {f : Family ι κ} {i : Nat} {e : Engine ι κ}

/-- It stays as it is, whatever moves are made. -/
theorem getElem?_run (he : f.engines[i]? = some e) (hl : e.life = .moved) (ms : List (Move ι κ)) :
    (f.run ms).engines[i]? = some e :=
  getElem?_run_of_settled he (by rw [hl]; exact fun _ h => h) ms

/-- A coroutine that was obtained before comes to its end with its first step, and nobody is asked. -/
theorem step_nudge_moved {b : ι} (h : Sound b f) (he : f.engines[i]? = some e) (hl : e.life = .moved)
    {k : Nat} (hc : f.coroutines[k]? = some ⟨i, .unstarted⟩) (n : Nudge) :
    ∃ o, f.step (.nudge k n) =
        (.came (.ended o), { f with coroutines := noted .finished (some k) f.coroutines }) ∧
      e.stir .unstarted n = .error o := by
  have hs : ∃ o, e.stir .unstarted n = .error o := by
    cases hs : e.stir .unstarted n with
    | error o => exact ⟨o, rfl⟩
    | ok e' =>
      rcases stir_eq_ok hs with ⟨-, hf, -⟩ | ⟨hp, -⟩
      · rw [hl] at hf
        cases hf
      · cases hp
  obtain ⟨o, ho⟩ := hs
  exact ⟨o, by rw [step_nudge hc (h.free hc nofun) he n]; simp only [Family.stir, ho], ho⟩

end Moved

/-- Whatever moves are made with a family, by whomever: the engine created last is the only one that has
not moved, and whatever has been asked was asked by that engine, the calls of the operation once for
each of its attempts. An engine that has moved stays as it is, and a coroutine that was obtained from
it before ends with its first step, by a complaint if it is to go on. -/
theorem last_owns_cursor (mode : Mode) (setup : Setup ι) (ms : List (Move ι κ)) :
    let f := (found mode setup).run ms
    (∃ old last, f.engines = old ++ [last] ∧ (∀ e ∈ old, e.life = .moved) ∧ last.life ≠ .moved ∧
      (∀ e ∈ f.engines, e.setup.backoff = setup.backoff) ∧
      (∀ q ∈ f.asked, q.1 = old.length) ∧ f.invocations = last.attempts) ∧
    ∀ i e, f.engines[i]? = some e → e.life = .moved →
      e.attempts = 0 ∧ e.phase = .idle ∧ e.isDone = false ∧
      (∀ ms', (f.run ms').engines[i]? = some e) ∧
      ∀ k, f.coroutines[k]? = some ⟨i, .unstarted⟩ →
        (∃ x, (f.step (.nudge k .send)).1 = .came (.ended (.raised x)) ∧ x.isA (.complaint .state)) ∧
        ∀ n, (f.step (.nudge k n)).2 = { f with coroutines := noted .finished (some k) f.coroutines } := by
  intro f
  have h : Sound setup.backoff f := sound_run (sound_found mode setup) ms
  refine ⟨?_, fun i e he hl =>
    ⟨?_, ?_, ?_, fun ms' => getElem?_run he hl ms', fun k hc => ⟨?_, fun n => ?_⟩⟩⟩
  · obtain ⟨old, last, hf, hold, ⟨hasked, hcount⟩, hstands⟩ := h.owned
    refine ⟨old, last, hf, hold, fun hl => ?_, h.shared, hasked, hcount⟩
    rw [hl] at hstands
    exact hstands
  · simp [attempts, Life.attempts, hl]
  · simp [phase, Life.phase, hl]
  · simp [isDone, hl]
  · obtain ⟨o, hstep, ho⟩ := step_nudge_moved h he hl hc .send
    refine ⟨e.misuse "retry was reconfigured; drive the instance returned by sleep()/when()/notify()",
      ?_, rfl⟩
    rw [hstep]
    have hb : e.begin = .error (e.misuse
        "retry was reconfigured; drive the instance returned by sleep()/when()/notify()") := by
      simp only [begin, ensureFresh, hl, bind, Except.bind]
    rw [stir_of_begin_error hb] at ho
    cases ho
    rfl
  · obtain ⟨o, hstep, -⟩ := step_nudge_moved h he hl hc n
    rw [hstep]

/-- An operation that calls its own engine is told so. -/
example (u : Setup ι) : ∃ x,
    (((found .blocking u : Family ι κ).run [.call 0]).step (.call 0)).1 = .came (.ended (.raised x)) ∧
      x.isA (.complaint .state) := ⟨_, rfl, rfl⟩

end Reattempt.Family
