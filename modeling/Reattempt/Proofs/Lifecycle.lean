import Reattempt.Proofs.Ownership

/-!
# The state of an engine

What has been asked and not merely resumed tells the state of a running engine: it waits for its delay once
the sleeper has been called, and it executes an attempt otherwise. Every delay that it carries is the one that
the cursor gave last. An engine is running only as long as somebody drives it, and whoever comes to the end
of a drive leaves it done.
-/
namespace Reattempt

/-- What an engine has in hand. -/
inductive State where
  | idle
  | executing (attempt : Nat)
  | waiting (delay : Value)

def State.phase : State → Phase
  | .idle => .idle
  | .executing _ => .executing
  | .waiting _ => .waiting

namespace Stage

variable {κ : Type}

def state (n : Nat) : Stage κ → State
  | .sleeping d | .dozing d _ _ => .waiting d
  | _ => .executing n

/-- What was asked last, not counting that something was resumed. -/
def errand (n : Nat) : Stage κ → Ask κ
  | .calling | .attempting .. => .invoke
  | .judging f => .judge f.value
  | .advancing _ => .advance
  | .stopping f reason => .report (.stopped n reason f.value)
  | .scheduling f d => .report (.scheduled n d f.value)
  | .notifying f d => .notify f.value d
  | .sleeping d | .dozing d _ _ => .sleep d

/-- The delay that is to be waited for. -/
def delay? : Stage κ → Option Value
  | .scheduling _ d | .notifying _ d | .sleeping d | .dozing d _ _ => some d
  | _ => none

end Stage

def Engine.state {ι κ : Type} (e : Engine ι κ) : State :=
  match e.life with
  | .running n stage => stage.state n
  | _ => .idle

theorem Engine.phase_state {ι κ : Type} (e : Engine ι κ) : e.state.phase = e.phase := by
  cases hl : e.life with
  | running n stage =>
    simp only [Engine.state, Engine.phase, Life.phase, hl]
    cases stage <;> rfl
  | _ => simp only [Engine.state, Engine.phase, Life.phase, hl]; rfl

namespace Ask

variable {κ : Type}

def isResume : Ask κ → Bool
  | .resume .. => true
  | _ => false

/-- The state of an engine in attempt `n` whose errand this is. -/
def state (n : Nat) : Ask κ → State
  | .sleep d => .waiting d
  | _ => .executing n

end Ask

namespace Stage

variable {κ : Type} {n : Nat} {stage : Stage κ} {a : Ask κ}

theorem state_errand (n : Nat) (stage : Stage κ) : (stage.errand n).state n = stage.state n := by
  cases stage <;> rfl

theorem delay?_of_errand {d : Value} (h : stage.errand n = .sleep d) : stage.delay? = some d := by
  cases stage <;> cases h <;> rfl

theorem isResume_errand (n : Nat) (stage : Stage κ) : (stage.errand n).isResume = false := by
  cases stage <;> rfl

/-- What is asked in a stage is its errand, unless something is pending. -/
theorem ask?_of_plain (h : stage.IsPlain) (n : Nat) : stage.ask? n = some (stage.errand n) := by
  cases stage with
  | attempting k hold => cases h
  | dozing d k hold => cases h
  | _ => rfl

theorem isResume_of_not_plain (h : ¬ stage.IsPlain) (ha : stage.ask? n = some a) : a.isResume := by
  cases stage with
  | attempting k hold =>
    cases hold with
    | parked => cases ha
    | waking signal => cases ha; rfl
  | dozing d k hold =>
    cases hold with
    | parked => cases ha
    | waking signal => cases ha; rfl
  | _ => exact absurd trivial h

theorem delay?_of_advance (ha : stage.ask? n = some .advance) : stage.delay? = none := by
  cases stage with
  | advancing f => rfl
  | attempting k hold => cases hold <;> cases ha
  | dozing d k hold => cases hold <;> cases ha
  | _ => cases ha

@[simp] theorem errand_wake (signal : Option Fault) (n : Nat) (stage : Stage κ) :
    (stage.wake signal).errand n = stage.errand n := by
  cases stage <;> rfl

@[simp] theorem delay?_wake (signal : Option Fault) (stage : Stage κ) :
    (stage.wake signal).delay? = stage.delay? := by
  cases stage <;> rfl

end Stage

namespace Engine

variable {ι κ : Type}

/-! ## What a reply leads to -/

/-- What comes next is another errand, or the errand goes on with what is pending; and a delay is the one that
was to be waited for already, or the one that the cursor gives. -/
def Succeeds (n : Nat) (stage : Stage κ) (r : Reply κ) : Life κ → Prop
  | .running m next => (next.IsPlain ∨ next.errand m = stage.errand n) ∧
    ∀ d, next.delay? = some d → stage.delay? = some d ∨ stage.ask? n = some .advance ∧ r = .returned d
  | _ => True

section Succeeds

variable {n : Nat} {stage : Stage κ} {r : Reply κ} (e : Engine ι κ)

theorem succeeds_enter {m : Nat} {next : Stage κ} (hp : next.IsPlain) (hd : next.delay? = none) :
    Succeeds n stage r (e.enter m next).life := by
  refine ⟨.inl hp, fun d h => ?_⟩
  rw [hd] at h
  cases h

theorem succeeds_failed (f : Failure) : Succeeds n stage r (e.failed n f).life := by
  unfold failed
  by_cases hj : e.setup.judge.isSome
  · rw [if_pos hj]
    exact succeeds_enter e trivial rfl
  · rw [if_neg hj]
    exact succeeds_enter e trivial rfl

theorem succeeds_attemptRaised (x : Fault) : Succeeds n stage r (e.attemptRaised n x).life := by
  simp only [attemptRaised]
  split
  · exact succeeds_failed e _
  · trivial

theorem succeeds_attemptReturned (v : Value) : Succeeds n stage r (e.attemptReturned n v).life := by
  unfold attemptReturned
  split
  · exact succeeds_failed e _
  · trivial

end Succeeds

theorem succeeds_replyAt (e : Engine ι κ) (n : Nat) (stage : Stage κ) (r : Reply κ) :
    Succeeds n stage r (e.replyAt n stage r).life := by
  cases stage with
  | calling =>
    cases r with
    | returned v => exact succeeds_attemptReturned e v
    | raised x => exact succeeds_attemptRaised e x
    | pending k closing =>
      cases hm : e.mode with
      | blocking => simp only [replyAt, hm]; trivial
      | cooperative => simp only [replyAt, hm]; exact ⟨.inr rfl, fun _ h => by cases h⟩
  | attempting k hold =>
    cases r with
    | returned v => exact succeeds_attemptReturned e v
    | raised x => exact succeeds_attemptRaised e x
    | pending k closing => exact ⟨.inr rfl, fun _ h => by cases h⟩
  | judging f =>
    cases r with
    | returned v => cases hv : v.isTruthy <;> simp only [replyAt, hv] <;> exact succeeds_enter e trivial rfl
    | raised x => trivial
    | pending k closing => exact succeeds_enter e trivial rfl
  | advancing f =>
    cases r with
    | returned v =>
      cases v with
      | none => exact succeeds_enter e trivial rfl
      | _ => exact ⟨.inl trivial, fun d h => .inr ⟨rfl, by cases h; rfl⟩⟩
    | raised x =>
      by_cases hx : x.isA .stopIteration
      · simp only [replyAt, hx, if_true]
        exact succeeds_enter e trivial rfl
      · simp only [replyAt, hx]
        trivial
    | pending k closing => exact succeeds_enter e trivial rfl
  | stopping f reason => trivial
  | scheduling f d =>
    cases hn : e.setup.notifier.isSome <;> simp only [replyAt, hn] <;> exact ⟨.inl trivial, fun _ h => .inl h⟩
  | notifying f d =>
    cases r with
    | raised x => trivial
    | _ => exact ⟨.inl trivial, fun _ h => .inl h⟩
  | sleeping d =>
    cases r with
    | returned v => exact succeeds_enter e trivial rfl
    | raised x => trivial
    | pending k closing =>
      cases hm : e.mode with
      | blocking => simp only [replyAt, hm]; trivial
      | cooperative => simp only [replyAt, hm]; exact ⟨.inr rfl, fun _ h => .inl h⟩
  | dozing d k hold =>
    cases r with
    | returned v => exact succeeds_enter e trivial rfl
    | raised x => trivial
    | pending k closing => exact ⟨.inr rfl, fun _ h => .inl h⟩

theorem plain_wake {e : Engine ι κ} (hp : e.IsPlain) (signal : Option Fault) : (e.wake signal).IsPlain := by
  cases hl : e.life with
  | running n stage =>
    intro m next hl'
    have hs := hp n stage hl
    simp only [wake, hl] at hl'
    cases hl'
    cases stage with
    | attempting k hold => cases hs
    | dozing d k hold => cases hs
    | _ => trivial
  | _ => simpa only [wake, hl] using hp

end Engine

namespace Family

open Engine

variable {ι κ : Type}

/-! ## What has been asked and replied -/

/-- What was asked last, and by whom, not counting that something was resumed. -/
def errand? (f : Family ι κ) : Option (Nat × Ask κ) := (f.asked.filter fun q => !q.2.isResume).getLast?

/-- What a reply is waited for. -/
def asking? (f : Family ι κ) : Option (Nat × Ask κ) :=
  match f.drives with
  | [] => none
  | _ :: _ => f.asked.getLast?

/-- The delay that the cursor gives by a reply. -/
def drawn (f : Family ι κ) : Move ι κ → List Value
  | .reply (.returned d) =>
    match f.asking? with
    | some (_, .advance) => [d]
    | _ => []
  | _ => []

/-- The delays that the cursor gives, one after another. -/
def draws (f : Family ι κ) : List (Move ι κ) → List Value
  | [] => []
  | m :: ms => f.drawn m ++ (f.step m).2.draws ms

/-- Somebody drives the `i`-th engine: a reply is waited for, or a coroutine is suspended. -/
def Driven (f : Family ι κ) (i : Nat) : Prop :=
  (∃ v ∈ f.drives, v.engine = i) ∨ f.drives = [] ∧ ∃ k : Nat, f.coroutines[k]? = some ⟨i, .driving⟩

theorem errand?_resume {f : Family ι κ} {i : Nat} {a : Ask κ} (ha : a.isResume) (es : List (Engine ι κ))
    (cs : List Coroutine) (vs : List Drive) :
    (⟨es, cs, vs, f.asked ++ [(i, a)]⟩ : Family ι κ).errand? = f.errand? := by
  simp [errand?, List.filter_append, ha]

theorem errand?_append {f : Family ι κ} {i : Nat} {a : Ask κ} (ha : a.isResume = false)
    (es : List (Engine ι κ)) (cs : List Coroutine) (vs : List Drive) :
    (⟨es, cs, vs, f.asked ++ [(i, a)]⟩ : Family ι κ).errand? = some (i, a) := by
  simp [errand?, List.filter_append, ha]

/-! ## The invariant -/

structure Kept (ds : List Value) (f : Family ι κ) : Prop where
  plain : ∀ e ∈ f.engines, e.mode = .blocking → e.IsPlain
  running : ∀ (i : Nat) e n stage, f.engines[i]? = some e → e.life = .running n stage →
    f.errand? = some (i, stage.errand n) ∧ (∀ d, stage.delay? = some d → ds.getLast? = some d) ∧ f.Driven i
  drive : ∀ v ∈ f.drives, ∃ e a, f.engines[v.engine]? = some e ∧ e.ask? = some a ∧
    f.asked.getLast? = some (v.engine, a) ∧ (v.coroutine = none → e.mode = .blocking)

/-- The only running engine goes on. -/
theorem kept_proceed {ds : List Value} {f : Family ι κ} {v : Drive} {e : Engine ι κ} (hd : f.drives = [])
    (hlt : v.engine < f.engines.length)
    (hother : ∀ (i : Nat) x, f.engines[i]? = some x → ∀ n stage, x.life = .running n stage → i = v.engine)
    (hplain : ∀ x ∈ f.engines, x.mode = .blocking → x.IsPlain) (hp : e.mode = .blocking → e.IsPlain)
    (hcaller : v.coroutine = none → e.mode = .blocking)
    (hk : ∀ k, v.coroutine = some k → ∃ p, f.coroutines[k]? = some ⟨v.engine, p⟩)
    (hlife : ∀ n stage, e.life = .running n stage →
      (stage.IsPlain ∨ f.errand? = some (v.engine, stage.errand n)) ∧
        ∀ d, stage.delay? = some d → ds.getLast? = some d) :
    Kept ds (f.proceed v e).2 := by
  have hengines : ∀ x ∈ f.engines.set v.engine e, x.mode = .blocking → x.IsPlain := by
    intro x hx
    rcases List.mem_or_eq_of_mem_set hx with hx | rfl
    · exact hplain x hx
    · exact hp
  have hget : (f.engines.set v.engine e)[v.engine]? = some e := by simp [hlt]
  -- Only the engine that goes on can be running.
  have honly : ∀ (i : Nat) x n stage, (f.engines.set v.engine e)[i]? = some x → x.life = .running n stage →
      i = v.engine ∧ x = e := by
    intro i x n stage hx hl
    by_cases hi : v.engine = i
    · rw [← hi, hget] at hx
      exact ⟨hi.symm, (Option.some.inj hx).symm⟩
    · rw [List.getElem?_set_ne hi] at hx
      exact absurd (hother i x hx n stage hl).symm hi
  cases ha : e.ask? with
  | none =>
    rw [proceed_of_ask_none v f ha, hd]
    refine ⟨hengines, fun i x n stage hx hl => ?_, nofun⟩
    obtain ⟨rfl, rfl⟩ := honly i x n stage hx hl
    obtain ⟨herrand, hdelay⟩ := hlife n stage hl
    have hstage : ¬ stage.IsPlain := by
      intro hs
      rw [ask?, hl] at ha
      cases (Stage.ask?_of_plain hs n).symm.trans ha
    refine ⟨herrand.resolve_left hstage, hdelay, .inr ⟨rfl, ?_⟩⟩
    cases hv : v.coroutine with
    | none => exact absurd (hp (hcaller hv) n stage hl) hstage
    | some k =>
      obtain ⟨p, hc⟩ := hk k hv
      exact ⟨k, by simp [getElem?_noted, hc, yielded, outcome?, hl, Yield.progress]⟩
  | some a =>
    rw [proceed_of_ask v f ha, hd]
    refine ⟨hengines, fun i x n stage hx hl => ?_, ?_⟩
    · obtain ⟨rfl, rfl⟩ := honly i x n stage hx hl
      obtain ⟨herrand, hdelay⟩ := hlife n stage hl
      refine ⟨?_, hdelay, .inl ⟨v, by simp, rfl⟩⟩
      have hask : stage.ask? n = some a := by rwa [ask?, hl] at ha
      by_cases hs : stage.IsPlain
      · rw [Stage.ask?_of_plain hs n] at hask
        cases hask
        exact errand?_append (Stage.isResume_errand n stage) _ _ _
      · rw [errand?_resume (Stage.isResume_of_not_plain hs hask)]
        exact herrand.resolve_left hs
    · intro x hx
      obtain rfl := List.mem_singleton.mp hx
      exact ⟨e, a, hget, ha, by simp, hcaller⟩

section Steps

variable {b : ι} {ds : List Value} {f : Family ι κ}

/-- Coroutines may come and end as long as those that are driving stay. -/
theorem kept_coroutines (h : Kept ds f) {cs : List Coroutine}
    (hcs : ∀ (k : Nat) c, c.progress = .driving → (cs[k]? = some c ↔ f.coroutines[k]? = some c)) :
    Kept ds { f with coroutines := cs } := by
  refine ⟨h.plain, fun i e n stage he hl => ?_, h.drive⟩
  obtain ⟨herrand, hdelay, hdriven⟩ := h.running i e n stage he hl
  refine ⟨herrand, hdelay, hdriven.imp id ?_⟩
  rintro ⟨hd, k, hk⟩
  exact ⟨hd, k, (hcs k _ rfl).2 hk⟩

theorem kept_handover (hs : Sound b f) {i : Nat} {e : Engine ι κ}
    (he : f.engines[i]? = some e) (hl : e.life = .fresh) (change : Setup.Change ι) :
    Kept ds { f with engines := f.engines.set i { e with life := .moved } ++
      [{ e with setup := change.apply e.setup }] } := by
  obtain ⟨old, hf, hold, rfl, hasked, hd, hled⟩ := hs.last_of_fresh he hl
  have hnew : ∀ x ∈ f.engines.set old.length { e with life := .moved } ++
      [{ e with setup := change.apply e.setup }], ∀ n stage, x.life ≠ .running n stage := by
    intro x hx n stage
    simp only [hf, List.set_append_right _ _ (Nat.le_refl _), Nat.sub_self, List.set_cons_zero,
      List.mem_append, List.mem_singleton] at hx
    rcases hx with (hx | rfl) | rfl
    · rw [hold x hx]
      nofun
    · nofun
    · rw [hl]
      nofun
  exact ⟨fun x hx _ n stage hx' => absurd hx' (hnew x hx n stage),
    fun j x n stage hx hx' => absurd hx' (hnew x (List.mem_of_getElem? hx) n stage), by simp [hd]⟩

/-- Only the engine of the drive is running. -/
theorem Sound.running_unique (hs : Sound b f) {v : Drive} {e : Engine ι κ}
    (he : f.engines[v.engine]? = some e) (hl : e.life ≠ .moved) (i : Nat) (x : Engine ι κ)
    (hx : f.engines[i]? = some x) (n : Nat) (stage : Stage κ) (hlx : x.life = .running n stage) :
    i = v.engine :=
  (hs.unique hx he (by rw [hlx]; nofun) hl).1

theorem kept_begun (h : Kept ds f) (hs : Sound b f) {v : Drive} {e : Engine ι κ}
    (he : f.engines[v.engine]? = some e) (hl : e.life = .fresh)
    (hv : v.coroutine = none ∧ e.mode = .blocking ∨
      ∃ k, v.coroutine = some k ∧ f.coroutines[k]? = some ⟨v.engine, .unstarted⟩) :
    Kept ds (f.proceed v { e with life := .running 1 .calling }).2 := by
  obtain ⟨-, -, -, -, -, hd, -⟩ := hs.last_of_fresh he hl
  refine kept_proceed hd (List.getElem?_eq_some_iff.mp he).1 (hs.running_unique he (by rw [hl]; nofun)) h.plain
    ?_ ?_ ?_ ?_
  · rintro - n stage hl'
    cases hl'
    trivial
  · intro hnone
    rcases hv with ⟨-, hm⟩ | ⟨k, hk, -⟩
    · exact hm
    · rw [hnone] at hk
      cases hk
  · intro k hk
    rcases hv with ⟨hnone, -⟩ | ⟨j, hj, hc⟩
    · rw [hnone] at hk
      cases hk
    · rw [hj] at hk
      cases hk
      exact ⟨_, hc⟩
  · intro n stage hl'
    cases hl'
    exact ⟨.inl trivial, nofun⟩

theorem kept_woken (h : Kept ds f) (hs : Sound b f) {v : Drive} {e : Engine ι κ} {k : Nat}
    (he : f.engines[v.engine]? = some e) (hv : v.coroutine = some k)
    (hc : f.coroutines[k]? = some ⟨v.engine, .driving⟩) (hfree : ∀ x ∈ f.drives, x.coroutine ≠ some k) :
    Kept ds (f.proceed v (e.wake v.nudge.signal)).2 := by
  obtain ⟨-, -, -, -, -, -, -, -, -, hd, -, -⟩ := hs.parked hc rfl hfree
  obtain ⟨e', n, stage, he', hl⟩ := hs.running_of_driving hc rfl
  obtain rfl : e = e' := Option.some.inj (he.symm.trans he')
  refine kept_proceed hd (List.getElem?_eq_some_iff.mp he).1 (hs.running_unique he (by rw [hl]; nofun)) h.plain
    ?_ ?_ ?_ ?_
  · rw [mode_wake]
    exact fun hm => plain_wake (h.plain e (List.mem_of_getElem? he) hm) _
  · rw [hv]
    nofun
  · intro j hj
    rw [hv] at hj
    cases hj
    exact ⟨_, hc⟩
  · intro m next hl'
    simp only [wake, hl] at hl'
    cases hl'
    obtain ⟨herrand, hdelay, -⟩ := h.running _ e n stage he hl
    exact ⟨.inr (by rw [herrand, Stage.errand_wake]), by rwa [Stage.delay?_wake]⟩

/-- The cursor gives a delay only when it is asked for one. -/
theorem drawn_reply {v : Drive} {vs : List Drive} (hd : f.drives = v :: vs) {i : Nat} {a : Ask κ}
    (hq : f.asked.getLast? = some (i, a)) (r : Reply κ) :
    (∃ d, a = .advance ∧ r = .returned d ∧ f.drawn (.reply r) = [d]) ∨
      ((∀ d, a = .advance → r ≠ .returned d) ∧ f.drawn (.reply r) = []) := by
  have hasking : f.asking? = some (i, a) := by rw [asking?, hd]; exact hq
  cases r with
  | returned d =>
    cases a with
    | advance => exact .inl ⟨d, rfl, rfl, by simp only [drawn, hasking]⟩
    | _ => exact .inr ⟨nofun, by simp only [drawn, hasking]⟩
  | _ => exact .inr ⟨nofun, rfl⟩

theorem kept_replied (h : Kept ds f) (hs : Sound b f) (r : Reply κ) {v : Drive} {vs : List Drive}
    {e : Engine ι κ} (hd : f.drives = v :: vs) (he : f.engines[v.engine]? = some e) :
    Kept (ds ++ f.drawn (.reply r)) (({ f with drives := vs } : Family ι κ).proceed v (e.reply r)).2 := by
  have hv : v ∈ f.drives := by simp [hd]
  have hd' := hs.drives_eq hv
  rw [hd] at hd'
  cases hd'
  obtain ⟨e', n, stage, he', hl⟩ := hs.running_of_drive hv
  obtain rfl : e = e' := Option.some.inj (he.symm.trans he')
  obtain ⟨e', a, he', ha, hq, hcaller⟩ := h.drive v hv
  obtain rfl : e = e' := Option.some.inj (he.symm.trans he')
  have hask : stage.ask? n = some a := by rwa [ask?, hl] at ha
  obtain ⟨herrand, hdelay, -⟩ := h.running _ e n stage he hl
  refine kept_proceed (f := { f with drives := [] }) rfl (List.getElem?_eq_some_iff.mp he).1
    (hs.running_unique he (by simp [hl])) h.plain ?_ ?_ ?_ ?_
  · rw [mode_reply]
    exact fun hm => plain_reply hm (h.plain e (List.mem_of_getElem? he) hm) r
  · rwa [mode_reply]
  · exact fun k hk => ⟨_, hs.driving_of_drive hv hk⟩
  · intro m next hl'
    have hnext := succeeds_replyAt e n stage r
    rw [reply_running hl] at hl'
    rw [hl'] at hnext
    obtain ⟨hplain, hsame⟩ := hnext
    refine ⟨hplain.imp id fun hn => ?_, fun d hnd => ?_⟩
    · rw [hn]
      exact herrand
    · rcases drawn_reply hd hq r with ⟨d', rfl, rfl, hdrawn⟩ | ⟨hno, hdrawn⟩
      · rcases hsame d hnd with hsame | ⟨-, hr⟩
        · rw [Stage.delay?_of_advance hask] at hsame
          cases hsame
        · cases hr
          simp [hdrawn]
      · rcases hsame d hnd with hsame | ⟨hadvance, hr⟩
        · simpa [hdrawn] using hdelay d hsame
        · rw [hask] at hadvance
          exact absurd hr (hno d (Option.some.inj hadvance))

theorem kept_step (h : Kept ds f) (hs : Sound b f) (m : Move ι κ) : Kept (ds ++ f.drawn m) (f.step m).2 := by
  by_cases hm : ∃ r, m = .reply r
  · obtain ⟨r, rfl⟩ := hm
    cases hd : f.drives with
    | nil =>
      have hdrawn : f.drawn (.reply r) = [] := by cases r <;> simp only [drawn, asking?, hd]
      have hstep : f.step (.reply r) = (.nothing, f) := by simp only [step, hd]
      rwa [hdrawn, List.append_nil, hstep]
    | cons v vs =>
      obtain ⟨e, -, -, he, -⟩ := hs.running_of_drive (v := v) (by simp [hd])
      have hstep : f.step (.reply r) = ({ f with drives := vs } : Family ι κ).proceed v (e.reply r) := by
        simp only [step, hd, he]
      rw [hstep]
      exact kept_replied h hs r hd he
  · have hdrawn : f.drawn m = [] := by
      cases m with
      | reply r => exact absurd ⟨r, rfl⟩ hm
      | _ => rfl
    rw [hdrawn, List.append_nil]
    cases f.effect m with
    | quiet cs hcs hkeep hm => rw [hm]; exact kept_coroutines h hcs
    | handover i e change he hl hm => rw [hm]; exact kept_handover hs he hl change
    | begun v e he hl hv hm => rw [hm]; exact kept_begun h hs he hl hv
    | woken v e k he hv hc hfree hm => rw [hm]; exact kept_woken h hs he hv hc hfree
    | replied r v vs e hr _ _ _ => exact absurd ⟨r, hr⟩ hm

theorem kept_run (h : Kept ds f) (hs : Sound b f) (ms : List (Move ι κ)) :
    Kept (ds ++ f.draws ms) (f.run ms) := by
  induction ms generalizing ds f with
  | nil => simpa [draws] using h
  | cons m ms ih =>
    rw [draws, ← List.append_assoc]
    exact ih (kept_step h hs m) (sound_step hs m)

end Steps

theorem kept_found (mode : Mode) (setup : Setup ι) : Kept [] (found mode setup : Family ι κ) where
  plain e he _ n stage hl := by
    obtain rfl := List.mem_singleton.mp he
    cases hl
  running i e n stage he hl := by
    obtain rfl := List.mem_singleton.mp (List.mem_of_getElem? he)
    cases hl
  drive := nofun

/-! ## Ways out of a drive -/

/-- The drive `v` is over, and so is its engine. -/
def Over (f : Family ι κ) (v : Drive) (y : Yield) : Prop :=
  ∃ e n o, f.engines[v.engine]? = some e ∧ e.life = .done n o ∧ y = v.nudge.answer (.ended o) ∧
    ∀ k, v.coroutine = some k → f.coroutines[k]? = some ⟨v.engine, .finished⟩

/-- The drive `v` is the step of a coroutine that is left suspended, with its engine. -/
def Interrupted (f : Family ι κ) (v : Drive) (y : Yield) : Prop :=
  ∃ e n stage k, f.engines[v.engine]? = some e ∧ e.mode = .cooperative ∧ e.life = .running n stage ∧
    y = v.nudge.answer .suspended ∧ v.coroutine = some k ∧ f.coroutines[k]? = some ⟨v.engine, .driving⟩

theorem over_or_interrupted {b : ι} {ds : List Value} {f : Family ι κ} (h : Kept ds f) (hs : Sound b f)
    {r : Reply κ} {y : Yield} (hy : (f.step (.reply r)).1 = .came y) :
    ∃ v, f.drives = [v] ∧ (f.step (.reply r)).2.drives = [] ∧
      ((f.step (.reply r)).2.Over v y ∨ (f.step (.reply r)).2.Interrupted v y) := by
  obtain ⟨v, vs, hdrives⟩ : ∃ v vs, f.drives = v :: vs := by
    cases hd : f.drives with
    | nil => simp only [step, hd] at hy; cases hy
    | cons v vs => exact ⟨v, vs, rfl⟩
  have hv : v ∈ f.drives := by simp [hdrives]
  have hd := hs.drives_eq hv
  obtain ⟨e, n, stage, he, hl⟩ := hs.running_of_drive hv
  obtain ⟨e', -, he', -, -, hcaller⟩ := h.drive v hv
  obtain rfl : e = e' := Option.some.inj (he.symm.trans he')
  have hstep : f.step (.reply r) = ({ f with drives := [] } : Family ι κ).proceed v (e.reply r) := by
    simp only [step, hd, he]
  have hget : (f.engines.set v.engine (e.reply r))[v.engine]? = some (e.reply r) := by
    simp [(List.getElem?_eq_some_iff.mp he).1]
  have hask : (e.reply r).ask? = none := by
    cases ha : (e.reply r).ask? with
    | none => rfl
    | some a =>
      rw [hstep, proceed_of_ask _ _ ha] at hy
      cases hy
  rw [hstep, proceed_of_ask_none _ _ hask] at hy ⊢
  cases hy
  have hleads := leads_reply e r
  rw [hl] at hleads
  refine ⟨v, hd, rfl, ?_⟩
  cases hl' : (e.reply r).life with
  | done m o =>
    rw [yielded_of_over hl']
    refine .inl ⟨e.reply r, m, o, hget, hl', rfl, fun k hk => ?_⟩
    simp [hk, getElem?_noted, hs.driving_of_drive hv hk, Yield.progress]
  | running m next =>
    have hplain : e.mode = .blocking → False := by
      intro hm
      have hnext := plain_reply hm (h.plain e (List.mem_of_getElem? he) hm) r m next hl'
      rw [ask?, hl'] at hask
      cases (Stage.ask?_of_plain hnext m).symm.trans hask
    have hy : (e.reply r).yielded = .suspended := by simp [yielded, outcome?, hl']
    rw [hy]
    cases hk : v.coroutine with
    | none => exact (hplain (hcaller hk)).elim
    | some k =>
      refine .inr ⟨e.reply r, m, next, k, hget, ?_, hl', rfl, hk, ?_⟩
      · rw [mode_reply]
        cases hm : e.mode with
        | blocking => exact (hplain hm).elim
        | cooperative => rfl
      · simp [getElem?_noted, hs.driving_of_drive hv hk, Yield.progress]
  | fresh => rw [hl'] at hleads; cases hleads
  | moved => rw [hl'] at hleads; cases hleads

/-- Whatever moves were made with a family, by whomever: an engine that is fresh or has moved is idle and
counts no attempts, and one that is done is idle and stays as it is. A running engine counts the calls of the
operation. It is being driven, and its state is the one of what was asked last; if that is to sleep, for the
delay that the cursor gave last. A life goes on as `Leads` says. Who drives an engine drives a running one,
and a drive that has come to something is over, with the engine done and idle, or it is the step of a
coroutine that is suspended. -/
theorem lifecycle_of_engines (mode : Mode) (setup : Setup ι) (ms : List (Move ι κ)) :
    let f := (found mode setup).run ms
    (∀ (i : Nat) e, f.engines[i]? = some e →
      (e.life = .fresh ∨ e.life = .moved → e.state = .idle ∧ e.attempts = 0) ∧
      (e.isDone → e.state = .idle ∧ ∀ ms', (f.run ms').engines[i]? = some e) ∧
      (∀ n stage, e.life = .running n stage → e.attempts = f.invocations ∧ f.Driven i ∧
        ∃ a, f.errand? = some (i, a) ∧ e.state = a.state e.attempts ∧
          ∀ d, a = .sleep d → ((found mode setup).draws ms).getLast? = some d) ∧
      ∀ m, ∃ e', (f.step m).2.engines[i]? = some e' ∧ e.life.Leads e'.life) ∧
    (∀ i, f.Driven i → ∃ e n stage, f.engines[i]? = some e ∧ e.life = .running n stage) ∧
    ∀ r y, (f.step (.reply r)).1 = .came y →
      ∃ v, f.drives = [v] ∧ (f.step (.reply r)).2.drives = [] ∧
        ((f.step (.reply r)).2.Over v y ∨ (f.step (.reply r)).2.Interrupted v y) := by
  intro f
  have hs : Sound setup.backoff f := sound_run (sound_found mode setup) ms
  have hk : Kept ((found mode setup).draws ms) f := by
    simpa using kept_run (kept_found mode setup) (sound_found mode setup) ms
  refine ⟨fun i e he => ⟨?_, ?_, fun n stage hl => ?_, fun m => ?_⟩, fun i hi => ?_, fun r y =>
    over_or_interrupted hk hs⟩
  · rintro (hl | hl) <;> simp [state, attempts, Life.attempts, hl]
  · intro hdone
    cases hl : e.life with
    | done n o =>
      exact ⟨by simp [state, hl], getElem?_run_of_settled he (by rw [hl]; exact fun _ hl' => hl')⟩
    | _ => simp [isDone, hl] at hdone
  · obtain ⟨herrand, hdelay, hdriven⟩ := hk.running i e n stage he hl
    obtain ⟨old, last, hf, hold, ⟨-, hcount⟩, -⟩ := hs.owned
    have hlast : e = last := by
      rw [hf] at he
      rcases moved_or_last hold he with hm | ⟨-, rfl⟩
      · rw [hl] at hm
        cases hm
      · rfl
    have hn : e.attempts = n := by simp [attempts, Life.attempts, hl]
    refine ⟨by rw [hlast]; exact hcount.symm, hdriven, stage.errand n, herrand, ?_, fun d hd => ?_⟩
    · rw [hn, Stage.state_errand]
      simp only [state, hl]
    · exact hdelay d (Stage.delay?_of_errand hd)
  · obtain ⟨e', he', hleads, -, -⟩ := leads_step he m
    exact ⟨e', he', hleads⟩
  · rcases hi with ⟨v, hv, rfl⟩ | ⟨-, k, hc⟩
    · exact hs.running_of_drive hv
    · exact hs.running_of_driving hc rfl

/-- A call that waits for its first delay. -/
example : ((found .blocking (default : Setup Unit) : Family Unit Unit).run [.call 0, .reply (.raised default),
    .reply (.returned (.bool true)), .reply (.returned .none)]).engines.map Engine.state =
      [.waiting (.bool true)] := rfl

end Family

end Reattempt
