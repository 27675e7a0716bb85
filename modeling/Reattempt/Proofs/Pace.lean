import Reattempt.Engine.Coroutine

/-!
# The pace of an undisturbed drive

A drive into which nothing is thrown goes on by single replies, and what is parked is woken by
nothing. `walk` counts these paces. Stepping a coroutine until it ends comes to a place of the same
walk however many replies each step may take, so that what a walk reaches is what awaiting returns.
-/
namespace Reattempt

namespace Stage

variable {κ : Type}

/-- Nothing was thrown in. -/
def IsCalm : Stage κ → Prop
  | .attempting _ (.waking signal) => signal = none
  | .dozing _ _ (.waking signal) => signal = none
  | _ => True

/-- Nothing is pending. -/
def IsPlain : Stage κ → Prop
  | .attempting .. | .dozing .. => False
  | _ => True

end Stage

namespace Engine

variable {ι κ σ : Type}

/-- One reply, or the waking of what is parked. -/
def pace (w : World ι κ σ) (c : Engine ι κ × σ) : Engine ι κ × σ :=
  match c.1.ask? with
  | some a => (c.1.reply (w c.1 a c.2).1, (w c.1 a c.2).2)
  | none => (c.1.wake none, c.2)

def walk (w : World ι κ σ) : Nat → Engine ι κ × σ → Engine ι κ × σ
  | 0, c => c
  | n + 1, c => walk w n (pace w c)

@[simp] theorem walk_zero (w : World ι κ σ) (c : Engine ι κ × σ) : walk w 0 c = c := rfl

@[simp] theorem walk_succ (w : World ι κ σ) (n : Nat) (c : Engine ι κ × σ) :
    walk w (n + 1) c = walk w n (pace w c) := rfl

theorem walk_add (w : World ι κ σ) (m n : Nat) (c : Engine ι κ × σ) :
    walk w (m + n) c = walk w n (walk w m c) := by
  induction m generalizing c with
  | zero => simp
  | succ m ih => simpa [Nat.succ_add] using ih (pace w c)

theorem pace_of_ask (w : World ι κ σ) {e : Engine ι κ} {a : Ask κ} (h : e.ask? = some a) (s : σ) :
    pace w (e, s) = (e.reply (w e a s).1, (w e a s).2) := by
  simp [pace, h]

theorem pace_of_ask_none (w : World ι κ σ) {e : Engine ι κ} (h : e.ask? = none) (s : σ) :
    pace w (e, s) = (e.wake none, s) := by
  simp [pace, h]

/-! ## A drive that is over stays so -/

def IsOver (e : Engine ι κ) : Prop := ∃ n o, e.life = .done n o

theorem pace_over (w : World ι κ σ) {c : Engine ι κ × σ} (h : c.1.IsOver) : pace w c = c := by
  obtain ⟨n, o, h⟩ := h
  simp [pace, ask?, wake, h]

theorem walk_over (w : World ι κ σ) (n : Nat) {c : Engine ι κ × σ} (h : c.1.IsOver) :
    walk w n c = c := by
  induction n with
  | zero => rfl
  | succ n ih => rw [walk_succ, pace_over w h, ih]

/-- A walk that has come to the end of the drive is no longer moved by more paces. -/
theorem walk_of_le (w : World ι κ σ) {m n : Nat} {c : Engine ι κ × σ} (h : (walk w m c).1.IsOver)
    (hmn : m ≤ n) : walk w n c = walk w m c := by
  obtain ⟨d, rfl⟩ := Nat.exists_eq_add_of_le hmn
  rw [walk_add, walk_over w d h]

/-! ## Reaching -/

def Reaches (w : World ι κ σ) (c d : Engine ι κ × σ) : Prop := ∃ n, walk w n c = d

theorem Reaches.refl (w : World ι κ σ) (c : Engine ι κ × σ) : Reaches w c c := ⟨0, rfl⟩

theorem Reaches.trans {w : World ι κ σ} {c d f : Engine ι κ × σ} (h : Reaches w c d)
    (h' : Reaches w d f) : Reaches w c f := by
  obtain ⟨m, hm⟩ := h
  obtain ⟨n, hn⟩ := h'
  exact ⟨m + n, by rw [walk_add, hm, hn]⟩

/-- A running engine moves on with the reply. -/
theorem Reaches.reply {w : World ι κ σ} {m : Mode} {u : Setup ι} {n : Nat} (stage : Stage κ) {a : Ask κ}
    {s t : σ} {r : Reply κ} (ha : stage.ask? n = some a)
    (hw : w ⟨m, u, .running n stage⟩ a s = (r, t)) :
    Reaches w (⟨m, u, .running n stage⟩, s)
      ((⟨m, u, .running n stage⟩ : Engine ι κ).replyAt n stage r, t) := by
  have h : (⟨m, u, .running n stage⟩ : Engine ι κ).ask? = some a := ha
  exact ⟨1, by rw [walk_succ, pace_of_ask w h, hw]; rfl⟩

/-- What is parked is woken. -/
theorem Reaches.woken (w : World ι κ σ) (m : Mode) (u : Setup ι) {n : Nat} {stage : Stage κ} (s : σ)
    (ha : stage.ask? n = none) :
    Reaches w (⟨m, u, .running n stage⟩, s) (⟨m, u, .running n (stage.wake none)⟩, s) := by
  have h : (⟨m, u, .running n stage⟩ : Engine ι κ).ask? = none := ha
  exact ⟨1, by rw [walk_succ, pace_of_ask_none w h]; rfl⟩

/-! ## Calm drives -/

/-- A running engine into which nothing was thrown. -/
def IsCalm (e : Engine ι κ) : Prop := ∃ n stage, e.life = .running n stage ∧ stage.IsCalm

theorem wake_of_ask {e : Engine ι κ} (hc : e.IsCalm) (ha : e.ask? ≠ none) : e.wake none = e := by
  obtain ⟨n, stage, hl, hc⟩ := hc
  obtain ⟨mode, setup, life⟩ := e
  obtain rfl : life = .running n stage := hl
  cases stage with
  | attempting k hold =>
    cases hold with
    | parked => simp [ask?, Stage.ask?] at ha
    | waking signal => obtain rfl : signal = none := hc; rfl
  | dozing d k hold =>
    cases hold with
    | parked => simp [ask?, Stage.ask?] at ha
    | waking signal => obtain rfl : signal = none := hc; rfl
  | _ => rfl

theorem calm_wake {e : Engine ι κ} (hc : e.IsCalm) : (e.wake none).IsCalm := by
  obtain ⟨n, stage, hl, hc⟩ := hc
  refine ⟨n, stage.wake none, by simp [wake, hl], ?_⟩
  cases stage <;> first | rfl | exact hc

/-- What is woken has something to ask. -/
theorem ask_wake {e : Engine ι κ} (hc : e.IsCalm) : (e.wake none).ask? ≠ none := by
  obtain ⟨n, stage, hl, -⟩ := hc
  simp only [wake, hl, ask?]
  cases stage <;> simp [Stage.wake, Stage.ask?]

/-! ### What a reply leaves -/

/-- What a reply to attempt `n` may leave: the drive is over, or it goes on with nothing thrown in and
with nothing pending unless it may wait. Only the next attempt calls the operation again. -/
def Follows (waits : Prop) (n : Nat) : Life κ → Prop
  | .done m _ => m = n
  | .running m stage =>
    stage.IsCalm ∧ (stage.IsPlain ∨ waits) ∧ (stage = .calling ∧ m = n + 1 ∨ stage ≠ .calling ∧ m = n)
  | _ => False

section Follows

variable (e : Engine ι κ) (n : Nat) (waits : Prop)

variable {n waits} in
theorem follows_enter {stage : Stage κ} (hc : stage.IsCalm) (hp : stage.IsPlain) (hs : stage ≠ .calling) :
    Follows waits n (e.enter n stage).life := ⟨hc, .inl hp, .inr ⟨hs, rfl⟩⟩

variable {n waits} in
theorem follows_hold {stage : Stage κ} (hc : stage.IsCalm) (hw : waits) (hs : stage ≠ .calling) :
    Follows waits n (e.enter n stage).life := ⟨hc, .inr hw, .inr ⟨hs, rfl⟩⟩

theorem follows_next : Follows waits n (e.enter (n + 1) .calling).life :=
  ⟨trivial, .inl trivial, .inl ⟨rfl, rfl⟩⟩

theorem follows_failed (f : Failure) : Follows waits n (e.failed n f).life := by
  unfold failed
  by_cases hj : e.setup.judge.isSome
  · rw [if_pos hj]
    exact follows_enter e trivial trivial nofun
  · rw [if_neg hj]
    exact follows_enter e trivial trivial nofun

theorem follows_attemptRaised (x : Fault) : Follows waits n (e.attemptRaised n x).life := by
  simp only [attemptRaised]
  split
  · exact follows_failed e n waits _
  · exact rfl

theorem follows_attemptReturned (v : Value) : Follows waits n (e.attemptReturned n v).life := by
  unfold attemptReturned
  split
  · exact follows_failed e n waits _
  · exact rfl

/-- Only a cooperative engine, or one that waits already, is left waiting. -/
theorem follows_replyAt (stage : Stage κ) (r : Reply κ) :
    Follows (e.mode = .cooperative ∨ ¬ stage.IsPlain) n (e.replyAt n stage r).life := by
  cases stage with
  | calling =>
    cases r with
    | returned v => exact follows_attemptReturned e n _ v
    | raised x => exact follows_attemptRaised e n _ x
    | pending k closing =>
      cases hm : e.mode with
      | blocking => simp only [replyAt, hm]; exact rfl
      | cooperative => simp only [replyAt, hm]; exact follows_hold e rfl (.inl trivial) (by simp)
  | attempting k hold =>
    cases r with
    | returned v => exact follows_attemptReturned e n _ v
    | raised x => exact follows_attemptRaised e n _ x
    | pending k closing => exact follows_hold e trivial (.inr id) (by simp)
  | judging f =>
    cases r with
    | returned v =>
      cases hv : v.isTruthy <;> simp only [replyAt, hv] <;> exact follows_enter e trivial trivial (by simp)
    | raised x => exact rfl
    | pending k closing => exact follows_enter e trivial trivial (by simp)
  | advancing f =>
    cases r with
    | returned v => cases v <;> exact follows_enter e trivial trivial (by simp)
    | raised x =>
      by_cases hx : x.isA .stopIteration
      · simp only [replyAt, hx, if_true]
        exact follows_enter e trivial trivial (by simp)
      · simp only [replyAt, hx]
        exact rfl
    | pending k closing => exact follows_enter e trivial trivial (by simp)
  | stopping f reason => exact rfl
  | scheduling f d =>
    cases hn : e.setup.notifier.isSome <;> simp only [replyAt, hn] <;>
      exact follows_enter e trivial trivial (by simp)
  | notifying f d =>
    cases r with
    | returned v => exact follows_enter e trivial trivial (by simp)
    | raised x => exact rfl
    | pending k closing => exact follows_enter e trivial trivial (by simp)
  | sleeping d =>
    cases r with
    | returned v => exact follows_next e n _
    | raised x => exact rfl
    | pending k closing =>
      cases hm : e.mode with
      | blocking => simp only [replyAt, hm]; exact rfl
      | cooperative => simp only [replyAt, hm]; exact follows_hold e rfl (.inl trivial) (by simp)
  | dozing d k hold =>
    cases r with
    | returned v => exact follows_next e n _
    | raised x => exact rfl
    | pending k closing => exact follows_hold e trivial (.inr id) (by simp)

end Follows

/-- A reply leaves an engine calm, or its drive is over. -/
theorem calm_reply {e : Engine ι κ} (hc : e.IsCalm) (r : Reply κ) :
    (e.reply r).IsCalm ∨ (e.reply r).IsOver := by
  obtain ⟨n, stage, hl, -⟩ := hc
  have h := follows_replyAt e n stage r
  rw [reply_running hl]
  cases hl' : (e.replyAt n stage r).life with
  | running m st =>
    rw [hl'] at h
    exact .inl ⟨m, st, hl', h.1⟩
  | done m o => exact .inr ⟨m, o, hl'⟩
  | fresh => rw [hl'] at h; cases h
  | moved => rw [hl'] at h; cases h

/-! ## Awaiting walks -/

/-- A coroutine that stands where an engine is. -/
def stand (c : Engine ι κ × σ) : Turn ι κ σ := ⟨c.1.yielded, c.1.yielded.progress, c.1, c.2⟩

theorem drive_eq_walk (w : World ι κ σ) (fuel : Nat) (e : Engine ι κ) (s : σ) :
    ∃ n, drive w fuel e s = walk w n (e, s) ∧
      ((drive w fuel e s).1.ask? = none ∨ n = fuel) ∧ (e.ask? ≠ none → 0 < fuel → 0 < n) := by
  induction fuel generalizing e s with
  | zero => exact ⟨0, rfl, .inr rfl, by simp⟩
  | succ fuel ih =>
    cases ha : e.ask? with
    | none => exact ⟨0, drive_of_ask_none w _ s ha, .inl (by rw [drive_of_ask_none w _ s ha, ha]), by simp⟩
    | some a =>
      obtain ⟨n, hn, hstop, -⟩ := ih (e.reply (w e a s).1) (w e a s).2
      rw [drive_succ w fuel s ha]
      refine ⟨n + 1, by rw [hn, walk_succ, pace_of_ask w ha], ?_, by simp⟩
      rcases hstop with h | h
      · exact .inl h
      · exact .inr (by omega)

theorem calm_drive (w : World ι κ σ) (fuel : Nat) {e : Engine ι κ} (s : σ) (hc : e.IsCalm) :
    (drive w fuel e s).1.IsCalm ∨ (drive w fuel e s).1.IsOver := by
  induction fuel generalizing e s with
  | zero => exact .inl hc
  | succ fuel ih =>
    cases ha : e.ask? with
    | none => rw [drive_of_ask_none w _ s ha]; exact .inl hc
    | some a =>
      rw [drive_succ w fuel s ha]
      rcases calm_reply hc (w e a s).1 with h | ⟨n, o, h⟩
      · exact ih _ h
      · rw [drive_of_ask_none w fuel _ (by simp [ask?, h])]
        exact .inr ⟨n, o, h⟩

/-- The waking at the beginning of a step is the pace that is due, or none is. -/
theorem wake_eq_walk (w : World ι κ σ) {e : Engine ι κ} (s : σ) (hc : e.IsCalm) :
    ∃ n, (e.wake none, s) = walk w n (e, s) := by
  by_cases ha : e.ask? = none
  · exact ⟨1, by rw [walk_succ, walk_zero, pace_of_ask_none w ha]⟩
  · exact ⟨0, by rw [walk_zero, wake_of_ask hc ha]⟩

theorem yielded_of_calm {e : Engine ι κ} (hc : e.IsCalm) : e.yielded = .suspended := by
  obtain ⟨n, stage, hl, -⟩ := hc
  simp [yielded, outcome?, hl]

theorem yielded_of_over {e : Engine ι κ} {n : Nat} {o : Outcome} (h : e.life = .done n o) :
    e.yielded = .ended o := by
  simp [yielded, outcome?, h]

theorem over_of_yielded {e : Engine ι κ} {o : Outcome} (h : e.yielded = .ended o) :
    ∃ n, e.life = .done n o := by
  cases hl : e.life with
  | done n o' =>
    rw [yielded_of_over hl] at h
    cases h
    exact ⟨n, rfl⟩
  | _ => simp [yielded, outcome?, hl] at h

/-- Awaiting comes to a place of the walk, and to any place of it if it may take enough steps of
enough replies. -/
theorem await_eq_stand (w : World ι κ σ) (fuel m : Nat) {e : Engine ι κ} (s : σ) (hc : e.IsCalm)
    (far : Nat) : ∃ n, await w fuel m .driving e s = stand (walk w n (e, s)) ∧
      (far ≤ fuel → far < m → far ≤ n) := by
  induction m generalizing e s far with
  | zero => exact ⟨0, by simp [await, stand, yielded_of_calm hc, Yield.progress], by omega⟩
  | succ m ih =>
    obtain ⟨j, hj⟩ := wake_eq_walk w s hc
    obtain ⟨n, hn, -, hpos⟩ := drive_eq_walk w fuel (e.wake none) s
    have hd : drive w fuel (e.wake none) s = walk w (j + n) (e, s) := by rw [walk_add, ← hj, hn]
    have hnudge : nudge w fuel .driving .send e s = stand (walk w (j + n) (e, s)) := by
      rw [← hd]; rfl
    rcases calm_drive w fuel s (calm_wake hc) with hcalm | hover
    · rw [hd] at hcalm
      obtain ⟨n', hn', hfar⟩ := ih (walk w (j + n) (e, s)).2 hcalm (far - (j + n))
      refine ⟨j + n + n', ?_, ?_⟩
      · rw [walk_add, ← hn', await, hnudge, stand, yielded_of_calm hcalm]
        rfl
      · intro hf hm
        have := hpos (ask_wake hc)
        omega
    · rw [hd] at hover
      refine ⟨max far (j + n), ?_, by omega⟩
      rw [walk_of_le w hover (by omega), await, hnudge]
      obtain ⟨k, o, h⟩ := hover
      rw [stand, yielded_of_over h]

/-! ## A blocking engine never waits -/

/-- Nothing is pending. -/
def IsPlain (e : Engine ι κ) : Prop := ∀ n stage, e.life = .running n stage → stage.IsPlain

/-- A blocking engine refuses what is pending. -/
theorem plain_reply {e : Engine ι κ} (hm : e.mode = .blocking) (hp : e.IsPlain) (r : Reply κ) :
    (e.reply r).IsPlain := by
  cases hl : e.life with
  | running n stage =>
    intro m st hl'
    have h := follows_replyAt e n stage r
    rw [reply_running hl] at hl'
    rw [hl'] at h
    obtain ⟨-, h | h | h, -⟩ := h
    · exact h
    · rw [hm] at h
      cases h
    · exact absurd (hp n stage hl) h
  | _ => simpa only [reply, hl] using hp

/-- A plain engine that asks nothing is not running. -/
theorem wake_of_plain {e : Engine ι κ} (hp : e.IsPlain) (ha : e.ask? = none) : e.wake none = e := by
  cases hl : e.life with
  | running n stage =>
    have hs := hp n stage hl
    rw [ask?, hl] at ha
    cases stage with
    | attempting k hold => cases hs
    | dozing d k hold => cases hs
    | _ => cases ha
  | _ => simp only [wake, hl]

/-- A call is a walk, reply by reply. -/
theorem drive_eq_walk_of_blocking (w : World ι κ σ) (fuel : Nat) {e : Engine ι κ} (s : σ)
    (hm : e.mode = .blocking) (hp : e.IsPlain) : drive w fuel e s = walk w fuel (e, s) := by
  induction fuel generalizing e s with
  | zero => rfl
  | succ fuel ih =>
    cases ha : e.ask? with
    | none =>
      have hpace : pace w (e, s) = (e, s) := by rw [pace_of_ask_none w ha, wake_of_plain hp ha]
      rw [drive_of_ask_none w _ s ha, walk_succ, hpace, ← ih s hm hp, drive_of_ask_none w _ s ha]
    | some a =>
      rw [drive_succ w fuel s ha, walk_succ, pace_of_ask w ha]
      exact ih _ (by rw [mode_reply, hm]) (plain_reply hm hp _)

end Engine

end Reattempt
