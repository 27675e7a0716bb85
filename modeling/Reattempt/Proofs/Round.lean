import Reattempt.Proofs.Cast

/-!
# An engine goes round by round

From the start of an attempt an engine reaches what `Cast.round` tells: the start of the next
attempt, or the end of the drive. What is handed over for waiting is settled first, for an attempt
and for a sleep alike, however often it suspends.
-/
namespace Reattempt

open Engine

variable {ι κ σ : Type}

/-! ## What is pending is settled -/

/-- A stage in which a task is begun, and those in which it is pending. -/
inductive Held : Task → Stage κ → (κ → Hold → Stage κ) → Prop
  | operation : Held .operation .calling .attempting
  | sleeper (delay : Value) : Held (.sleeper delay) (.sleeping delay) (.dozing delay)

namespace Held

variable {t : Task} {start : Stage κ} {held : κ → Hold → Stage κ}

/-- It does not matter to the engine whether a task was pending before it came to something. -/
theorem replyAt_of (h : Held t start held) (e : Engine ι κ) (n : Nat) (k : κ) (hold : Hold)
    (r : Except Fault Value) : e.replyAt n (held k hold) (.of r) = e.replyAt n start (.of r) := by
  cases h <;> cases r <;> rfl

theorem ask?_held (h : Held t start held) (n : Nat) (k : κ) (signal : Option Fault) :
    (held k (.waking signal)).ask? n = some (.resume k signal) := by
  cases h <;> rfl

theorem ask?_parked (h : Held t start held) (n : Nat) (k : κ) : (held k .parked).ask? n = none := by
  cases h <;> rfl

theorem wake_held (h : Held t start held) (k : κ) (hold : Hold) (signal : Option Fault) :
    (held k hold).wake signal = held k (.waking signal) := by
  cases h <;> rfl

theorem phase_held (h : Held t start held) (k : κ) (hold : Hold) : (held k hold).phase = start.phase := by
  cases h <;> rfl

theorem replyAt_pending (h : Held t start held) (e : Engine ι κ) (n : Nat) (k k' : κ) (c : Option Fault)
    (hold : Hold) : e.replyAt n (held k hold) (.pending k' c) = e.enter n (held k' .parked) := by
  cases h <;> rfl

theorem replyAt_start (h : Held t start held) (u : Setup ι) (life : Life κ) (n : Nat) (k : κ)
    (c : Option Fault) : (⟨.cooperative, u, life⟩ : Engine ι κ).replyAt n start (.pending k c) =
      ⟨.cooperative, u, .running n (held k (.waking none))⟩ := by
  cases h <;> rfl

end Held

namespace Cast

variable (c : Cast ι σ) (u : Setup ι) (n : Nat)

section Tasks

variable {n} {d : Staging} {t : Task} {start : Stage Pause} {held : Pause → Hold → Stage Pause}
  {m : Mode} {s z : σ} {r : Reply Pause}

/-- The first reply to a task is what its call is handed over as. -/
theorem reaches_start (h : Held t start held)
    (hr : c.undertake u.arguments ⟨start.phase, n⟩ t s (d.form n t) = (r, z)) :
    Reaches (c.world d) (⟨m, u, .running n start⟩, s) ((make m u).replyAt n start r, z) := by
  have ha : ∃ a, start.ask? n = some a ∧ c.world d ⟨m, u, .running n start⟩ a s = (r, z) := by
    cases h <;> exact ⟨_, rfl, hr⟩
  obtain ⟨a, ha, hw⟩ := ha
  have h := Reaches.reply start ha hw
  rwa [replyAt_of_life _ _ _ .fresh] at h

/-- What is resumed comes to what the resumption replies. -/
theorem reaches_resumed (h : Held t start held) {k : Pause} {r : Except Fault Value}
    (hr : c.resume u.arguments ⟨start.phase, n⟩ s k none = (.of r, z)) :
    Reaches (c.world d) (⟨m, u, .running n (held k (.waking none))⟩, s)
      ((make m u).replyAt n start (.of r), z) := by
  have hw : c.world d ⟨m, u, .running n (held k (.waking none))⟩ (.resume k none) s = (.of r, z) := by
    rw [← hr, ← h.phase_held k (.waking none)]
    rfl
  have hr := Reaches.reply _ (h.ask?_held n k none) hw
  rwa [h.replyAt_of, replyAt_of_life _ _ _ .fresh] at hr

/-- What is resumed and suspends is resumed again. -/
theorem reaches_suspended (h : Held t start held) {k k' : Pause}
    (hr : c.resume u.arguments ⟨start.phase, n⟩ s k none = (.pending k' none, z)) :
    Reaches (c.world d) (⟨m, u, .running n (held k (.waking none))⟩, s)
      (⟨m, u, .running n (held k' (.waking none))⟩, z) := by
  have hw : c.world d ⟨m, u, .running n (held k (.waking none))⟩ (.resume k none) s =
      (.pending k' none, z) := by
    rw [← hr, ← h.phase_held k (.waking none)]
    rfl
  have hr := Reaches.reply _ (h.ask?_held n k none) hw
  rw [h.replyAt_pending] at hr
  have hp := Reaches.woken (c.world d) m u z (h.ask?_parked n k')
  rw [h.wake_held] at hp
  exact hr.trans hp

/-- What a task that has begun comes to, however often it still suspends. -/
theorem reaches_begun (h : Held t start held) (left : Nat) (r : Except Fault Value) :
    Reaches (c.world d) (⟨m, u, .running n (held (.begun left r) (.waking none))⟩, s)
      ((make m u).replyAt n start (.of r), s) := by
  induction left with
  | zero => exact c.reaches_resumed u h rfl
  | succ left ih => exact (c.reaches_suspended u h rfl).trans ih

end Tasks

/-- A task comes to what its form settles it to, in the stage in which it was begun. -/
theorem reaches_task (d : Staging) (hp : d.mode = .blocking → c.IsPlain) {t : Task} {start : Stage Pause}
    {held : Pause → Hold → Stage Pause} (h : Held t start held) (s : σ) :
    Reaches (c.world d) (⟨d.mode, u, .running n start⟩, s)
      ((make d.mode u).replyAt n start
        (.of ((d.form n t).settle (c.perform u.arguments ⟨start.phase, n⟩ t s).1)),
        (c.perform u.arguments ⟨start.phase, n⟩ t s).2) := by
  have hstart := fun {r z} => c.reaches_start u (n := n) (d := d) (m := d.mode) (s := s) (z := z) (r := r) h
  rcases hv : c.perform u.arguments ⟨start.phase, n⟩ t s with ⟨r, z⟩
  cases hf : d.form n t with
  | plain =>
    have hr := hstart (r := .handed r) (z := z) (by rw [hf, undertake, hv])
    by_cases hawait : ∃ v, r = .ok (.awaitable v)
    · obtain ⟨v, rfl⟩ := hawait
      have hm : d.mode = .cooperative := by
        cases hm : d.mode with
        | cooperative => rfl
        | blocking => exact absurd (congrArg Prod.fst hv) ((hp hm).perform _ _ _ _ _)
      rw [hm] at hr ⊢
      rw [Reply.handed, make, h.replyAt_start] at hr
      exact hr.trans (c.reaches_resumed u h rfl)
    · have hplain : ∀ v, r ≠ .ok (.awaitable v) := fun v h => hawait ⟨v, h⟩
      rw [Reply.handed_eq hplain] at hr
      simpa only [Form.settle_plain hplain] using hr
  | coroutine k =>
    have hr := hstart (r := .pending (.unbegun t k) none) (z := s) (by rw [hf, undertake])
    have hm : d.mode = .cooperative := Staging.mode_eq (n := n) (t := t) (by rw [hf]; simp)
    rw [hm, make, h.replyAt_start] at hr
    rw [hm]
    cases k with
    | zero => exact hr.trans (c.reaches_resumed u h (by rw [resume, hv]))
    | succ left =>
      exact hr.trans ((c.reaches_suspended u h (by rw [resume, hv])).trans (c.reaches_begun u h left _))
  | awaitable k =>
    have hr := hstart (r := .pending (.begun k (Form.settle (.awaitable k) r)) none) (z := z)
      (by rw [hf, undertake, hv])
    have hm : d.mode = .cooperative := Staging.mode_eq (n := n) (t := t) (by rw [hf]; simp)
    rw [hm, make, h.replyAt_start] at hr
    rw [hm]
    exact hr.trans (c.reaches_begun u h k _)

/-! ## An attempt and what follows it -/

/-- What an engine that is done with a part of a round goes on with. -/
def onward {α : Type} (m : Mode) (u : Setup ι) (n : Nat) (go : α → Stage Pause) :
    Except Outcome α → Engine ι Pause
  | .ok a => ⟨m, u, .running n (go a)⟩
  | .error o => ⟨m, u, .done n o⟩

/-- The stage that a failed attempt leads to. -/
def afterFailure (u : Setup ι) (f : Failure) : Stage Pause :=
  if u.judge.isSome then .judging f else .advancing f

theorem replyAt_calling (m : Mode) (r : Except Fault Value) :
    (make m u : Engine ι Pause).replyAt n .calling (.of r) = onward m u n (afterFailure u) (m.read r) := by
  cases r with
  | ok v => cases v <;> rfl
  | error x =>
    change (if (m.leaving x).isOrdinary then _ else _) = _
    rw [Mode.read]
    by_cases hx : (m.leaving x).isOrdinary
    · rw [if_pos hx, if_pos hx]; rfl
    · rw [if_neg hx, if_neg hx]; rfl

theorem reaches_attempt (d : Staging) (hp : d.mode = .blocking → c.IsPlain) (s : σ) :
    Reaches (c.world d) (⟨d.mode, u, .running n .calling⟩, s)
      (onward d.mode u n (afterFailure u) (c.attempt u n d s).1, (c.attempt u n d s).2) := by
  have h := c.reaches_task u n d hp .operation s
  rw [replyAt_calling] at h
  exact h

/-- The start of the next attempt, or the end of the drive. -/
def next (m : Mode) (u : Setup ι) (n : Nat) : Except Outcome Unit → Engine ι Pause
  | .ok () => ⟨m, u, .running (n + 1) .calling⟩
  | .error o => ⟨m, u, .done n o⟩

theorem replyAt_sleeping (m : Mode) (delay : Value) (r : Except Fault Value) :
    (make m u : Engine ι Pause).replyAt n (.sleeping delay) (.of r) =
      next m u n (match r with
        | .ok _ => .ok ()
        | .error x => .error (.raised (m.leaving x))) := by
  cases r <;> rfl

theorem reaches_rest (d : Staging) (hp : d.mode = .blocking → c.IsPlain) (delay : Value) (s : σ) :
    Reaches (c.world d) (⟨d.mode, u, .running n (.sleeping delay)⟩, s)
      (next d.mode u n (c.rest n d delay s).1, (c.rest n d delay s).2) := by
  have h := c.reaches_task u n d hp (.sleeper delay) s
  rw [replyAt_sleeping] at h
  exact h

section NextDelay

variable {n} {d : Staging} (m : Mode) (f : Failure)

/-- A final failure is reported, and the drive ends by it. -/
theorem reaches_stopping (reason : Reason) (s : σ) :
    Reaches (c.world d) (⟨m, u, .running n (.stopping f reason)⟩, s)
      (⟨m, u, .done n f.outcome⟩, c.report ⟨.executing, n⟩ (.stopped n reason f.value) s) :=
  Reaches.reply (.stopping f reason) rfl (c.world_report d m u n _ _ s)

theorem reaches_judged (s : σ) : Reaches (c.world d) (⟨m, u, .running n (afterFailure u f)⟩, s)
    (match (c.judged u n f s).1 with
      | .ok true => ⟨m, u, .running n (.advancing f)⟩
      | .ok false => ⟨m, u, .running n (.stopping f .notRetryable)⟩
      | .error x => ⟨m, u, .done n (.raised (m.leaving x))⟩, (c.judged u n f s).2) := by
  unfold afterFailure judged
  by_cases hj : u.judge.isSome
  · rw [if_pos hj, if_pos hj]
    rcases hv : c.judge ⟨.executing, n⟩ f.value s with ⟨r, z⟩
    have h := Reaches.reply (.judging f) rfl (c.world_judge d m u n _ f.value s)
    simp only [Stage.phase, hv] at h
    cases r with
    | error x => exact h
    | ok v => cases hb : v.isTruthy <;> simpa [Reply.of, replyAt, enter, Except.map, hb] using h
  · rw [if_neg hj, if_neg hj]
    exact .refl _ _

theorem reaches_drawn (s : σ) : Reaches (c.world d) (⟨m, u, .running n (.advancing f)⟩, s)
    (match (c.drawn n s).1 with
      | .ok (some delay) => ⟨m, u, .running n (.scheduling f delay)⟩
      | .ok none => ⟨m, u, .running n (.stopping f .backoffExhausted)⟩
      | .error x => ⟨m, u, .done n (.raised (m.leaving x))⟩, (c.drawn n s).2) := by
  unfold drawn
  rcases hv : c.advance ⟨.executing, n⟩ s with ⟨r, z⟩
  have h := Reaches.reply (.advancing f) rfl (c.world_advance d m u n _ s)
  simp only [Stage.phase, hv] at h
  cases r with
  | error x =>
    cases hx : x.isA .stopIteration <;> simpa [Reply.of, replyAt, enter, abort, finish, hx] using h
  | ok v => cases v <;> exact h

theorem reaches_noticed (delay : Value) (s : σ) :
    Reaches (c.world d) (⟨m, u, .running n (.scheduling f delay)⟩, s)
      (match (c.noticed u n f delay (c.report ⟨.executing, n⟩ (.scheduled n delay f.value) s)).1 with
        | .ok () => ⟨m, u, .running n (.sleeping delay)⟩
        | .error x => ⟨m, u, .done n (.raised (m.leaving x))⟩,
        (c.noticed u n f delay (c.report ⟨.executing, n⟩ (.scheduled n delay f.value) s)).2) := by
  have h := Reaches.reply (.scheduling f delay) rfl (c.world_report d m u n _ _ s)
  unfold noticed
  by_cases hn : u.notifier.isSome
  · rw [if_pos hn]
    simp only [replyAt, hn, if_true] at h
    refine h.trans ?_
    rcases hv : c.notify ⟨.executing, n⟩ f.value delay
      (c.report ⟨.executing, n⟩ (.scheduled n delay f.value) s) with ⟨r, z⟩
    have h' := Reaches.reply (.notifying f delay) rfl (c.world_notify d m u n _ f.value delay
      (c.report ⟨.executing, n⟩ (.scheduled n delay f.value) s))
    simp only [Stage.phase, hv] at h'
    cases r <;> exact h'
  · rw [if_neg hn]
    have hn : u.notifier.isSome = false := by simpa using hn
    simp only [replyAt, hn, Bool.false_eq_true, if_false] at h
    exact h

theorem reaches_nextDelay (s : σ) : Reaches (c.world d) (⟨m, u, .running n (afterFailure u f)⟩, s)
    (onward m u n .sleeping (c.nextDelay u n m f s).1, (c.nextDelay u n m f s).2) := by
  refine (c.reaches_judged u m f s).trans ?_
  unfold nextDelay
  rcases c.judged u n f s with ⟨_ | _ | _, z⟩
  · exact .refl _ _
  · exact c.reaches_stopping u m f .notRetryable z
  · refine (c.reaches_drawn u m f z).trans ?_
    dsimp only
    rcases c.drawn n z with ⟨_ | _ | delay, z⟩
    · exact .refl _ _
    · exact c.reaches_stopping u m f .backoffExhausted z
    · refine (c.reaches_noticed u m f delay z).trans ?_
      dsimp only
      rcases c.noticed u n f delay (c.report ⟨.executing, n⟩ (.scheduled n delay f.value) z) with ⟨_ | _, z⟩
      · exact .refl _ _
      · exact .refl _ _

end NextDelay

/-- An engine goes from the start of an attempt to where the round leads. -/
theorem reaches_round (d : Staging) (hp : d.mode = .blocking → c.IsPlain) (s : σ) :
    Reaches (c.world d) (⟨d.mode, u, .running n .calling⟩, s)
      (next d.mode u n (c.round u n d s).1, (c.round u n d s).2) := by
  refine (c.reaches_attempt u n d hp s).trans ?_
  unfold round
  rcases c.attempt u n d s with ⟨_ | f, z⟩
  · exact .refl _ _
  · refine (c.reaches_nextDelay u d.mode f z).trans ?_
    dsimp only
    rcases c.nextDelay u n d.mode f z with ⟨_ | delay, z⟩
    · exact .refl _ _
    · exact c.reaches_rest u n d hp delay z

end Cast

end Reattempt
