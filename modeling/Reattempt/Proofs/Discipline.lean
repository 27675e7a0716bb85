import Reattempt.Proofs.Cycle

/-!
# Every transcript is made of cycles

The stage of an engine is a place in the language of cycles: `At` says what has been taken down of
the current cycle in each stage, and `Fits` what has been taken down in all. One reply keeps `Fits`,
and so does every step of a coroutine, whatever the surroundings reply and whatever is thrown in.
-/
namespace Reattempt

variable {ι κ σ : Type}

section Places

variable (m : Mode) (u : Setup ι)

/-- What has been taken down of the cycle of attempt `n` in each stage. -/
def At (n : Nat) : Stage κ → List (Exchange κ) → Prop
  | .calling, T => T = []
  | .attempting k _, T => m = .cooperative ∧ ∃ c, Invoked m n T (.pending k c)
  | .judging f, T => u.judge.isSome ∧ Failed m n T f
  | .advancing f, T => Accepted m u n T f
  | .stopping f reason, T =>
    ∀ r, Closing m u n (T ++ [⟨.executing, n, .report (.stopped n reason f.value), r⟩]) f.outcome
  | .scheduling f d, T => Advanced m u n T f d
  | .notifying f d, T => u.notifier.isSome ∧ Scheduled m u n T f d
  | .sleeping d, T => ∃ f, Notified m u n T f d
  | .dozing d k _, T => m = .cooperative ∧ ∃ c, Slept m u n T d (.pending k c)

/-- What has been taken down in all: nothing of an engine that was never driven. -/
def Fits : Life κ → List (Exchange κ) → Prop
  | .fresh, T => T = []
  | .moved, T => T = []
  | .running n stage, T => ∃ past last, T = past ++ last ∧ Before m u n past ∧ At m u n stage last
  | .done n o, T => ∃ past last, T = past ++ last ∧ Before m u n past ∧ Closing m u n last o

end Places

namespace Engine

variable {e : Engine ι κ} {n : Nat} {past last : List (Exchange κ)}

/-! ## One reply -/

theorem fits_failed {f : Failure} (hb : Before e.mode e.setup n past) (hf : Failed e.mode n last f) :
    Fits e.mode e.setup (e.failed n f).life (past ++ last) := by
  unfold failed enter
  cases hj : e.setup.judge with
  | none => exact ⟨past, last, rfl, hb, .unjudged hj hf⟩
  | some j => exact ⟨past, last, rfl, hb, by simp [hj], hf⟩

theorem fits_attemptRaised {x : Fault} (hb : Before e.mode e.setup n past)
    (hi : Invoked e.mode n last (.raised x)) :
    Fits e.mode e.setup (e.attemptRaised n x).life (past ++ last) := by
  unfold attemptRaised
  by_cases hx : (e.mode.leaving x).isOrdinary
  · rw [if_pos hx]
    exact fits_failed hb ⟨.error x, hi, by simp [Mode.read, hx]⟩
  · rw [if_neg hx]
    exact ⟨past, last, rfl, hb, .settled (r := .error x) hi (by simp [Mode.read, hx])⟩

theorem fits_attemptReturned {v : Value} (hb : Before e.mode e.setup n past)
    (hi : Invoked e.mode n last (.returned v)) :
    Fits e.mode e.setup (e.attemptReturned n v).life (past ++ last) := by
  unfold attemptReturned
  split
  · exact fits_failed hb ⟨.ok _, hi, rfl⟩
  · next hv =>
    refine ⟨past, last, rfl, hb, .settled (r := .ok v) hi ?_⟩
    cases v <;> first | rfl | exact absurd rfl (hv _)

theorem fits_calling (hb : Before e.mode e.setup n past) (r : Reply κ) :
    Fits e.mode e.setup (e.replyAt n .calling r).life (past ++ [⟨.executing, n, .invoke, r⟩]) := by
  have hi : Invoked e.mode n [⟨.executing, n, .invoke, r⟩] r := .call r
  cases r with
  | pending k closing =>
    cases hm : e.mode with
    | blocking =>
      simp only [replyAt, hm]
      exact ⟨past, _, rfl, hm ▸ hb, .refusedOperation rfl (hm ▸ hi)⟩
    | cooperative =>
      simp only [replyAt, hm]
      exact ⟨past, _, rfl, hm ▸ hb, rfl, closing, hm ▸ hi⟩
  | raised x => exact fits_attemptRaised hb hi
  | returned v => exact fits_attemptReturned hb hi

theorem fits_attempting {k : κ} {c signal : Option Fault} (hb : Before e.mode e.setup n past)
    (hm : e.mode = .cooperative) (hi : Invoked e.mode n last (.pending k c)) (r : Reply κ) :
    Fits e.mode e.setup (e.replyAt n (.attempting k (.waking signal)) r).life
      (past ++ (last ++ [⟨.executing, n, .resume k signal, r⟩])) := by
  have hi := Invoked.resume signal r hm hi
  cases r with
  | pending k closing => exact ⟨past, _, rfl, hb, hm, closing, hi⟩
  | raised x => exact fits_attemptRaised hb hi
  | returned v => exact fits_attemptReturned hb hi

theorem fits_judging {f : Failure} (hb : Before e.mode e.setup n past) (hj : e.setup.judge.isSome)
    (hf : Failed e.mode n last f) (r : Reply κ) :
    Fits e.mode e.setup (e.replyAt n (.judging f) r).life
      (past ++ (last ++ [⟨.executing, n, .judge f.value, r⟩])) := by
  cases r with
  | pending k closing => exact ⟨past, _, rfl, hb, .judged hj hf rfl⟩
  | raised x => exact ⟨past, _, rfl, hb, .judgeRaised x hj hf⟩
  | returned v =>
    by_cases hv : v.isTruthy
    · simp only [replyAt, hv, if_true]
      exact ⟨past, _, rfl, hb, .judged hj hf hv⟩
    · simp only [replyAt, hv]
      refine ⟨past, _, rfl, hb, fun r' => ?_⟩
      have hr : ¬ (Reply.returned v : Reply κ).accepts := by simpa [Reply.accepts] using hv
      simpa using Closing.rejected r' hj hf hr (by simp [Reply.isRaised])

theorem fits_advancing {f : Failure} (hb : Before e.mode e.setup n past)
    (ha : Accepted e.mode e.setup n last f) (r : Reply κ) :
    Fits e.mode e.setup (e.replyAt n (.advancing f) r).life
      (past ++ (last ++ [⟨.executing, n, .advance, r⟩])) := by
  have hend : ∀ r : Reply κ, r.isEnd → At e.mode e.setup n (.stopping f .backoffExhausted)
      (last ++ [⟨.executing, n, .advance, r⟩]) := by
    intro r hr r'
    simpa using Closing.exhausted r' ha hr
  cases r with
  | pending k closing => exact ⟨past, _, rfl, hb, hend _ rfl⟩
  | raised x =>
    by_cases hx : x.isA .stopIteration
    · simp only [replyAt, hx, if_true]
      exact ⟨past, _, rfl, hb, hend _ hx⟩
    · simp only [replyAt, hx]
      exact ⟨past, _, rfl, hb, .advanceRaised x ha hx⟩
  | returned d =>
    cases d with
    | none => exact ⟨past, _, rfl, hb, hend _ rfl⟩
    | _ => exact ⟨past, _, rfl, hb, .mk ha rfl⟩

theorem fits_scheduling {f : Failure} {d : Value} (hb : Before e.mode e.setup n past)
    (ha : Advanced e.mode e.setup n last f d) (r : Reply κ) :
    Fits e.mode e.setup (e.replyAt n (.scheduling f d) r).life
      (past ++ (last ++ [⟨.executing, n, .report (.scheduled n d f.value), r⟩])) := by
  have hs := Scheduled.mk r ha
  cases hn : e.setup.notifier with
  | none =>
    simp only [replyAt, hn]
    exact ⟨past, _, rfl, hb, f, .unnoticed hn hs⟩
  | some i =>
    simp only [replyAt, hn]
    exact ⟨past, _, rfl, hb, by simp [hn], hs⟩

theorem fits_notifying {f : Failure} {d : Value} (hb : Before e.mode e.setup n past)
    (hn : e.setup.notifier.isSome) (hs : Scheduled e.mode e.setup n last f d) (r : Reply κ) :
    Fits e.mode e.setup (e.replyAt n (.notifying f d) r).life
      (past ++ (last ++ [⟨.executing, n, .notify f.value d, r⟩])) := by
  cases r with
  | raised x => exact ⟨past, _, rfl, hb, .notifierRaised x hn hs⟩
  | _ => exact ⟨past, _, rfl, hb, f, .noticed hn hs (by simp [Reply.isRaised])⟩

/-- A sleep that is done closes the cycle, and the next attempt begins with nothing taken down. -/
theorem fits_cycle {d v : Value} (hb : Before e.mode e.setup n past)
    (hs : Slept e.mode e.setup n last d (.returned v)) :
    Fits e.mode e.setup (e.enter (n + 1) .calling).life (past ++ last) :=
  ⟨past ++ last, [], by simp, hb.next ⟨d, v, hs⟩, rfl⟩

theorem fits_sleeping {f : Failure} {d : Value} (hb : Before e.mode e.setup n past)
    (hn : Notified e.mode e.setup n last f d) (r : Reply κ) :
    Fits e.mode e.setup (e.replyAt n (.sleeping d) r).life
      (past ++ (last ++ [⟨.waiting, n, .sleep d, r⟩])) := by
  have hs := Slept.sleep r hn
  cases r with
  | pending k closing =>
    cases hm : e.mode with
    | blocking =>
      simp only [replyAt, hm]
      exact ⟨past, _, rfl, hm ▸ hb, .refusedSleeper rfl (hm ▸ hs)⟩
    | cooperative =>
      simp only [replyAt, hm]
      exact ⟨past, _, rfl, hm ▸ hb, rfl, closing, hm ▸ hs⟩
  | raised x => exact ⟨past, _, rfl, hb, .sleeperRaised hs⟩
  | returned v => exact fits_cycle hb hs

theorem fits_dozing {d : Value} {k : κ} {c signal : Option Fault} (hb : Before e.mode e.setup n past)
    (hm : e.mode = .cooperative) (hs : Slept e.mode e.setup n last d (.pending k c)) (r : Reply κ) :
    Fits e.mode e.setup (e.replyAt n (.dozing d k (.waking signal)) r).life
      (past ++ (last ++ [⟨.waiting, n, .resume k signal, r⟩])) := by
  have hs := Slept.resume signal r hm hs
  cases r with
  | pending k closing => exact ⟨past, _, rfl, hb, hm, closing, hs⟩
  | raised x => exact ⟨past, _, rfl, hb, .sleeperRaised hs⟩
  | returned v => exact fits_cycle hb hs

/-- Whatever the reply is, the engine moves to the place in the language that the transcript has
come to. -/
theorem fits_replyAt {stage : Stage κ} {a : Ask κ} (hb : Before e.mode e.setup n past)
    (hat : At e.mode e.setup n stage last) (ha : stage.ask? n = some a) (r : Reply κ) :
    Fits e.mode e.setup (e.replyAt n stage r).life (past ++ (last ++ [⟨stage.phase, n, a, r⟩])) := by
  cases stage with
  | calling =>
    obtain rfl : last = [] := hat
    cases ha
    exact fits_calling hb r
  | attempting k hold =>
    cases hold with
    | parked => cases ha
    | waking signal =>
      obtain ⟨hm, c, hi⟩ := hat
      cases ha
      exact fits_attempting hb hm hi r
  | judging f => cases ha; exact fits_judging hb hat.1 hat.2 r
  | advancing f => cases ha; exact fits_advancing hb hat r
  | stopping f reason => cases ha; exact ⟨past, _, rfl, hb, hat r⟩
  | scheduling f d => cases ha; exact fits_scheduling hb hat r
  | notifying f d => cases ha; exact fits_notifying hb hat.1 hat.2 r
  | sleeping d =>
    obtain ⟨f, hn⟩ := hat
    cases ha
    exact fits_sleeping hb hn r
  | dozing d k hold =>
    cases hold with
    | parked => cases ha
    | waking signal =>
      obtain ⟨hm, c, hs⟩ := hat
      cases ha
      exact fits_dozing hb hm hs r

/-! ## Whole runs -/

/-- An engine whose transcript fits the language. -/
def Keeps (m : Mode) (u : Setup ι) (e : Engine ι κ) (T : List (Exchange κ)) : Prop :=
  e.mode = m ∧ e.setup = u ∧ Fits m u e.life T

theorem keeps_reply {m : Mode} {u : Setup ι} {T : List (Exchange κ)} {a : Ask κ}
    (h : Keeps m u e T) (ha : e.ask? = some a) (r : Reply κ) :
    Keeps m u (e.reply r) (T ++ [⟨e.phase, e.attempts, a, r⟩]) := by
  obtain ⟨rfl, rfl, hf⟩ := h
  refine ⟨mode_reply e r, setup_reply e r, ?_⟩
  unfold Engine.ask? at ha
  cases hl : e.life with
  | running n stage =>
    rw [hl] at hf ha
    obtain ⟨past, last, rfl, hb, hat⟩ := hf
    rw [reply_running hl]
    simpa [Engine.phase, Engine.attempts, hl, Life.phase, Life.attempts] using fits_replyAt hb hat ha r
  | _ => simp [hl] at ha

theorem at_wake {m : Mode} {u : Setup ι} (signal : Option Fault) {stage : Stage κ}
    (h : At m u n stage last) : At m u n (stage.wake signal) last := by
  cases stage <;> exact h

theorem keeps_wake {m : Mode} {u : Setup ι} {T : List (Exchange κ)} (h : Keeps m u e T)
    (signal : Option Fault) : Keeps m u (e.wake signal) T := by
  obtain ⟨rfl, rfl, hf⟩ := h
  unfold Engine.wake
  cases hl : e.life with
  | running n stage =>
    rw [hl] at hf
    obtain ⟨past, last, rfl, hb, hat⟩ := hf
    exact ⟨rfl, rfl, past, last, rfl, hb, at_wake signal hat⟩
  | _ => exact ⟨rfl, rfl, hf⟩

theorem keeps_drive {m : Mode} {u : Setup ι} {l : List (Exchange κ)} (w : World ι κ σ) (fuel : Nat)
    (s : σ) (h : Keeps m u e l) :
    Keeps m u (drive (recording w) fuel e (l, s)).1 (drive (recording w) fuel e (l, s)).2.1 := by
  induction fuel generalizing e l s with
  | zero => exact h
  | succ fuel ih =>
    cases ha : e.ask? with
    | none => rw [drive_of_ask_none _ _ _ ha]; exact h
    | some a =>
      rw [drive_succ _ _ _ ha]
      exact ih _ (keeps_reply h ha _)

theorem keeps_begin {m : Mode} {u : Setup ι} {T : List (Exchange κ)} (h : Keeps m u e T)
    (hl : e.life = .fresh) : Keeps m u { e with life := .running 1 .calling } T := by
  obtain ⟨rfl, rfl, hf⟩ := h
  obtain rfl : T = [] := by simpa [hl, Fits] using hf
  exact ⟨rfl, rfl, [], [], rfl, .first, rfl⟩

theorem keeps_stir {m : Mode} {u : Setup ι} {T : List (Exchange κ)} {e' : Engine ι κ} {p : Progress}
    {q : Nudge} (h : Keeps m u e T) (hs : e.stir p q = .ok e') : Keeps m u e' T := by
  rcases stir_eq_ok hs with ⟨-, hl, rfl⟩ | ⟨-, rfl⟩
  · exact keeps_begin h hl
  · exact keeps_wake h _

theorem keeps_nudge {m : Mode} {u : Setup ι} {l : List (Exchange κ)} (w : World ι κ σ) (fuel : Nat)
    (p : Progress) (q : Nudge) (s : σ) (h : Keeps m u e l) :
    Keeps m u (nudge (recording w) fuel p q e (l, s)).engine
      (nudge (recording w) fuel p q e (l, s)).world.1 := by
  unfold nudge
  cases hs : e.stir p q with
  | error o => exact h
  | ok e' => exact keeps_drive w fuel s (keeps_stir h hs)

/-- Nothing but the next replies is lacking to a word of the language. -/
theorem closing_of_at {m : Mode} {u : Setup ι} {stage : Stage κ} (h : At m u n stage last) :
    ∃ rest o, Closing m u n (last ++ rest) o := by
  have hslept : ∀ {T : List (Exchange κ)} {f : Failure} {d : Value}, Notified m u n T f d →
      ∃ rest o, Closing m u n (T ++ rest) o :=
    fun hn => ⟨_, _, .sleeperRaised (.sleep (.raised default) hn)⟩
  have hnotified : ∀ {T : List (Exchange κ)} {f : Failure} {d : Value}, Scheduled m u n T f d →
      ∃ rest o, Closing m u n (T ++ rest) o := by
    intro T f d hs
    cases hn : u.notifier with
    | none => exact hslept (.unnoticed hn hs)
    | some i => exact ⟨_, _, .notifierRaised default (by simp [hn]) hs⟩
  cases stage with
  | calling =>
    obtain rfl : last = [] := h
    exact ⟨_, _, .settled (r := .ok .none) (.call (.returned .none)) rfl⟩
  | attempting k hold =>
    obtain ⟨hm, c, hi⟩ := h
    exact ⟨_, _, .settled (r := .ok .none) (.resume none (.returned .none) hm hi) rfl⟩
  | judging f => exact ⟨_, _, .judgeRaised default h.1 h.2⟩
  | advancing f => exact ⟨_, _, .exhausted (r := .returned .none) (.returned .none) h rfl⟩
  | stopping f reason => exact ⟨_, _, h (.returned .none)⟩
  | scheduling f d =>
    obtain ⟨rest, o, hc⟩ := hnotified (.mk (.returned .none) h)
    exact ⟨_ :: rest, o, by simpa using hc⟩
  | notifying f d => exact hnotified h.2
  | sleeping d => obtain ⟨f, hn⟩ := h; exact hslept hn
  | dozing d k hold =>
    obtain ⟨hm, c, hs⟩ := h
    exact ⟨_, _, .sleeperRaised (.resume none (.raised default) hm hs)⟩

/-- A stage in which nothing is asked stands at something pending. -/
theorem pending_of_at {m : Mode} {u : Setup ι} {stage : Stage κ} (h : At m u n stage last)
    (ha : stage.ask? n = none) :
    (∃ k c, Invoked m n last (.pending k c)) ∨ ∃ d k c, Slept m u n last d (.pending k c) := by
  cases stage with
  | attempting k hold =>
    obtain ⟨-, c, hi⟩ := h
    exact .inl ⟨k, c, hi⟩
  | dozing d k hold =>
    obtain ⟨-, c, hs⟩ := h
    exact .inr ⟨d, k, c, hs⟩
  | _ => simp [Stage.ask?] at ha

theorem keeps_told {m : Mode} {u : Setup ι} (w : World ι κ σ) (qs : List (Nat × Nudge))
    (t : Turn ι κ (List (Exchange κ) × σ)) (h : Keeps m u t.engine t.world.1) :
    Keeps m u (qs.foldl (urge (recording w)) t).engine (qs.foldl (urge (recording w)) t).world.1 := by
  induction qs generalizing t with
  | nil => exact h
  | cons q qs ih => exact ih _ (keeps_nudge w q.1 t.progress q.2 t.world.2 h)

/-- What a coroutine or a call has taken down, after any steps: whole cycles, and then the beginning
of one. Once the drive is over its last cycle has closed, with what the drive ended by. A suspended
drive stands at a pending attempt or a pending sleep. -/
theorem transcript_fits_cycles (w : World ι κ σ) (mode : Mode) (setup : Setup ι) (s : σ)
    (qs : List (Nat × Nudge)) :
    match (told (recording w) mode setup ([], s) qs).engine.life with
    | .fresh | .moved => (told (recording w) mode setup ([], s) qs).world.1 = []
    | .running n stage => ∃ past last rest o,
        (told (recording w) mode setup ([], s) qs).world.1 = past ++ last ∧
          Before mode setup n past ∧ Closing mode setup n (last ++ rest) o ∧
          (stage.ask? n = none → (∃ k c, Invoked mode n last (.pending k c)) ∨
            ∃ d k c, Slept mode setup n last d (.pending k c))
    | .done n o => ∃ past last, (told (recording w) mode setup ([], s) qs).world.1 = past ++ last ∧
        Before mode setup n past ∧ Closing mode setup n last o := by
  have hk : Keeps mode setup (told (recording w) mode setup ([], s) qs).engine
      (told (recording w) mode setup ([], s) qs).world.1 := keeps_told w qs _ ⟨rfl, rfl, rfl⟩
  obtain ⟨-, -, hf⟩ := hk
  cases hl : (told (recording w) mode setup ([], s) qs).engine.life with
  | fresh => rw [hl] at hf; exact hf
  | moved => rw [hl] at hf; exact hf
  | running n stage =>
    rw [hl] at hf
    obtain ⟨past, last, hT, hb, hat⟩ := hf
    obtain ⟨rest, o, hc⟩ := closing_of_at hat
    exact ⟨past, last, rest, o, hT, hb, hc, pending_of_at hat⟩
  | done n o => rw [hl] at hf; exact hf

end Engine

end Reattempt
