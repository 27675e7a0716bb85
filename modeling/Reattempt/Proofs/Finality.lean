import Reattempt.Proofs.Pace
import Reattempt.Proofs.Tally

/-!
# What ends a drive at once

A fault that the judge, the cursor, the notifier or the sleeper raises is not retried: the exchange in which it
was raised is the last of the drive. So is the exchange in which something pending is handed back to a blocking
engine. Both are read off the language of cycles, in which nothing follows on such an exchange.
-/
namespace Reattempt

variable {ι κ σ : Type}

namespace Exchange

/-- The fault that somebody other than the operation has raised. The end of iteration that a cursor raises
means that no delays remain. -/
def fault? (q : Exchange κ) : Option Fault :=
  match q.ask, q.reply with
  | .judge _, .raised x => some x
  | .advance, .raised x => if x.isA .stopIteration then none else some x
  | .notify .., .raised x => some x
  | .sleep _, .raised x => some x
  | .resume .., .raised x => if q.phase = .waiting then some x else none
  | _, _ => none

/-- By what a blocking engine ends that something pending is handed back to. -/
def refused? (u : Setup ι) (q : Exchange κ) : Option Fault :=
  match q.ask, q.reply with
  | .invoke, .pending _ closing => some (closing.getD u.refusedOperation)
  | .sleep _, .pending _ closing => some (closing.getD u.refusedSleeper)
  | _, _ => none

/-- The fault by which a drive ends at once. -/
def fatal? (m : Mode) (u : Setup ι) (q : Exchange κ) : Option Fault :=
  match q.fault?, m with
  | some x, m => some (m.leaving x)
  | none, .blocking => q.refused? u
  | none, .cooperative => none

/-- What was asked for, also if it was resumed. -/
def duty? (q : Exchange κ) : Option Duty :=
  match q.ask with
  | .resume .. => some (if q.phase = .waiting then .sleep else .operate)
  | a => a.duty?

theorem fatal?_of_fault {q : Exchange κ} {x : Fault} (h : q.fault? = some x) (m : Mode) (u : Setup ι) :
    q.fatal? m u = some (m.leaving x) := by
  simp only [fatal?, h]

/-- It is not the operation that is said to have raised. -/
theorem rank_pos_of_fault {q : Exchange κ} {x : Fault} {part : Duty} (h : q.fault? = some x)
    (hpart : q.duty? = some part) : 0 < part.rank := by
  obtain ⟨phase, n, a, r⟩ := q
  cases a with
  | invoke => cases r <;> cases h
  | report line => cases hpart
  | resume k signal =>
    cases phase with
    | waiting => cases hpart; exact Nat.succ_pos 3
    | _ => cases r <;> cases h
  | _ => cases hpart; decide

theorem fatal?_of_refused {u : Setup ι} {q : Exchange κ} {x : Fault} (h : q.refused? u = some x) :
    q.fatal? .blocking u = some x := by
  obtain ⟨phase, n, a, r⟩ := q
  cases a <;> cases r <;> cases h <;> rfl

end Exchange

section Language

variable (m : Mode) (u : Setup ι)

/-- Nothing that has been taken down ends the drive. -/
def Quiet (T : List (Exchange κ)) : Prop := ∀ q ∈ T, q.fatal? m u = none

/-- The last exchange of a drive is one that ends it. -/
structure EndsAt (n : Nat) (T : List (Exchange κ)) (q : Exchange κ) (before : List (Exchange κ)) : Prop where
  last : T = before ++ [q]
  quiet : Quiet m u before
  attempts : q.attempts = n
  first : q.ask = .invoke → before = []
  share : ∃ last, q.duty? = some last ∧ ∀ d : Duty, d.times T = u.share last d

variable {m u} {n : Nat} {T U : List (Exchange κ)}

theorem Quiet.append (h : Quiet m u T) (h' : Quiet m u U) : Quiet m u (T ++ U) := by
  intro q hq
  rcases List.mem_append.mp hq with hq | hq
  · exact h q hq
  · exact h' q hq

theorem quiet_singleton {q : Exchange κ} : Quiet m u [q] ↔ q.fatal? m u = none := by
  simp [Quiet]

/-- Where all but the last exchange is quiet, that is the one that ends the drive. -/
theorem Quiet.eq_last {q q' : Exchange κ} {x : Fault} (h : Quiet m u T) (hq : q ∈ T ++ [q'])
    (hx : q.fatal? m u = some x) : q = q' := by
  rcases List.mem_append.mp hq with hq | hq
  · rw [h q hq] at hx
    cases hx
  · exact List.mem_singleton.mp hq

/-! ## What is quiet -/

theorem Invoked.quiet {r : Reply κ} (h : Invoked m n T r) (hr : m = .blocking → ∀ k c, r ≠ .pending k c) :
    Quiet m u T := by
  induction h with
  | call r =>
    rw [quiet_singleton]
    cases m with
    | cooperative => rfl
    | blocking => cases r with
      | pending k closing => exact absurd rfl (hr rfl k closing)
      | _ => rfl
  | resume signal r hm h ih =>
    subst hm
    refine (ih nofun).append ?_
    rw [quiet_singleton]
    cases r <;> rfl

theorem Failed.quiet {f : Failure} (h : Failed m n T f) : Quiet m u T := by
  obtain ⟨r, hi, -⟩ := h
  refine hi.quiet fun _ k c => ?_
  cases r <;> exact nofun

theorem Accepted.quiet {f : Failure} (h : Accepted m u n T f) : Quiet m u T := by
  cases h with
  | unjudged hj h => exact h.quiet
  | judged hj h hr =>
    refine h.quiet.append (quiet_singleton.mpr ?_)
    rename_i r
    cases r with
    | raised x => cases hr
    | _ => cases m <;> rfl

theorem Advanced.quiet {f : Failure} {d : Value} (h : Advanced m u n T f d) : Quiet m u T := by
  obtain ⟨h, hd⟩ := h
  refine h.quiet.append (quiet_singleton.mpr ?_)
  rename_i r
  cases r with
  | raised x => cases hd
  | _ => cases m <;> rfl

theorem Scheduled.quiet {f : Failure} {d : Value} (h : Scheduled m u n T f d) : Quiet m u T := by
  obtain ⟨r, h⟩ := h
  refine h.quiet.append (quiet_singleton.mpr ?_)
  cases m <;> cases r <;> rfl

theorem Notified.quiet {f : Failure} {d : Value} (h : Notified m u n T f d) : Quiet m u T := by
  cases h with
  | unnoticed hn h => exact h.quiet
  | noticed hn h hr =>
    refine h.quiet.append (quiet_singleton.mpr ?_)
    rename_i r
    cases r with
    | raised x => exact absurd rfl hr
    | _ => cases m <;> rfl

theorem Slept.quiet {d : Value} {r : Reply κ} (h : Slept m u n T d r) (hx : ¬ r.isRaised)
    (hr : m = .blocking → ∀ k c, r ≠ .pending k c) : Quiet m u T := by
  induction h with
  | sleep r h =>
    refine h.quiet.append (quiet_singleton.mpr ?_)
    cases r with
    | raised x => exact absurd rfl hx
    | returned v => cases m <;> rfl
    | pending k closing =>
      cases m with
      | cooperative => rfl
      | blocking => exact absurd rfl (hr rfl k closing)
  | resume signal r hm h ih =>
    subst hm
    refine (ih nofun nofun).append (quiet_singleton.mpr ?_)
    cases r with
    | raised x => exact absurd rfl hx
    | _ => rfl

theorem Cycle.quiet (h : Cycle m u n T) : Quiet m u T := by
  obtain ⟨d, v, h⟩ := h
  exact h.quiet nofun nofun

theorem Before.quiet (h : Before m u n T) : Quiet m u T := by
  induction h with
  | first => exact nofun
  | next h hc ih => exact ih.append hc.quiet

/-! ## What is not -/

/-- Whatever the sleeper comes to, it has been quiet before. -/
theorem Slept.last {d : Value} {r : Reply κ} (h : Slept m u n T d r) :
    ∃ before a, T = before ++ [⟨.waiting, n, a, r⟩] ∧ Quiet m u before ∧
      (a = .sleep d ∨ m = .cooperative ∧ ∃ k signal, a = .resume k signal) := by
  cases h with
  | sleep r h => exact ⟨_, _, rfl, h.quiet, .inl rfl⟩
  | resume signal r hm h => exact ⟨_, _, rfl, h.quiet nofun (by rw [hm]; nofun), .inr ⟨hm, _, _, rfl⟩⟩

/-- A last cycle with an exchange that ends the drive ends there. -/
theorem Closing.endsAt {o : Outcome} (h : Closing m u n T o) {q : Exchange κ} (hq : q ∈ T) {x : Fault}
    (hx : q.fatal? m u = some x) : o = .raised x ∧ ∃ before, EndsAt m u n T q before := by
  have hquiet : ¬ Quiet m u T := by
    intro hquiet
    rw [hquiet q hq] at hx
    cases hx
  cases h with
  | @settled T r o h hr =>
    refine absurd (h.quiet fun _ k c => ?_) hquiet
    cases r <;> simp [Reply.of]
  | refusedOperation hm h =>
    subst hm
    have hdone := h.times u
    cases h with
    | resume signal r hm h => cases hm
    | call r =>
      obtain rfl := List.mem_singleton.mp hq
      cases hx
      exact ⟨rfl, [], rfl, (by simp [Quiet]), rfl, fun _ => rfl, .operate, rfl, hdone⟩
  | @rejected T f r r' hj h hr hx =>
    refine absurd (h.quiet.append ?_) hquiet
    rw [← List.singleton_append]
    refine (quiet_singleton.mpr ?_).append (quiet_singleton.mpr ?_)
    · cases r with
      | raised x => exact absurd rfl hx
      | _ => cases m <;> rfl
    · cases m <;> cases r' <;> rfl
  | judgeRaised x hj h =>
    obtain rfl := h.quiet.eq_last hq hx
    cases hx
    refine ⟨rfl, _, rfl, h.quiet, rfl, (fun h => by cases h), .judge, rfl, fun d => ?_⟩
    rw [Duty.times_append, h.times u, ← u.share_add .operate rfl (show u.has .judge from hj)]
    simp [Ask.duty?]
  | @exhausted T f r r' h hr =>
    refine absurd (h.quiet.append ?_) hquiet
    rw [← List.singleton_append]
    refine (quiet_singleton.mpr ?_).append (quiet_singleton.mpr ?_)
    · cases r with
      | raised x =>
        have hstop : x.isA .stopIteration = true := hr
        simp only [Exchange.fatal?, Exchange.fault?, hstop, if_true]
        cases m <;> rfl
      | _ => cases m <;> rfl
    · cases m <;> cases r' <;> rfl
  | advanceRaised y h hy =>
    obtain rfl := h.quiet.eq_last hq hx
    simp only [Exchange.fatal?, Exchange.fault?, hy] at hx
    cases hx
    refine ⟨rfl, _, rfl, h.quiet, rfl, (fun h => by cases h), .advance, rfl, fun d => ?_⟩
    rw [Duty.times_append, h.times, ← u.share_add .judge rfl (show u.has .advance from rfl)]
    simp [Ask.duty?]
  | notifierRaised y hn h =>
    obtain rfl := h.quiet.eq_last hq hx
    cases hx
    refine ⟨rfl, _, rfl, h.quiet, rfl, (fun h => by cases h), .notify, rfl, fun d => ?_⟩
    rw [Duty.times_append, h.times, ← u.share_add .advance rfl (show u.has .notify from hn)]
    simp [Ask.duty?]
  | sleeperRaised h =>
    obtain ⟨before, a, rfl, hbefore, ha⟩ := h.last
    obtain rfl := hbefore.eq_last hq hx
    rcases ha with rfl | ⟨hm, k, signal, rfl⟩
    · cases hx
      exact ⟨rfl, before, rfl, hbefore, rfl, (fun h => by cases h), .sleep, rfl, h.times⟩
    · cases hx
      exact ⟨rfl, before, rfl, hbefore, rfl, (fun h => by cases h), .sleep, rfl, h.times⟩
  | refusedSleeper hm h =>
    subst hm
    obtain ⟨before, a, rfl, hbefore, ha⟩ := h.last
    obtain rfl := hbefore.eq_last hq hx
    rcases ha with rfl | ⟨hm, k, signal, rfl⟩
    · cases hx
      exact ⟨rfl, before, rfl, hbefore, rfl, (fun h => by cases h), .sleep, rfl, h.times⟩
    · cases hm

/-! ## What is running is quiet -/

/-- The line that says why there is no retry comes last, and does not end the drive by itself. -/
theorem quiet_of_stopping {f : Failure} {reason : Reason}
    (h : At m u n (.stopping f reason : Stage κ) T) : Quiet m u T := by
  intro q hq
  cases hx : q.fatal? m u with
  | none => rfl
  | some x =>
    have hclosing := h (.returned .none)
    obtain ⟨-, before, hends⟩ := hclosing.endsAt (List.mem_append_left _ hq) hx
    obtain ⟨-, hlast⟩ := List.append_inj' hends.last rfl
    cases hlast
    cases m <;> cases hx

theorem At.quiet {stage : Stage κ} (h : At m u n stage T) : Quiet m u T := by
  cases stage with
  | calling =>
    obtain rfl : T = [] := h
    exact nofun
  | attempting k hold =>
    obtain ⟨rfl, c, h⟩ := h
    exact h.quiet nofun
  | judging f => exact h.2.quiet
  | advancing f => exact Accepted.quiet h
  | stopping f reason => exact quiet_of_stopping h
  | scheduling f d => exact Advanced.quiet h
  | notifying f d => exact h.2.quiet
  | sleeping d =>
    obtain ⟨f, h⟩ := h
    exact h.quiet
  | dozing d k hold =>
    obtain ⟨rfl, c, h⟩ := h
    exact h.quiet nofun nofun

theorem Before.pos (h : Before m u n T) : 1 ≤ n := by
  cases h with
  | first => exact Nat.le_refl 1
  | next => omega

/-- Once an exchange that ends the drive has been taken down, the drive is over by it, and what has been taken
down is one whole cycle for each attempt before and the last cycle up to that exchange. -/
theorem Fits.over {l : Life κ} (h : Fits m u l T) {q : Exchange κ} (hq : q ∈ T) {x : Fault}
    (hx : q.fatal? m u = some x) : l = .done q.attempts (.raised x) ∧ ∃ past last before, T = past ++ last ∧
      Before m u q.attempts past ∧ EndsAt m u q.attempts last q before := by
  have hloud : ∀ {U : List (Exchange κ)}, Quiet m u U → q ∉ U := by
    intro U hU hmem
    rw [hU q hmem] at hx
    cases hx
  cases l with
  | fresh =>
    obtain rfl : T = [] := h
    cases hq
  | moved =>
    obtain rfl : T = [] := h
    cases hq
  | running k stage =>
    obtain ⟨past, last, rfl, hb, hat⟩ := h
    exact absurd hq (hloud (hb.quiet.append hat.quiet))
  | done k o =>
    obtain ⟨past, last, rfl, hb, hc⟩ := h
    rcases List.mem_append.mp hq with hq | hq
    · exact absurd hq (hloud hb.quiet)
    · obtain ⟨rfl, before, hends⟩ := hc.endsAt hq hx
      obtain rfl := hends.attempts
      exact ⟨rfl, past, last, before, rfl, hb, hends⟩

end Language

/-! ## Whole runs -/

/-- How often each duty has been asked for once the drive is over by an exchange. -/
theorem EndsAt.times {m : Mode} {u : Setup ι} {past last before : List (Exchange κ)} {q : Exchange κ}
    (h : EndsAt m u q.attempts last q before) (hb : Before m u q.attempts past) {part : Duty}
    (hpart : q.duty? = some part) (d : Duty) :
    d.times (past ++ last) = (q.attempts - 1) * u.share .sleep d + u.share part d := by
  obtain ⟨part', hpart', htimes⟩ := h.share
  obtain rfl : part = part' := Option.some.inj (hpart.symm.trans hpart')
  rw [Duty.times_append, hb.times, htimes]

namespace Engine

/-- A coroutine of an engine that is done changes nothing any more. -/
theorem nudge_of_done (w : World ι κ σ) (fuel : Nat) (p : Progress) (n : Nudge) {e : Engine ι κ} {k : Nat}
    {o : Outcome} (h : e.life = .done k o) (s : σ) :
    (nudge w fuel p n e s).engine = e ∧ (nudge w fuel p n e s).world = s := by
  unfold nudge
  cases hs : e.stir p n with
  | error o => exact ⟨rfl, rfl⟩
  | ok e' =>
    rcases stir_eq_ok hs with ⟨-, hl, -⟩ | ⟨-, rfl⟩
    · rw [h] at hl
      cases hl
    · have hwake : e.wake n.signal = e := by simp [wake, h]
      have hask : e.ask? = none := by simp [ask?, h]
      simp only [hwake, proceed, drive_of_ask_none w fuel s hask, and_self]

theorem foldl_urge_of_done (w : World ι κ σ) (qs : List (Nat × Nudge)) {t : Turn ι κ σ} {k : Nat} {o : Outcome}
    (h : t.engine.life = .done k o) :
    (qs.foldl (urge w) t).engine = t.engine ∧ (qs.foldl (urge w) t).world = t.world := by
  induction qs generalizing t with
  | nil => exact ⟨rfl, rfl⟩
  | cons p qs ih =>
    obtain ⟨hengine, hworld⟩ := nudge_of_done w p.1 t.progress p.2 h t.world
    have hlife : (urge w t p).engine.life = .done k o := by rw [urge, hengine, h]
    obtain ⟨hengine', hworld'⟩ := ih hlife
    exact ⟨hengine'.trans hengine, hworld'.trans hworld⟩

/-- A step that changes something and ends the drive comes to what the drive ends by. -/
theorem yield_of_over {w : World ι κ σ} {fuel : Nat} {p : Progress} {n : Nudge} {e : Engine ι κ} {s : σ}
    {k : Nat} {o : Outcome} (h : (nudge w fuel p n e s).engine.life = .done k o)
    (hs : (nudge w fuel p n e s).world ≠ s) : (nudge w fuel p n e s).yield = n.answer (.ended o) := by
  unfold nudge at h hs ⊢
  cases he : e.stir p n with
  | error o => simp [he] at hs
  | ok e' =>
    simp only [he] at h ⊢
    have hy : (proceed w fuel e' s).yield = (proceed w fuel e' s).engine.yielded := rfl
    rw [hy, yielded_of_over h]

/-- The one who takes the step in which a drive ends at once is told so. -/
theorem told_step_of_fatal (w : World ι κ σ) {m : Mode} {u : Setup ι} (qs : List (Nat × Nudge))
    {t : Turn ι κ (List (Exchange κ) × σ)} (h : Keeps m u t.engine t.world.1) (ht : Quiet m u t.world.1)
    {q : Exchange κ} (hq : q ∈ (qs.foldl (urge (recording w)) t).world.1) {x : Fault}
    (hx : q.fatal? m u = some x) : ∃ qs₁ p qs₂, qs = qs₁ ++ p :: qs₂ ∧
      Quiet m u (qs₁.foldl (urge (recording w)) t).world.1 ∧
      ((qs₁ ++ [p]).foldl (urge (recording w)) t).yield = p.2.answer (.ended (.raised x)) := by
  induction qs generalizing t with
  | nil =>
    rw [ht q hq] at hx
    cases hx
  | cons p qs ih =>
    have hkeeps : Keeps m u (urge (recording w) t p).engine (urge (recording w) t p).world.1 :=
      keeps_nudge w p.1 t.progress p.2 t.world.2 h
    by_cases hquiet : Quiet m u (urge (recording w) t p).world.1
    · obtain ⟨qs₁, p', qs₂, rfl, hbefore, hyield⟩ := ih hkeeps hquiet hq
      exact ⟨p :: qs₁, p', qs₂, rfl, hbefore, hyield⟩
    · refine ⟨[], p, qs, rfl, ht, ?_⟩
      obtain ⟨q', hq', hloud⟩ : ∃ q' ∈ (urge (recording w) t p).world.1, q'.fatal? m u ≠ none := by
        simpa [Quiet] using hquiet
      obtain ⟨x', hx'⟩ := Option.ne_none_iff_exists'.mp hloud
      obtain ⟨hover, -⟩ := hkeeps.2.2.over hq' hx'
      -- Nothing follows on the step in which the drive has ended.
      obtain ⟨-, hworld⟩ := foldl_urge_of_done (recording w) qs hover
      have hsame : x' = x := by
        have hq₁ : q ∈ (urge (recording w) t p).world.1 := by
          rw [← hworld]
          exact hq
        obtain ⟨hover', -⟩ := hkeeps.2.2.over hq₁ hx
        obtain ⟨-, ho⟩ := Life.done.inj (hover.symm.trans hover')
        exact Outcome.raised.inj ho
      subst hsame
      refine yield_of_over hover fun hsame => hquiet ?_
      rw [urge, hsame]
      exact ht

/-- A fault is as it is, but for the end of iteration that leaves a coroutine. -/
theorem leaving_eq (m : Mode) (x : Fault) : m.leaving x =
    if m = .cooperative ∧ x.isA .stopIteration then Fault.runtimeError "coroutine raised StopIteration" else x := by
  cases m with
  | blocking => simp [Mode.leaving]
  | cooperative =>
    simp only [Mode.leaving, Fault.leaving, true_and]
    rfl

/-- Once the judge, the cursor, the notifier or the sleeper has raised a fault in an attempt, and the cursor not
only to say that it is at its end, nothing is asked any more. The drive is over by that fault, and whoever took
the step is given it. The operation has been called once for each attempt, and the cursor advanced as often,
but for this attempt if it was the judge that raised. -/
theorem raised_fault_is_last (w : World ι κ σ) (mode : Mode) (setup : Setup ι) (s : σ) (qs : List (Nat × Nudge)) :
    let run := told (recording w) mode setup ([], s)
    ∀ q ∈ (run qs).world.1, ∀ x, q.fault? = some x →
      let y := if mode = .cooperative ∧ x.isA .stopIteration then
        Fault.runtimeError "coroutine raised StopIteration" else x
      (∃ before, (run qs).world.1 = before ++ [q] ∧ ∀ q' ∈ before, q'.fault? = none) ∧
      (run qs).engine = ⟨mode, setup, .done q.attempts (.raised y)⟩ ∧
      Duty.operate.times (run qs).world.1 = q.attempts ∧
      Duty.advance.times (run qs).world.1 = (if q.duty? = some .judge then q.attempts - 1 else q.attempts) ∧
      ∃ qs₁ p qs₂, qs = qs₁ ++ p :: qs₂ ∧ (∀ q' ∈ (run qs₁).world.1, q'.fault? = none) ∧
        (run (qs₁ ++ [p])).yield = p.2.answer (.ended (.raised y)) := by
  intro run q hq x hx y
  have hfatal : q.fatal? mode setup = some y := by
    rw [q.fatal?_of_fault hx, leaving_eq]
  have hkeeps : Keeps mode setup (run qs).engine (run qs).world.1 := keeps_told w qs _ ⟨rfl, rfl, rfl⟩
  obtain ⟨hmode, hsetup, hfits⟩ := hkeeps
  obtain ⟨hlife, past, last, before, hT, hb, hends⟩ := hfits.over hq hfatal
  obtain ⟨part, hpart, -⟩ := hends.share
  have htimes := hends.times hb hpart
  have hquiet : ∀ {U : List (Exchange κ)}, Quiet mode setup U → ∀ q' ∈ U, q'.fault? = none := by
    intro U hU q' hq'
    cases hx' : q'.fault? with
    | none => rfl
    | some x' =>
      have hloud := hU q' hq'
      rw [q'.fatal?_of_fault hx'] at hloud
      cases hloud
  have hpos := hb.pos
  refine ⟨⟨past ++ before, ?_, hquiet (hb.quiet.append hends.quiet)⟩, ?_, ?_, ?_, ?_⟩
  · rw [hT, hends.last, List.append_assoc]
  · rw [← hmode, ← hsetup, ← hlife]
  · rw [hT, htimes]
    simp [Setup.share, Setup.has, Duty.rank]
    omega
  · have hrank := q.rank_pos_of_fault hx hpart
    rw [hT, htimes, hpart]
    cases part with
    | operate => cases hrank
    | judge => simp [Setup.share, Setup.has, Duty.rank]
    | _ =>
      simp [Setup.share, Setup.has, Duty.rank]
      omega
  · obtain ⟨qs₁, p, qs₂, hqs, hbefore, hyield⟩ := told_step_of_fatal w qs
      (t := ⟨.suspended, .unstarted, make mode setup, [], s⟩) ⟨rfl, rfl, rfl⟩ (by simp [Quiet]) hq hfatal
    exact ⟨qs₁, p, qs₂, hqs, hquiet hbefore, hyield⟩

/-- An operation that is always busy, with a judge that is so as well when it is asked for the second time. -/
def fickle : World Unit Unit Unit := fun e a s =>
  (match a with
    | .invoke => .raised (Fault.valueError "busy")
    | .judge _ => if e.attempts = 2 then .raised (Fault.valueError "busy") else .returned (.bool true)
    | .advance => .returned (.int 2)
    | _ => .returned .none, s)

/-- The judge is not asked about its own fault, and there is no third attempt. -/
theorem fickle_judge_is_last :
    let run := told (recording fickle) .cooperative ⟨default, (), (), some (), none, none⟩ ([], ())
    ∃ q ∈ (run [(20, .send)]).world.1, q.fault? = some (Fault.valueError "busy") ∧
      (∃ before, (run [(20, .send)]).world.1 = before ++ [q]) ∧
      (run [(20, .send)]).engine.life = .done 2 (.raised (Fault.valueError "busy")) ∧
      Duty.advance.times (run [(20, .send)]).world.1 = 1 := by
  intro run
  have hq : (run [(20, .send)]).world.1[6]? = some
      ⟨.executing, 2, .judge (.fault (Fault.valueError "busy")), .raised (Fault.valueError "busy")⟩ := rfl
  obtain ⟨⟨before, hlast, -⟩, hengine, -, hadvance, -⟩ := raised_fault_is_last fickle .cooperative
    ⟨default, (), (), some (), none, none⟩ () [(20, .send)] _ (List.mem_of_getElem? hq) _ rfl
  exact ⟨_, List.mem_of_getElem? hq, rfl, ⟨before, hlast⟩, congrArg Engine.life hengine, hadvance⟩

end Engine

end Reattempt
