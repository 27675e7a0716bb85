import Reattempt.Engine.Handover
import Reattempt.Proofs.Finality

/-!
# A blocking engine never waits for what is pending

Whatever its operation or its sleeper hands back pending ends the drive of a blocking engine at once, by a
complaint or by the fault that closing it has raised. Neither is a failure of the operation: nobody is asked about
it, and there is no further attempt. What was handed back has been refused in the state that the drive leaves
behind.
-/
namespace Reattempt

variable {ι κ σ : Type}

namespace Engine

/-- What was taken down last has left the surroundings as they are. -/
theorem drive_recording_last (w : World ι κ σ) (fuel : Nat) (e : Engine ι κ) (T : List (Exchange κ)) (s : σ) :
    (drive (recording w) fuel e (T, s)).2 = (T, s) ∨
      ∃ before q e' s', (drive (recording w) fuel e (T, s)).2.1 = before ++ [q] ∧ e'.mode = e.mode ∧
        w e' q.ask s' = (q.reply, (drive (recording w) fuel e (T, s)).2.2) := by
  induction fuel generalizing e T s with
  | zero => exact .inl rfl
  | succ fuel ih =>
    cases ha : e.ask? with
    | none =>
      rw [drive_of_ask_none _ _ _ ha]
      exact .inl rfl
    | some a =>
      let q : Exchange κ := ⟨e.phase, e.attempts, a, (w e a s).1⟩
      have hstep : drive (recording w) (fuel + 1) e (T, s) =
          drive (recording w) fuel (e.reply (w e a s).1) (T ++ [q], (w e a s).2) := drive_succ _ _ _ ha
      rw [hstep]
      rcases ih (e.reply (w e a s).1) (T ++ [q]) (w e a s).2 with hsame | ⟨before, q', e', s', hlast, hm, hw⟩
      · exact .inr ⟨T, q, e, s, by rw [hsame], rfl, by rw [hsame]⟩
      · exact .inr ⟨before, q', e', s', hlast, by rw [hm, mode_reply], hw⟩

end Engine

/-- How a drive is left that was ended by something pending, where closing that has raised `closing`. -/
structure Refused (w : World ι Nat (List Handed × σ)) (u : Setup ι) (q : Exchange Nat) (k : Nat)
    (closing : Option Fault) (complaint : Fault) (t : Turn ι Nat (List (Exchange Nat) × List Handed × σ)) : Prop where
  cls : complaint.cls = .typeError
  told : t.yield = .ended (.raised (closing.getD complaint))
  finished : t.progress = .finished
  spent : t.engine = ⟨.blocking, u, .done q.attempts (.raised (closing.getD complaint))⟩
  idle : t.engine.isDone ∧ t.engine.phase = .idle
  last : ∃ before, t.world.1 = before ++ [q]
  /-- The hall is as it was when the coroutine was handed over, but for that coroutine, which is refused. -/
  closed : ∃ e s closing' hall, w e q.ask s = (.pending k closing', hall, t.world.2.2) ∧
    t.world.2.1 = (hall.modify k fun c => c.refuse.2) ∧ closing = (hall[k]?.bind fun c => c.refuse.1) ∧
    ∀ c, hall[k]? = some c → ∃ c', t.world.2.1[k]? = some c' ∧ c.Became closing c'

namespace Exchange

variable {q : Exchange Nat} {u : Setup ι} {x : Fault}

/-- It is the operation or the sleeper that is refused. -/
theorem refuses_of_refused (h : q.refused? u = some x) {e : Engine ι Nat} (hm : e.mode = .blocking) :
    e.refuses q.ask := by
  obtain ⟨phase, n, a, r⟩ := q
  cases a <;> cases r <;> cases h <;> simp [Engine.refuses, hm]

end Exchange

namespace Engine

/-- What was handed back last has been refused in what a call leaves behind. -/
theorem refused_of_last (w : World ι Nat (List Handed × σ)) (setup : Setup ι) (fuel : Nat) (s : List Handed × σ)
    {t : Turn ι Nat (List (Exchange Nat) × List Handed × σ)}
    (ht : call (recording w.refusing) fuel (make .blocking setup) ([], s) = t) {before : List (Exchange Nat)}
    {q : Exchange Nat} (hlast : t.world.1 = before ++ [q]) {k : Nat} {closing : Option Fault}
    (hk : q.reply = .pending k closing) {x : Fault} (hx : q.refused? setup = some x) :
    ∃ e s' closing' hall, w e q.ask s' = (.pending k closing', hall, t.world.2.2) ∧
      closing = (hall[k]?.bind fun c => c.refuse.1) ∧ t.world.2.1 = hall.modify k fun c => c.refuse.2 := by
  have hworld : t.world = (drive (recording w.refusing) fuel ⟨.blocking, setup, .running 1 .calling⟩ ([], s)).2 := by
    rw [← ht]
    rfl
  rcases drive_recording_last w.refusing fuel ⟨.blocking, setup, .running 1 .calling⟩ [] s with
    hsame | ⟨before', q', e, s', hlast', hm, hw⟩
  · rw [hworld, hsame] at hlast
    simp at hlast
  · rw [← hworld] at hlast' hw
    obtain ⟨-, hsame⟩ := List.append_inj' (hlast.symm.trans hlast') rfl
    cases hsame
    rw [hk] at hw
    obtain ⟨closing', hall, h⟩ := World.refusing_eq_pending (Exchange.refuses_of_refused hx hm) hw
    exact ⟨e, s', closing', hall, h⟩

/-- Whatever is refused comes last, and ends the call. -/
theorem refused_of_mem (w : World ι Nat (List Handed × σ)) (setup : Setup ι) (fuel : Nat) (s : List Handed × σ)
    {t : Turn ι Nat (List (Exchange Nat) × List Handed × σ)}
    (ht : call (recording w.refusing) fuel (make .blocking setup) ([], s) = t) {q : Exchange Nat}
    (hq : q ∈ t.world.1) {k : Nat} {closing : Option Fault} (hk : q.reply = .pending k closing) {complaint : Fault}
    (hcls : complaint.cls = .typeError) (hx : q.refused? setup = some (closing.getD complaint)) :
    Refused w setup q k closing complaint t ∧ ∃ past last before, t.world.1 = past ++ last ∧
      Before .blocking setup q.attempts past ∧ EndsAt .blocking setup q.attempts last q before := by
  have hkeeps : Keeps .blocking setup t.engine t.world.1 := by
    rw [← ht]
    exact keeps_nudge w.refusing fuel .unstarted .send s ⟨rfl, rfl, rfl⟩
  obtain ⟨hmode, hsetup, hfits⟩ := hkeeps
  obtain ⟨hlife, past, last, before, hT, hb, hends⟩ := hfits.over hq (q.fatal?_of_refused hx)
  have hlast : t.world.1 = (past ++ before) ++ [q] := by rw [hT, hends.last, List.append_assoc]
  have hengine : t.engine = ⟨.blocking, setup, .done q.attempts (.raised (closing.getD complaint))⟩ := by
    rw [← hmode, ← hsetup, ← hlife]
  have hyielded : t.engine.yielded = .ended (.raised (closing.getD complaint)) := yielded_of_over hlife
  have hyield : t.yield = t.engine.yielded ∧ t.progress = t.engine.yielded.progress := by
    rw [← ht]
    exact ⟨rfl, rfl⟩
  obtain ⟨e, s', closing', hall, hw, hclosing, hhall⟩ := refused_of_last w setup fuel s ht hlast hk hx
  refine ⟨⟨hcls, hyield.1.trans hyielded, ?_, hengine, ?_, ⟨_, hlast⟩, e, s', closing', hall, hw, hhall, hclosing,
    ?_⟩, past, last, before, hT, hb, hends⟩
  · rw [hyield.2, hyielded]
    rfl
  · rw [hengine]
    exact ⟨rfl, rfl⟩
  · intro c hc
    refine ⟨c.refuse.2, ?_, ?_⟩
    · rw [hhall, List.getElem?_modify_eq, hc]
      rfl
    · rw [hclosing, hc]
      exact c.became_refuse

/-- A call of a blocking engine ends with the first thing that its operation or its sleeper hands back pending.
An operation that does so in the `i`-th attempt has been called `i` times, and in that attempt nobody else is
asked. With a sleeper that does so the `i`-th attempt has failed like those before, so that the cursor has been
advanced `i` times and the notifier told as often, if there is one. A coroutine that was handed back is closed.
The complaint is what the call ends by, unless closing has raised a fault, which then is. Whichever it is, the
judge is not asked about it. One that has only been created raises none, and its body does not run. -/
theorem pending_is_refused_at_once (w : World ι Nat (List Handed × σ)) (setup : Setup ι) (fuel : Nat)
    (s : List Handed × σ) :
    let t := call (recording w.refusing) fuel (make .blocking setup) ([], s)
    ∀ q ∈ t.world.1, ∀ k closing, q.reply = .pending k closing →
      (q.ask = .invoke → Refused w setup q k closing setup.refusedOperation t ∧
        (∃ past, Before .blocking setup q.attempts past ∧ t.world.1 = past ++ [q]) ∧
        ∀ d : Duty, d.times t.world.1 =
          if d = .operate then q.attempts else if setup.has d then q.attempts - 1 else 0) ∧
      ∀ v, q.ask = .sleep v → Refused w setup q k closing setup.refusedSleeper t ∧
        ∀ d : Duty, d.times t.world.1 = if setup.has d then q.attempts else 0 := by
  intro t q hq k closing hk
  constructor
  · intro ha
    have hx : q.refused? setup = some (closing.getD setup.refusedOperation) := by
      simp only [Exchange.refused?, ha, hk]
    obtain ⟨hrefused, past, last, before, hT, hb, hends⟩ := refused_of_mem w setup fuel s rfl hq hk rfl hx
    have hpart : q.duty? = some .operate := by simp only [Exchange.duty?, ha, Ask.duty?]
    refine ⟨hrefused, ⟨past, hb, ?_⟩, fun d => ?_⟩
    · rw [hT, hends.last, hends.first ha]
      rfl
    · rw [hT, hends.times hb hpart, setup.share_sleep, setup.share_operate]
      by_cases hd : d = .operate
      · have hone : q.attempts - 1 + 1 = q.attempts := Nat.sub_add_cancel hb.pos
        simp [hd, Setup.has, hone]
      · simp only [if_neg hd, Nat.add_zero]
        split <;> simp
  · intro v ha
    have hx : q.refused? setup = some (closing.getD setup.refusedSleeper) := by
      simp only [Exchange.refused?, ha, hk]
    obtain ⟨hrefused, past, last, before, hT, hb, hends⟩ := refused_of_mem w setup fuel s rfl hq hk rfl hx
    have hpart : q.duty? = some .sleep := by simp only [Exchange.duty?, ha, Ask.duty?]
    refine ⟨hrefused, fun d => ?_⟩
    have hone : q.attempts - 1 + 1 = q.attempts := Nat.sub_add_cancel hb.pos
    rw [hT, hends.times hb hpart, setup.share_sleep]
    split
    · rw [Nat.mul_one, hone]
    · rfl

/-- An operation that fails when it is first called and hands back `c` ever after, with a judge that accepts
everything and a cursor that is never at its end. -/
def turning (c : Handed) : World Unit Nat (List Handed × Unit) := fun e a s =>
  match a with
  | .invoke =>
    if e.attempts = 1 then (.raised (Fault.typeError "not yet"), s)
    else (.pending s.1.length none, s.1 ++ [c], ())
  | .judge _ => (.returned (.bool true), s)
  | .advance => (.returned (.int 2), s)
  | _ => (.returned .none, s)

/-- A coroutine with a body that raises when it is to end, if it has begun. -/
def unbegun : Handed := ⟨true, .created, 0, fun _ => .ended (.raised (Fault.valueError "cleanup")), fun _ => rfl⟩

def begun : Handed := ⟨true, .suspended, 1, fun _ => .ended (.raised (Fault.valueError "cleanup")), nofun⟩

/-- The coroutine of the second attempt is closed, and there is no third attempt. -/
theorem turning_is_refused_at_once :
    let u : Setup Unit := ⟨default, (), (), some (), some (), none⟩
    let t := call (recording (turning unbegun).refusing) 20 (make .blocking u) ([], [], ())
    ∃ q ∈ t.world.1, q.ask = .invoke ∧ q.reply = .pending 0 none ∧
      t.yield = .ended (.raised u.refusedOperation) ∧
      Duty.operate.times t.world.1 = 2 ∧ Duty.judge.times t.world.1 = 1 ∧
      ∃ c, t.world.2.1[0]? = some c ∧ c.standing = .closed ∧ c.runs = 0 := by
  intro u t
  have hq : t.world.1[6]? = some ⟨.executing, 2, .invoke, .pending 0 none⟩ := rfl
  obtain ⟨hrefused, -, htimes⟩ := (pending_is_refused_at_once (turning unbegun) u 20 ([], ()) _
    (List.mem_of_getElem? hq) 0 none rfl).1 rfl
  exact ⟨_, List.mem_of_getElem? hq, rfl, rfl, hrefused.told, htimes .operate, htimes .judge, _, rfl, rfl, rfl⟩

/-- An operation that is always busy, with a cursor that is never at its end and a sleeper that hands back `c`. -/
def drowsy (c : Handed) : World Unit Nat (List Handed × Unit) := fun _ a s =>
  match a with
  | .invoke => (.raised (Fault.valueError "busy"), s)
  | .advance => (.returned (.int 2), s)
  | .sleep _ => (.pending s.1.length none, s.1 ++ [c], ())
  | _ => (.returned .none, s)

/-- A coroutine that has begun may raise when it is closed, and then there is no complaint. Where there is no
notifier, a sleeper is refused without a notice. -/
theorem refusal_need_not_complain :
    let u : Setup Unit := ⟨default, (), (), none, none, some default⟩
    let t := call (recording (turning begun).refusing) 20 (make .blocking u) ([], [], ())
    let t' := call (recording (drowsy unbegun).refusing) 20 (make .blocking u) ([], [], ())
    t.yield = .ended (.raised (Fault.valueError "cleanup")) ∧ t'.yield = .ended (.raised u.refusedSleeper) ∧
      Duty.operate.times t'.world.1 = 1 ∧ Duty.advance.times t'.world.1 = 1 ∧ Duty.notify.times t'.world.1 = 0 :=
  ⟨rfl, rfl, rfl, rfl, rfl⟩

end Engine

end Reattempt
