import Reattempt.Engine.Coroutine
import Reattempt.Engine.Options

/-!
# Families of engines

An engine and all that were reconfigured from it, with the coroutines obtained from them. Anyone may
make a move at any time, a collaborator too while it is asked: drives that are under way are nested,
and a reply goes to the innermost. Coroutines are driven as `nudge` drives one that nobody interferes
with.
-/
namespace Reattempt

/-- A change of one collaborator; none restores its default. -/
inductive Setup.Change (ι : Type) where
  | judge (judge : Option ι)
  | notifier (notifier : Option ι)
  | sleeper (sleeper : Option (Party ι))

def Setup.Change.apply {ι : Type} : Setup.Change ι → Setup ι → Setup ι
  | .judge j => Setup.withJudge j
  | .notifier n => Setup.withNotifier n
  | .sleeper s => Setup.withSleeper s

/-- Whether the operation is called. -/
def Ask.isInvoke {κ : Type} : Ask κ → Bool
  | .invoke => true
  | _ => false

namespace Family

/-- A coroutine of the `engine`-th engine. -/
structure Coroutine where
  engine : Nat
  progress : Progress
  deriving DecidableEq, Repr, Inhabited

/-- A drive that waits for a reply: a call, or a step of a coroutine. -/
structure Drive where
  engine : Nat
  coroutine : Option Nat
  nudge : Nudge
  deriving Inhabited

inductive Move (ι κ : Type) where
  | reconfigure (engine : Nat) (change : Setup.Change ι)
  | call (engine : Nat)
  | run (engine : Nat)
  | nudge (coroutine : Nat) (n : Nudge)
  | reply (r : Reply κ)

/-- What a move comes to for the one who makes it. -/
inductive Answer (κ : Type) where
  | refused (x : Fault)
  | engine (i : Nat)
  | coroutine (k : Nat)
  /-- A collaborator is asked, and the answer has to wait. -/
  | asked (a : Ask κ)
  | came (y : Yield)
  /-- There is no such engine, no such coroutine, or nobody who waits for a reply. -/
  | nothing

/-- The fault that the one who makes a move is given. -/
def Answer.fault? {κ : Type} : Answer κ → Option Fault
  | .refused x => some x
  | .came (.ended (.raised x)) => some x
  | _ => none

end Family

structure Family (ι κ : Type) where
  /-- In the order of their creation. -/
  engines : List (Engine ι κ)
  coroutines : List Family.Coroutine
  /-- The innermost first. -/
  drives : List Family.Drive
  /-- What has been asked, and by which engine. -/
  asked : List (Nat × Ask κ)

namespace Family

variable {ι κ : Type}

/-- A family of one fresh engine. -/
def found (mode : Mode) (setup : Setup ι) : Family ι κ := ⟨[Engine.make mode setup], [], [], []⟩

/-- Takes down how far a coroutine is. -/
def noted (p : Progress) : Option Nat → List Coroutine → List Coroutine
  | none, cs => cs
  | some k, cs => cs.modify k fun c => { c with progress := p }

/-- A drive goes on with its engine: it asks what is to be asked next, or is parked or done. -/
def proceed (v : Drive) (e : Engine ι κ) (f : Family ι κ) : Answer κ × Family ι κ :=
  match e.ask? with
  | some a => (.asked a, ⟨f.engines.set v.engine e, noted .driving v.coroutine f.coroutines,
      v :: f.drives, f.asked ++ [(v.engine, a)]⟩)
  | none => (.came (v.nudge.answer e.yielded), ⟨f.engines.set v.engine e,
      noted e.yielded.progress v.coroutine f.coroutines, f.drives, f.asked⟩)

/-- Takes a step with an engine. -/
def stir (v : Drive) (p : Progress) (e : Engine ι κ) (f : Family ι κ) : Answer κ × Family ι κ :=
  match e.stir p v.nudge with
  | .error o => (.came (.ended o), { f with coroutines := noted .finished v.coroutine f.coroutines })
  | .ok e => f.proceed v e

def executing : Fault := Fault.valueError "coroutine already executing"

def step (f : Family ι κ) : Move ι κ → Answer κ × Family ι κ
  | .reconfigure i change =>
    match f.engines[i]? with
    | none => (.nothing, f)
    | some e =>
      match e.reconfigure change.apply with
      | .error x => (.refused x, f)
      | .ok (moved, successor) =>
        (.engine f.engines.length, { f with engines := f.engines.set i moved ++ [successor] })
  | .call i =>
    match f.engines[i]? with
    | none => (.nothing, f)
    | some e =>
      match e.mode with
      | .blocking => f.stir ⟨i, none, .send⟩ .unstarted e
      | .cooperative => (.refused (Fault.lacking e.title "call"), f)
  | .run i =>
    match f.engines[i]? with
    | none => (.nothing, f)
    | some e =>
      match e.mode, e.ensureFresh with
      | .blocking, _ => (.refused (Fault.lacking e.title "run"), f)
      | .cooperative, .error x => (.refused x, f)
      | .cooperative, .ok () =>
        (.coroutine f.coroutines.length, { f with coroutines := f.coroutines ++ [⟨i, .unstarted⟩] })
  | .nudge k n =>
    match f.coroutines[k]? with
    | none => (.nothing, f)
    | some c =>
      if f.drives.any fun v => v.coroutine == some k then (.refused executing, f)
      else
        match f.engines[c.engine]? with
        | none => (.nothing, f)
        | some e => f.stir ⟨c.engine, some k, n⟩ c.progress e
  | .reply r =>
    match f.drives with
    | [] => (.nothing, f)
    | v :: vs =>
      match f.engines[v.engine]? with
      | none => (.nothing, f)
      | some e => { f with drives := vs }.proceed v (e.reply r)

/-- One move after another. -/
def run (f : Family ι κ) : List (Move ι κ) → Family ι κ
  | [] => f
  | m :: ms => (f.step m).2.run ms

@[simp] theorem run_nil (f : Family ι κ) : f.run [] = f := rfl

@[simp] theorem run_cons (f : Family ι κ) (m : Move ι κ) (ms : List (Move ι κ)) :
    f.run (m :: ms) = (f.step m).2.run ms := rfl

/-- What the moves come to, one after another. -/
def answers (f : Family ι κ) : List (Move ι κ) → List (Answer κ)
  | [] => []
  | m :: ms => (f.step m).1 :: (f.step m).2.answers ms

@[simp] theorem answers_nil (f : Family ι κ) : f.answers [] = [] := rfl

@[simp] theorem answers_cons (f : Family ι κ) (m : Move ι κ) (ms : List (Move ι κ)) :
    f.answers (m :: ms) = (f.step m).1 :: (f.step m).2.answers ms := rfl

/-- How often the operation has been called. -/
def invocations (f : Family ι κ) : Nat := f.asked.countP fun q => q.2.isInvoke

theorem getElem?_noted (p : Progress) (coroutine : Option Nat) (cs : List Coroutine) (k : Nat) :
    (noted p coroutine cs)[k]? =
      cs[k]?.map fun c => if coroutine = some k then { c with progress := p } else c := by
  cases coroutine with
  | none => simp [noted]
  | some j => by_cases h : j = k <;> simp [noted, h]

/-- Only the last note counts. -/
theorem noted_noted (p p' : Progress) (coroutine : Option Nat) (cs : List Coroutine) :
    noted p coroutine (noted p' coroutine cs) = noted p coroutine cs := by
  apply List.ext_getElem?
  intro k
  simp only [getElem?_noted, Option.map_map]
  congr 1
  funext c
  by_cases h : coroutine = some k <;> simp [h]

theorem proceed_of_ask_none (v : Drive) {e : Engine ι κ} (f : Family ι κ) (h : e.ask? = none) :
    f.proceed v e = (.came (v.nudge.answer e.yielded), ⟨f.engines.set v.engine e,
      noted e.yielded.progress v.coroutine f.coroutines, f.drives, f.asked⟩) := by
  simp only [proceed, h]

theorem proceed_of_ask (v : Drive) {e : Engine ι κ} (f : Family ι κ) {a : Ask κ} (h : e.ask? = some a) :
    f.proceed v e = (.asked a, ⟨f.engines.set v.engine e, noted .driving v.coroutine f.coroutines,
      v :: f.drives, f.asked ++ [(v.engine, a)]⟩) := by
  simp only [proceed, h]

/-! ## A drive that nobody interferes with -/

/-- Replies to whatever is asked, for as long as something is, or at most so many times. -/
def attend {σ : Type} (w : World ι κ σ) : Nat → Family ι κ → σ → Family ι κ × σ
  | 0, f, s => (f, s)
  | n + 1, f, s =>
    match f.drives with
    | [] => (f, s)
    | v :: _ =>
      match f.engines[v.engine]? with
      | none => (f, s)
      | some e =>
        match e.ask? with
        | none => (f, s)
        | some a => attend w n (f.step (.reply (w e a s).1)).2 (w e a s).2

/-- It is the drive of its engine alone. -/
theorem attend_proceed {σ : Type} (w : World ι κ σ) (fuel : Nat) {f : Family ι κ} (v : Drive)
    (e : Engine ι κ) (s : σ) (hv : v.engine < f.engines.length) (hd : f.drives = []) :
    ((f.proceed v e).2.attend w fuel s).1.engines = f.engines.set v.engine (Engine.drive w fuel e s).1 ∧
      ((f.proceed v e).2.attend w fuel s).1.coroutines =
        noted (Engine.drive w fuel e s).1.yielded.progress v.coroutine f.coroutines ∧
      ((f.proceed v e).2.attend w fuel s).2 = (Engine.drive w fuel e s).2 := by
  induction fuel generalizing f e s with
  | zero =>
    cases ha : e.ask? with
    | none =>
      rw [proceed_of_ask_none v f ha]
      exact ⟨rfl, rfl, rfl⟩
    | some a =>
      have hy : e.yielded = .suspended := by
        cases hl : e.life with
        | running n stage => simp [Engine.yielded, Engine.outcome?, hl]
        | _ => simp [Engine.ask?, hl] at ha
      rw [proceed_of_ask v f ha]
      exact ⟨rfl, by simp [attend, hy, Yield.progress], rfl⟩
  | succ fuel ih =>
    cases ha : e.ask? with
    | none =>
      rw [proceed_of_ask_none v f ha, Engine.drive_of_ask_none w _ s ha]
      simp only [attend, hd, and_self]
    | some a =>
      have hget : (f.engines.set v.engine e)[v.engine]? = some e := by simp [hv]
      rw [Engine.drive_succ w fuel s ha, proceed_of_ask v f ha]
      simp only [attend, hget, ha, step, hd]
      obtain ⟨hengines, hcoroutines, hworld⟩ := ih
        (f := ⟨f.engines.set v.engine e, noted .driving v.coroutine f.coroutines, [],
          f.asked ++ [(v.engine, a)]⟩) (e.reply (w e a s).1) (w e a s).2 (by simpa using hv) rfl
      exact ⟨by simpa using hengines, by rw [hcoroutines, noted_noted], hworld⟩

/-- A step of a coroutine that nobody interferes with is a step of its engine alone. -/
theorem attend_nudge {σ : Type} (w : World ι κ σ) (fuel : Nat) {f : Family ι κ} {k : Nat} {c : Coroutine}
    {e : Engine ι κ} (n : Nudge) (s : σ) (hc : f.coroutines[k]? = some c)
    (he : f.engines[c.engine]? = some e) (hd : f.drives = []) :
    ((f.step (.nudge k n)).2.attend w fuel s).1.engines =
        f.engines.set c.engine (Engine.nudge w fuel c.progress n e s).engine ∧
      ((f.step (.nudge k n)).2.attend w fuel s).1.coroutines =
        noted (Engine.nudge w fuel c.progress n e s).progress (some k) f.coroutines ∧
      ((f.step (.nudge k n)).2.attend w fuel s).2 = (Engine.nudge w fuel c.progress n e s).world := by
  obtain ⟨hlt, hget⟩ := List.getElem?_eq_some_iff.mp he
  have hstep : f.step (.nudge k n) = f.stir ⟨c.engine, some k, n⟩ c.progress e := by
    simp only [step, hc, hd, List.any_nil, Bool.false_eq_true, if_false, he]
  rw [hstep, stir, Engine.nudge]
  cases e.stir c.progress n with
  | error o =>
    have hset : f.engines.set c.engine e = f.engines := by rw [← hget, List.set_getElem_self]
    cases fuel <;> simp only [attend, hd, hset, and_self]
  | ok e' => exact attend_proceed w fuel ⟨c.engine, some k, n⟩ e' s hlt hd

end Family

end Reattempt
