import Reattempt.Proofs.Numbering
import Reattempt.Proofs.Ownership

/-!
# Chains of reconfigurations

Each change of a chain is for the engine that the one before has made. The last of these engines has what the chain
has set last of each collaborator, and all else from the engine that the chain began with. Nobody is asked
meanwhile. So chains that set the same last are as good as each other, in whatever order and however often: whatever
is done afterwards comes to the same, but for the numbers of the engines.
-/
namespace Reattempt

variable {ι κ : Type}

namespace Setup

namespace Change

/-! ## What is set last -/

def judge? : Change ι → Option (Option ι)
  | .judge j => some j
  | _ => none

def notifier? : Change ι → Option (Option ι)
  | .notifier n => some n
  | _ => none

def sleeper? : Change ι → Option (Option (Party ι))
  | .sleeper s => some s
  | _ => none

/-- What is set last of a collaborator, if anything is; none is its default. -/
def lastly {α : Type} (slot : Change ι → Option α) (cs : List (Change ι)) : Option α := (cs.filterMap slot).getLast?

theorem lastly_cons {α : Type} (slot : Change ι → Option α) (c : Change ι) (cs : List (Change ι)) :
    lastly slot (c :: cs) = (lastly slot cs).or (slot c) := by
  cases hc : slot c with
  | none => simp [lastly, hc]
  | some a => cases hl : (cs.filterMap slot).getLast? <;> simp [lastly, hc, hl, List.getLast?_cons]

/-- A change is of one of the three. -/
theorem eq_nil_of_lastly {cs : List (Change ι)} (hj : lastly judge? cs = none) (hn : lastly notifier? cs = none)
    (hs : lastly sleeper? cs = none) : cs = [] := by
  cases cs with
  | nil => rfl
  | cons c cs =>
    rw [lastly_cons, Option.or_eq_none_iff] at hj hn hs
    cases c with
    | judge j => cases hj.2
    | notifier n => cases hn.2
    | sleeper s => cases hs.2

end Change

open Change

/-- A setup with what is set last of each collaborator; what is never set stays. -/
def settled (u : Setup ι) (cs : List (Change ι)) : Setup ι :=
  { u with
    judge := (lastly judge? cs).getD u.judge
    notifier := (lastly notifier? cs).getD u.notifier
    sleeper := (lastly sleeper? cs).getD u.sleeper }

theorem settled_cons (u : Setup ι) (c : Change ι) (cs : List (Change ι)) :
    u.settled (c :: cs) = (c.apply u).settled cs := by
  have hor : ∀ {α : Type} (a b : Option α) (x : α), (a.or b).getD x = a.getD (b.getD x) := by
    intro α a b x
    cases a <;> rfl
  simp only [settled, lastly_cons, hor]
  cases c <;> rfl

end Setup

namespace Family

open Engine Setup.Change

/-- The first change of a chain is for the `i`-th engine, and each other for the one that the change before has
made, the first of which is the `n`-th. -/
def chain (i n : Nat) : List (Setup.Change ι) → List (Move ι κ)
  | [] => []
  | c :: cs => .reconfigure i c :: chain n (n + 1) cs

/-- The `i`-th engine hands over to one with another setup. -/
def handedOver (f : Family ι κ) (i : Nat) (e : Engine ι κ) (u : Setup ι) : Family ι κ :=
  { f with engines := f.engines.set i { e with life := .moved } ++ [{ e with setup := u }] }

section HandedOver

variable (f : Family ι κ) (i : Nat) (e : Engine ι κ) (u : Setup ι)

@[simp] theorem length_handedOver : (f.handedOver i e u).engines.length = f.engines.length + 1 := by
  simp [handedOver]

@[simp] theorem getElem?_handedOver :
    (f.handedOver i e u).engines[f.engines.length]? = some { e with setup := u } := by
  simp [handedOver]

end HandedOver

section Links

variable {f : Family ι κ} {i : Nat} {e : Engine ι κ}

theorem step_reconfigure (he : f.engines[i]? = some e) (hl : e.life = .fresh) (c : Setup.Change ι) :
    f.step (.reconfigure i c) = (.engine f.engines.length, f.handedOver i e (c.apply e.setup)) := by
  have hr : e.reconfigure c.apply = .ok ({ e with life := .moved }, { e with setup := c.apply e.setup }) := by
    simp only [reconfigure, hl]
  simp only [step, he, hr, handedOver]

/-- Each link succeeds. -/
theorem answers_chain (he : f.engines[i]? = some e) (hl : e.life = .fresh) (cs : List (Setup.Change ι)) :
    f.answers (chain i f.engines.length cs) = (List.range' f.engines.length cs.length).map .engine := by
  induction cs generalizing f i e with
  | nil => rfl
  | cons c cs ih =>
    have hrest := ih (getElem?_handedOver f i e (c.apply e.setup)) hl
    rw [length_handedOver] at hrest
    rw [chain, answers_cons, step_reconfigure he hl, hrest]
    rfl

/-- The engines between the first and the last of a chain have moved. -/
theorem run_chain (he : f.engines[i]? = some e) (hl : e.life = .fresh) (c : Setup.Change ι)
    (cs : List (Setup.Change ι)) :
    ∃ middle : List (Engine ι κ), middle.length = cs.length ∧ (∀ x ∈ middle, x.life = .moved) ∧
      f.run (chain i f.engines.length (c :: cs)) = { f with engines := f.engines.set i { e with life := .moved } ++
        middle ++ [{ e with setup := e.setup.settled (c :: cs) }] } := by
  induction cs generalizing f i e c with
  | nil =>
    refine ⟨[], rfl, nofun, ?_⟩
    rw [chain, run_cons, step_reconfigure he hl, Setup.settled_cons, List.append_nil]
    rfl
  | cons c' cs ih =>
    obtain ⟨middle, hcount, hmoved, hrun⟩ := ih (getElem?_handedOver f i e (c.apply e.setup)) hl c'
    rw [length_handedOver] at hrun
    refine ⟨⟨e.mode, c.apply e.setup, .moved⟩ :: middle, by rw [List.length_cons, hcount, List.length_cons], ?_, ?_⟩
    · intro x hx
      rcases List.mem_cons.mp hx with rfl | hx
      · rfl
      · exact hmoved x hx
    · rw [chain, run_cons, step_reconfigure he hl, hrun, Setup.settled_cons e.setup]
      simp [handedOver]

end Links

/-! ## A chain is as good as one change -/

/-- The family in which the last engine of a chain is made in one go. -/
def onward (f : Family ι κ) (i : Nat) (e : Engine ι κ) (cs : List (Setup.Change ι)) : Family ι κ :=
  if cs = [] then f else f.handedOver i e (e.setup.settled cs)

/-- Only what is set last makes a difference. -/
theorem onward_congr (f : Family ι κ) (i : Nat) (e : Engine ι κ) {cs cs' : List (Setup.Change ι)}
    (hj : lastly judge? cs' = lastly judge? cs) (hn : lastly notifier? cs' = lastly notifier? cs)
    (hs : lastly sleeper? cs' = lastly sleeper? cs) : f.onward i e cs' = f.onward i e cs := by
  have hsettled : e.setup.settled cs' = e.setup.settled cs := by simp only [Setup.settled, hj, hn, hs]
  have hnil : cs' = [] ↔ cs = [] := by
    constructor
    · rintro rfl
      exact eq_nil_of_lastly hj.symm hn.symm hs.symm
    · rintro rfl
      exact eq_nil_of_lastly hj hn hs
  simp only [onward, hsettled, hnil]

theorem getElem?_onward {f : Family ι κ} {i : Nat} {e : Engine ι κ} (he : f.engines[i]? = some e)
    (cs : List (Setup.Change ι)) :
    (f.onward i e cs).engines[if cs = [] then i else f.engines.length]? =
      some { e with setup := e.setup.settled cs } := by
  cases cs with
  | nil => exact he
  | cons c cs => exact getElem?_handedOver f i e _

section Chain

variable {mode : Mode} {setup : Setup ι} {ms₀ : List (Move ι κ)} {f : Family ι κ} {i : Nat} {e : Engine ι κ}

/-- The engines that a chain makes on its way are skipped. -/
theorem renumbered_chain (hf : f = (found mode setup).run ms₀) (he : f.engines[i]? = some e) (hl : e.life = .fresh)
    (cs : List (Setup.Change ι)) : Renumbered (skip f.engines.length (cs.length - 1)) (f.onward i e cs)
      (f.run (chain i f.engines.length cs)) := by
  have hsound : Sound setup.backoff f := hf ▸ sound_run (sound_found mode setup) ms₀
  have hclosed : f.Closed := hf ▸ closed_run mode setup ms₀
  obtain ⟨-, -, -, -, hasked, hdrives, -⟩ := hsound.last_of_fresh he hl
  cases cs with
  | nil =>
    have hinsert := renumbered_insert f.engines [] [] hclosed
    rw [List.append_nil, List.append_nil, ← hasked, ← hdrives] at hinsert
    exact hinsert
  | cons c cs =>
    obtain ⟨middle, hcount, -, hrun⟩ := run_chain he hl c cs
    have hlength : (f.engines.set i { e with life := .moved }).length = f.engines.length := List.length_set
    have hinside : ∀ k ∈ f.coroutines, k.engine < (f.engines.set i { e with life := .moved }).length := by
      rw [hlength]
      exact hclosed
    have hinsert := renumbered_insert _ middle [{ e with setup := e.setup.settled (c :: cs) }] hinside
    rw [hlength, hcount] at hinsert
    rw [hrun, onward, if_neg nofun, handedOver, hdrives, hasked]
    exact hinsert

theorem unchanged_chain (he : f.engines[i]? = some e) (hl : e.life = .fresh) (cs : List (Setup.Change ι)) :
    (f.run (chain i f.engines.length cs)).asked = f.asked ∧
      (f.run (chain i f.engines.length cs)).drives = f.drives ∧
      (f.run (chain i f.engines.length cs)).coroutines = f.coroutines := by
  cases cs with
  | nil => exact ⟨rfl, rfl, rfl⟩
  | cons c cs =>
    obtain ⟨middle, -, -, hrun⟩ := run_chain he hl c cs
    rw [hrun]
    exact ⟨rfl, rfl, rfl⟩

/-- A chain of changes makes one engine after another. The last is the one that the chain began with, but for what
is set last of each collaborator. Nobody is asked on the way, and no cursor is advanced. Chains that set the same
last are alike: whatever moves follow, the answers, all that is asked and what becomes of the engines are the same,
each told in the numbers of its own family. -/
theorem chain_sets_what_is_set_last (hf : f = (found mode setup).run ms₀) (he : f.engines[i]? = some e)
    (hl : e.life = .fresh) (cs : List (Setup.Change ι)) :
    let n := f.engines.length
    let after : List (Setup.Change ι) → Family ι κ := fun cs => f.run (chain i n cs)
    let ρ : List (Setup.Change ι) → Nat → Nat := fun cs => skip n (cs.length - 1)
    let last := if cs = [] then i else n
    f.answers (chain i n cs) = (List.range' n cs.length).map .engine ∧
      ((after cs).asked = f.asked ∧ (after cs).drives = f.drives ∧ (after cs).coroutines = f.coroutines) ∧
      (after cs).engines[ρ cs last]? = some { e with setup := { e.setup with
        judge := (lastly judge? cs).getD e.setup.judge
        notifier := (lastly notifier? cs).getD e.setup.notifier
        sleeper := (lastly sleeper? cs).getD e.setup.sleeper } } ∧
      ∀ cs', lastly judge? cs' = lastly judge? cs → lastly notifier? cs' = lastly notifier? cs →
        lastly sleeper? cs' = lastly sleeper? cs →
        (after cs').engines[ρ cs' last]? = (after cs).engines[ρ cs last]? ∧
        ∀ ms : List (Move ι κ), ∃ (ys : List (Answer κ)) (z : Family ι κ),
          ((after cs).answers (ms.map (.renumber (ρ cs))) = ys.map (.renumber (ρ cs)) ∧
            Renumbered (ρ cs) z ((after cs).run (ms.map (.renumber (ρ cs))))) ∧
          ((after cs').answers (ms.map (.renumber (ρ cs'))) = ys.map (.renumber (ρ cs')) ∧
            Renumbered (ρ cs') z ((after cs').run (ms.map (.renumber (ρ cs'))))) := by
  intro n after ρ last
  have hre : Renumbered (ρ cs) (f.onward i e cs) (after cs) := renumbered_chain hf he hl cs
  refine ⟨answers_chain he hl cs, unchanged_chain he hl cs, (hre.engines last).trans (getElem?_onward he cs), ?_⟩
  intro cs' hj hn hs
  have hre' : Renumbered (ρ cs') (f.onward i e cs) (after cs') := by
    rw [← onward_congr f i e hj hn hs]
    exact renumbered_chain hf he hl cs'
  refine ⟨(hre'.engines last).trans (hre.engines last).symm, fun ms => ?_⟩
  exact ⟨(f.onward i e cs).answers ms, (f.onward i e cs).run ms, hre.run ms, hre'.run ms⟩

end Chain

/-- A judge that is set and then set back, with a sleeper in between, is as good as the default set first. -/
theorem reordered_chain_sets_the_same :
    let u : Setup Nat := ⟨⟨0, "<op>", "op"⟩, 1, 2, some 3, some 4, none⟩
    let sleeper : Party Nat := ⟨5, "<nap>", "nap"⟩
    let f : Family Nat Nat := (found .cooperative u).run [.run 0]
    let g := f.run (chain 0 1 [.judge (some 6), .sleeper (some sleeper), .judge none])
    let g' := f.run (chain 0 1 [.judge none, .sleeper (some sleeper)])
    g.engines[3]? = some (Engine.make .cooperative { u with judge := none, sleeper := some sleeper }) ∧
      g'.engines[2]? = g.engines[3]? ∧ g.asked = [] ∧ g.coroutines = [⟨0, .unstarted⟩] := by
  intro u sleeper f g g'
  have hf : f = (found .cooperative u).run [.run 0] := rfl
  have he : f.engines[0]? = some (Engine.make .cooperative u) := rfl
  have h := chain_sets_what_is_set_last hf he rfl [.judge (some 6), .sleeper (some sleeper), .judge none]
  obtain ⟨-, ⟨hasked, -, hcoroutines⟩, hlast, halike⟩ := h
  exact ⟨hlast, (halike [.judge none, .sleeper (some sleeper)] rfl rfl rfl).1, hasked, hcoroutines⟩

end Family

end Reattempt
