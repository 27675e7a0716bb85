import Reattempt.Engine.Family

/-!
# The numbers of engines make no difference

Engines of a family are told by their numbers. Where the same engines have other numbers in another family, and
there are others between them that nobody turns to, the same moves come to the same, but for the numbers.
-/
namespace Reattempt.Family

open Engine

variable {ι κ : Type}

def Coroutine.renumber (ρ : Nat → Nat) (c : Coroutine) : Coroutine := { c with engine := ρ c.engine }

def Drive.renumber (ρ : Nat → Nat) (v : Drive) : Drive := { v with engine := ρ v.engine }

def Move.renumber (ρ : Nat → Nat) : Move ι κ → Move ι κ
  | .reconfigure i change => .reconfigure (ρ i) change
  | .call i => .call (ρ i)
  | .run i => .run (ρ i)
  | m => m

def Answer.renumber (ρ : Nat → Nat) : Answer κ → Answer κ
  | .engine i => .engine (ρ i)
  | y => y

/-- The engines of one family are found in another by other numbers, and all that is known of them is the same. An
engine that is yet to be made has the number that is next in both. -/
structure Renumbered (ρ : Nat → Nat) (f g : Family ι κ) : Prop where
  injective : Function.Injective ρ
  next : ∀ j, f.engines.length ≤ j → ρ j = g.engines.length + (j - f.engines.length)
  engines : ∀ j, g.engines[ρ j]? = f.engines[j]?
  coroutines : g.coroutines = f.coroutines.map (·.renumber ρ)
  drives : g.drives = f.drives.map (·.renumber ρ)
  asked : g.asked = f.asked.map fun q => (ρ q.1, q.2)

namespace Renumbered

variable {ρ : Nat → Nat} {f g : Family ι κ} (h : Renumbered ρ f g)
include h

theorem lt_length {i : Nat} (hi : i < f.engines.length) : ρ i < g.engines.length := by
  have hget := h.engines i
  rw [List.getElem?_eq_getElem hi] at hget
  exact (List.getElem?_eq_some_iff.mp hget).1

theorem getElem?_set (i : Nat) (e : Engine ι κ) (j : Nat) :
    (g.engines.set (ρ i) e)[ρ j]? = (f.engines.set i e)[j]? := by
  rw [List.getElem?_set, List.getElem?_set]
  by_cases hij : i = j
  · subst hij
    rw [if_pos rfl, if_pos rfl]
    by_cases hi : i < f.engines.length
    · rw [if_pos hi, if_pos (h.lt_length hi)]
    · have hge : g.engines.length ≤ ρ i := by rw [h.next i (by omega)]; omega
      rw [if_neg hi, if_neg (by omega)]
  · rw [if_neg hij, if_neg fun heq => hij (h.injective heq), h.engines]

theorem getElem?_append (i : Nat) (e e' : Engine ι κ) (j : Nat) :
    (g.engines.set (ρ i) e ++ [e'])[ρ j]? = (f.engines.set i e ++ [e'])[j]? := by
  rcases Nat.lt_or_ge j f.engines.length with hj | hj
  · rw [List.getElem?_append_left (by simpa using h.lt_length hj), List.getElem?_append_left (by simpa using hj)]
    exact h.getElem?_set i e j
  · have hρ := h.next j hj
    have hlength : (g.engines.set (ρ i) e).length ≤ ρ j := by rw [List.length_set, hρ]; omega
    rw [List.getElem?_append_right hlength, List.getElem?_append_right (by simpa using hj), List.length_set,
      List.length_set, hρ, Nat.add_sub_cancel_left]

omit h in
theorem noted_map (p : Progress) (x : Option Nat) (cs : List Coroutine) :
    noted p x (cs.map (·.renumber ρ)) = (noted p x cs).map (·.renumber ρ) := by
  apply List.ext_getElem?
  intro k
  simp only [getElem?_noted, List.getElem?_map, Option.map_map]
  congr 1
  funext c
  by_cases hk : x = some k
  · simp only [Function.comp, hk, if_true, Coroutine.renumber]
  · simp only [Function.comp, hk, if_false]

theorem proceed (v : Drive) (e : Engine ι κ) :
    (g.proceed (v.renumber ρ) e).1 = (f.proceed v e).1.renumber ρ ∧
      Renumbered ρ (f.proceed v e).2 (g.proceed (v.renumber ρ) e).2 := by
  have hengines := h.getElem?_set v.engine e
  have hnext : ∀ j, (f.engines.set v.engine e).length ≤ j →
      ρ j = (g.engines.set (ρ v.engine) e).length + (j - (f.engines.set v.engine e).length) := by
    simpa only [List.length_set] using h.next
  cases ha : e.ask? with
  | none =>
    rw [proceed_of_ask_none v f ha, proceed_of_ask_none (v.renumber ρ) g ha]
    refine ⟨rfl, h.injective, hnext, hengines, ?_, h.drives, h.asked⟩
    simp only [Drive.renumber, h.coroutines, noted_map]
  | some a =>
    rw [proceed_of_ask v f ha, proceed_of_ask (v.renumber ρ) g ha]
    refine ⟨rfl, h.injective, hnext, hengines, ?_, ?_, ?_⟩
    · simp only [Drive.renumber, h.coroutines, noted_map]
    · rw [List.map_cons, h.drives]
    · rw [h.asked, List.map_append]
      rfl

theorem stir (v : Drive) (p : Progress) (e : Engine ι κ) :
    (g.stir (v.renumber ρ) p e).1 = (f.stir v p e).1.renumber ρ ∧
      Renumbered ρ (f.stir v p e).2 (g.stir (v.renumber ρ) p e).2 := by
  unfold Family.stir
  simp only [Drive.renumber]
  cases e.stir p v.nudge with
  | error o =>
    exact ⟨rfl, h.injective, h.next, h.engines, by simp only [h.coroutines, noted_map], h.drives, h.asked⟩
  | ok e' => exact h.proceed v e'

/-- A move comes to the same. -/
theorem step (m : Move ι κ) : (g.step (m.renumber ρ)).1 = (f.step m).1.renumber ρ ∧
    Renumbered ρ (f.step m).2 (g.step (m.renumber ρ)).2 := by
  cases m with
  | reconfigure i change =>
    simp only [Family.step, Move.renumber, h.engines]
    cases f.engines[i]? with
    | none => exact ⟨rfl, h⟩
    | some e =>
      cases hr : e.reconfigure change.apply with
      | error x => simp only [hr]; exact ⟨rfl, h⟩
      | ok p =>
        simp only [hr]
        refine ⟨?_, h.injective, ?_, h.getElem?_append i p.1 p.2, h.coroutines, h.drives, h.asked⟩
        · simp only [Answer.renumber, h.next _ (Nat.le_refl _), Nat.sub_self, Nat.add_zero]
        · simp only [List.length_append, List.length_set, List.length_singleton]
          intro j hj
          rw [h.next j (by omega)]
          omega
  | call i =>
    simp only [Family.step, Move.renumber, h.engines]
    cases f.engines[i]? with
    | none => exact ⟨rfl, h⟩
    | some e =>
      cases hm : e.mode with
      | blocking => simp only [hm]; exact h.stir ⟨i, none, .send⟩ .unstarted e
      | cooperative => simp only [hm]; exact ⟨rfl, h⟩
  | run i =>
    simp only [Family.step, Move.renumber, h.engines]
    cases f.engines[i]? with
    | none => exact ⟨rfl, h⟩
    | some e =>
      cases hm : e.mode with
      | blocking => simp only [hm]; exact ⟨rfl, h⟩
      | cooperative =>
        cases hf : e.ensureFresh with
        | error x => simp only [hm, hf]; exact ⟨rfl, h⟩
        | ok _ =>
          simp only [hm, hf, h.coroutines, List.length_map]
          refine ⟨rfl, h.injective, h.next, h.engines, ?_, h.drives, h.asked⟩
          rw [List.map_append]
          rfl
  | nudge k n =>
    have hany : (g.drives.any fun v => v.coroutine == some k) = f.drives.any fun v => v.coroutine == some k := by
      rw [h.drives, List.any_map]
      rfl
    simp only [Family.step, Move.renumber, h.coroutines, List.getElem?_map, hany]
    cases f.coroutines[k]? with
    | none => exact ⟨rfl, h⟩
    | some c =>
      cases hx : f.drives.any fun v => v.coroutine == some k with
      | true => exact ⟨rfl, h⟩
      | false =>
        simp only [Option.map_some, Coroutine.renumber, h.engines, Bool.false_eq_true, if_false]
        cases f.engines[c.engine]? with
        | none => exact ⟨rfl, h⟩
        | some e => exact h.stir ⟨c.engine, some k, n⟩ c.progress e
  | reply r =>
    simp only [Family.step, Move.renumber, h.drives]
    cases hv : f.drives with
    | nil => exact ⟨rfl, h⟩
    | cons v vs =>
      simp only [List.map_cons, Drive.renumber, h.engines]
      cases f.engines[v.engine]? with
      | none => exact ⟨rfl, h⟩
      | some e =>
        have hrest : Renumbered ρ { f with drives := vs } { g with drives := vs.map (·.renumber ρ) } :=
          ⟨h.injective, h.next, h.engines, h.coroutines, rfl, h.asked⟩
        exact hrest.proceed v (e.reply r)

theorem run (ms : List (Move ι κ)) :
    g.answers (ms.map (.renumber ρ)) = (f.answers ms).map (.renumber ρ) ∧
      Renumbered ρ (f.run ms) (g.run (ms.map (.renumber ρ))) := by
  induction ms generalizing f g with
  | nil => exact ⟨rfl, h⟩
  | cons m ms ih =>
    obtain ⟨hanswer, hstep⟩ := h.step m
    obtain ⟨hanswers, hrun⟩ := ih hstep
    exact ⟨by rw [List.map_cons, answers_cons, answers_cons, List.map_cons, hanswer, hanswers], hrun⟩

end Renumbered

/-! ## Engines that are inserted -/

/-- All numbers from the `n`-th on are counted on by `m`. -/
def skip (n m j : Nat) : Nat := if j < n then j else j + m

theorem skip_of_lt {n j : Nat} (h : j < n) (m : Nat) : skip n m j = j := if_pos h

theorem skip_of_le {n j : Nat} (h : n ≤ j) (m : Nat) : skip n m j = j + m := if_neg (by omega)

theorem skip_injective (n m : Nat) : Function.Injective (skip n m) := by
  intro i j h
  simp only [skip] at h
  split at h <;> split at h <;> omega

/-- Coroutines are of engines that there are. -/
def Closed (f : Family ι κ) : Prop := ∀ c ∈ f.coroutines, c.engine < f.engines.length

/-- While no drive is under way and nothing has been asked, other engines may come between those that there are and
those that are yet to come. -/
theorem renumbered_insert (old middle new : List (Engine ι κ)) {cs : List Coroutine}
    (hcs : ∀ c ∈ cs, c.engine < old.length) :
    Renumbered (skip old.length middle.length) ⟨old ++ new, cs, [], []⟩ ⟨old ++ middle ++ new, cs, [], []⟩ where
  injective := skip_injective _ _
  next j hj := by
    simp only [List.length_append] at hj ⊢
    rw [skip_of_le (by omega)]
    omega
  engines j := by
    rcases Nat.lt_or_ge j old.length with hj | hj
    · rw [skip_of_lt hj, List.append_assoc, List.getElem?_append_left hj, List.getElem?_append_left hj]
    · have hmiddle : (old ++ middle).length ≤ j + middle.length := by rw [List.length_append]; omega
      rw [skip_of_le hj, List.getElem?_append_right hmiddle, List.getElem?_append_right hj, List.length_append]
      congr 1
      omega
  coroutines := by
    have hsame : ∀ c ∈ cs, c.renumber (skip old.length middle.length) = id c := fun c hc => by
      rw [Coroutine.renumber, skip_of_lt (hcs c hc)]
      rfl
    rw [List.map_congr_left hsame, List.map_id]
  drives := rfl
  asked := rfl

section Closed

variable {f : Family ι κ}

theorem mem_noted {p : Progress} {x : Option Nat} {cs : List Coroutine} {c : Coroutine} (hc : c ∈ noted p x cs) :
    ∃ c' ∈ cs, c'.engine = c.engine := by
  obtain ⟨k, hk⟩ := List.mem_iff_getElem?.mp hc
  rw [getElem?_noted] at hk
  obtain ⟨c', hc', heq⟩ := Option.map_eq_some_iff.mp hk
  refine ⟨c', List.mem_of_getElem? hc', ?_⟩
  rw [← heq]
  split <;> rfl

theorem Closed.noted (h : f.Closed) (p : Progress) (x : Option Nat) {es : List (Engine ι κ)} {vs : List Drive}
    {qs : List (Nat × Ask κ)} (hes : es.length = f.engines.length) :
    Closed ⟨es, Family.noted p x f.coroutines, vs, qs⟩ := by
  intro c hc
  obtain ⟨c', hc', heq⟩ := mem_noted hc
  rw [← heq, hes]
  exact h c' hc'

theorem Closed.proceed (h : f.Closed) (v : Drive) (e : Engine ι κ) : (f.proceed v e).2.Closed := by
  cases ha : e.ask? with
  | none => rw [proceed_of_ask_none v f ha]; exact h.noted _ _ List.length_set
  | some a => rw [proceed_of_ask v f ha]; exact h.noted _ _ List.length_set

theorem Closed.stir (h : f.Closed) (v : Drive) (p : Progress) (e : Engine ι κ) : (f.stir v p e).2.Closed := by
  unfold Family.stir
  cases e.stir p v.nudge with
  | error o => exact h.noted _ _ rfl
  | ok e' => exact h.proceed v e'

theorem Closed.step (h : f.Closed) (m : Move ι κ) : (f.step m).2.Closed := by
  cases m with
  | reconfigure i change =>
    simp only [Family.step]
    cases f.engines[i]? with
    | none => exact h
    | some e =>
      cases hr : e.reconfigure change.apply with
      | error x => simp only [hr]; exact h
      | ok p =>
        simp only [hr]
        intro c hc
        have hlt := h c hc
        simp only [List.length_append, List.length_set]
        omega
  | call i =>
    simp only [Family.step]
    cases f.engines[i]? with
    | none => exact h
    | some e =>
      cases hm : e.mode with
      | blocking => simp only [hm]; exact h.stir _ _ e
      | cooperative => simp only [hm]; exact h
  | run i =>
    simp only [Family.step]
    cases he : f.engines[i]? with
    | none => exact h
    | some e =>
      cases hm : e.mode with
      | blocking => simp only [hm]; exact h
      | cooperative =>
        cases hf : e.ensureFresh with
        | error x => simp only [hm, hf]; exact h
        | ok _ =>
          simp only [hm, hf]
          intro c hc
          rcases List.mem_append.mp hc with hc | hc
          · exact h c hc
          · obtain rfl := List.mem_singleton.mp hc
            exact (List.getElem?_eq_some_iff.mp he).1
  | nudge k n =>
    simp only [Family.step]
    cases f.coroutines[k]? with
    | none => exact h
    | some c =>
      cases hx : f.drives.any fun v => v.coroutine == some k with
      | true => exact h
      | false =>
        simp only [Bool.false_eq_true, if_false]
        cases f.engines[c.engine]? with
        | none => exact h
        | some e => exact h.stir _ _ e
  | reply r =>
    simp only [Family.step]
    cases f.drives with
    | nil => exact h
    | cons v vs =>
      simp only
      cases f.engines[v.engine]? with
      | none => exact h
      | some e =>
        have hrest : Closed { f with drives := vs } := h
        exact hrest.proceed v (e.reply r)

theorem closed_run (mode : Mode) (setup : Setup ι) (ms : List (Move ι κ)) : ((found mode setup).run ms).Closed := by
  suffices hrun : ∀ f : Family ι κ, f.Closed → (f.run ms).Closed from hrun _ nofun
  induction ms with
  | nil => exact fun f h => h
  | cons m ms ih => exact fun f h => ih (f.step m).2 (h.step m)

end Closed

end Reattempt.Family
