import Mathlib
import Reattempt.Proofs.Checks

/-!
# Growing delays in closed form

A cursor over growing delays hands out what the growth would come to by itself, limited by the cap, for as long as
its budget allows; then it has come to its end for good. At the cap the growth stands still, and what the next
delay would have been made of is lost. That does no harm because no delay is below the one before.
-/
namespace Reattempt.Backoff

/-- A number that is limited by the cap, if there is one. -/
def limited {β : Type} [LinearOrder β] (cap : Option β) (x : β) : β := cap.elim x (min · x)

/-- Whether a budget allows a delay after `n` others. -/
def Allows (budget : Option Number) (n : Nat) : Prop := ∀ b ∈ budget, (.whole n : Number) < b

instance (budget : Option Number) (n : Nat) : Decidable (Allows budget n) :=
  inferInstanceAs (Decidable (∀ b ∈ budget, _))

section Limited

variable {β : Type} [LinearOrder β] {cap : Option β} {x y : β}

theorem limited_mono (h : x ≤ y) : limited cap x ≤ limited cap y := by
  cases cap with
  | none => exact h
  | some c => exact min_le_min le_rfl h

theorem limited_le {c : β} (hc : c ∈ cap) (x : β) : limited cap x ≤ c := by
  cases hc
  exact min_le_left c x

theorem le_limited (hx : y ≤ x) (hc : ∀ c ∈ cap, y ≤ c) : y ≤ limited cap x := by
  cases cap with
  | none => exact hx
  | some c => exact le_min (hc c rfl) hx

theorem limited_of_lt (h : ∀ c ∈ cap, x < c) : limited cap x = x := by
  cases cap with
  | none => rfl
  | some c => exact min_eq_right (h c rfl).le

end Limited

/-- What a budget allows later, it allows before. -/
theorem Allows.mono {budget : Option Number} {m n : Nat} (h : Allows budget n) (hmn : m ≤ n) : Allows budget m := by
  intro b hb
  rcases hmn.eq_or_lt with rfl | hlt
  · exact h b hb
  · exact Number.lt_trans (Number.whole_lt_whole.mpr (by exact_mod_cast hlt)) (h b hb)

/-! ## Growth that goes on -/

namespace Growing

variable {α : Type} [Scalar α] {cap : Option α} {P : Nat → Growth α → Prop}

/-- Growth goes on from whatever the `n`-th delay leaves behind, of which `P n` holds. -/
def Sustains (cap : Option α) (P : Nat → Growth α → Prop) : Prop :=
  ∀ n g, P n g → ∃ g', g.follow? cap = some g' ∧ P (n + 1) (g'.clip cap)

/-- There is a next delay after `n` others, and `P n` holds of what it leaves behind. -/
def Due (cap : Option α) (P : Nat → Growth α → Prop) (n : Nat) (g : Growth α) : Prop :=
  ∃ grown, (if n = 0 then some g else g.follow? cap) = some grown ∧ P n (grown.clip cap)

theorem due_start {g : Growth α} (h : P 0 (g.clip cap)) : Due cap P 0 g := ⟨g, rfl, h⟩

namespace Sustains

variable (hP : Sustains cap P) (budget : Option Number) {n : Nat} {g : Growth α}
include hP

theorem advance_of_due (h : Due cap P n g) :
    if Allows budget n then
      ∃ g', (⟨cap, budget, g, n⟩ : Growing α).advance = (.delay g'.delay, some ⟨cap, budget, g', n + 1⟩) ∧
        P n g' ∧ Due cap P (n + 1) g'
    else (⟨cap, budget, g, n⟩ : Growing α).advance = (.exhausted, none) := by
  obtain ⟨grown, hgrown, hleft⟩ := h
  have hwithin : (⟨cap, budget, g, n⟩ : Growing α).withinBudget = decide (Allows budget n) := by
    cases budget <;> simp [withinBudget, Allows]
  simp only [advance, hgrown, hwithin, decide_eq_true_eq]
  split
  · exact ⟨_, rfl, hleft, hP n _ hleft⟩
  · rfl

/-- Nothing is left once the budget has not allowed a delay. -/
theorem left_start (h : P 0 (g.clip cap)) (n : Nat) :
    (∃ g', (⟨cap, budget, g, 0⟩ : Growing α).left n = some ⟨cap, budget, g', n⟩ ∧ Due cap P n g') ∨
      (⟨cap, budget, g, 0⟩ : Growing α).left n = none ∧ ¬ Allows budget n := by
  induction n with
  | zero => exact .inl ⟨g, rfl, due_start h⟩
  | succ n ih =>
    rw [left_succ]
    rcases ih with ⟨g', hg, hdue⟩ | ⟨hg, hallows⟩
    · have hadvance := hP.advance_of_due budget hdue
      rw [hg, Option.bind_some]
      split at hadvance
      · obtain ⟨g'', hg', -, hdue'⟩ := hadvance
        exact .inl ⟨g'', by rw [hg'], hdue'⟩
      · next hallows => exact .inr ⟨by rw [hadvance], fun h => hallows (h.mono n.le_succ)⟩
    · exact .inr ⟨by rw [hg, Option.bind_none], fun h => hallows (h.mono n.le_succ)⟩

/-- The `n`-th advance is a delay just if the budget allows one. -/
theorem nth_start (h : P 0 (g.clip cap)) (n : Nat) :
    if Allows budget n then ∃ g', P n g' ∧ (⟨cap, budget, g, 0⟩ : Growing α).nth n = .delay g'.delay
    else (⟨cap, budget, g, 0⟩ : Growing α).nth n = .exhausted := by
  rcases hP.left_start budget h n with ⟨g', hg, hdue⟩ | ⟨hg, hallows⟩
  · have hadvance := hP.advance_of_due budget hdue
    rw [nth, hg, Option.elim]
    split at hadvance
    · next hallows =>
      obtain ⟨g'', hg', hleft, -⟩ := hadvance
      rw [if_pos hallows]
      exact ⟨g'', hleft, by rw [hg']⟩
    · next hallows => rw [if_neg hallows, hadvance]
  · rw [nth, hg, if_neg hallows, Option.elim]

end Sustains

end Growing

/-! ## Growth that never decreases -/

/-- Growth by itself, without a cap: its delays are `d` in a linear order that is kept by `value`, and never
decrease. -/
structure Climbs {α β : Type} [Scalar α] [LinearOrder β] (value : β → α) (u : Nat → Growth α) (d : Nat → β) :
    Prop where
  reaches (x y : β) : Scalar.reaches (value x) (value y) = decide (y ≤ x)
  delay (n : Nat) : (u n).delay = value (d n)
  next (n : Nat) : (u n).next? = some (u (n + 1))
  mono : Monotone d

namespace Climbs

variable {α β : Type} [Scalar α] [LinearOrder β] {value : β → α} {u : Nat → Growth α} {d : Nat → β}

/-- What the `n`-th delay leaves behind: all that the next is made of while the delay is below the cap, and the
cap from then on. -/
inductive Stands (value : β → α) (u : Nat → Growth α) (d : Nat → β) (cap : Option β) (n : Nat) : Growth α → Prop
    where
  | below (h : ∀ c ∈ cap, d n < c) : Stands value u d cap n (u n)
  | capped {g : Growth α} {c : β} (hc : cap = some c) (h : c ≤ d n) (hg : g.delay = value c) :
    Stands value u d cap n g

variable (hu : Climbs value u d) {cap : Option β} {n : Nat} {g : Growth α}
include hu

theorem delay_of_stands (h : Stands value u d cap n g) : g.delay = value (limited cap (d n)) := by
  cases h with
  | below h => rw [hu.delay, limited_of_lt h]
  | @capped _ c hc h hg =>
    subst hc
    rw [hg, limited, Option.elim, min_eq_left h]

/-- A delay of the growth by itself is due as it is, or as the cap. -/
theorem stands_clip (cap : Option β) (n : Nat) : Stands value u d cap n ((u n).clip (cap.map value)) := by
  cases cap with
  | none => exact .below nofun
  | some c =>
    by_cases h : c ≤ d n
    · refine .capped rfl h ?_
      simp only [Option.map_some, Growth.clip, hu.delay, hu.reaches, h, decide_true, if_true, Growth.delay_withDelay]
    · simp only [Option.map_some, Growth.clip, hu.delay, hu.reaches, h, decide_false]
      exact .below fun c' hc' => by
        cases hc'
        exact not_le.mp h

/-- Once at the cap, there for good. -/
theorem stands_follow (h : Stands value u d cap n g) : ∃ g', g.follow? (cap.map value) = some g' ∧
    Stands value u d cap (n + 1) (g'.clip (cap.map value)) := by
  cases h with
  | below h =>
    have hcapped : (u n).capped (cap.map value) = false := by
      cases cap with
      | none => rfl
      | some c => simp [Growth.capped, hu.delay, hu.reaches, h c rfl]
    exact ⟨u (n + 1), by simp [Growth.follow?, hcapped, hu.next], hu.stands_clip cap (n + 1)⟩
  | @capped _ c hc h hg =>
    subst hc
    have hcapped : g.capped (some (value c)) = true := by simp [Growth.capped, hg, hu.reaches]
    refine ⟨g, by simp [Growth.follow?, hcapped], .capped rfl (h.trans (hu.mono n.le_succ)) ?_⟩
    simp [Growth.clip, hg, hu.reaches]

/-- The `n`-th advance. -/
theorem nth_start (budget : Option Number) (cap : Option β) (n : Nat) :
    (⟨cap.map value, budget, u 0, 0⟩ : Growing α).nth n =
      if Allows budget n then .delay (value (limited cap (d n))) else .exhausted := by
  have hsustains : Growing.Sustains (cap.map value) (Stands value u d cap) := fun n g h => hu.stands_follow h
  have hnth := hsustains.nth_start budget (hu.stands_clip cap 0) n
  split at hnth
  · next hallows =>
    obtain ⟨g, hg, hnth⟩ := hnth
    rw [if_pos hallows, hnth, hu.delay_of_stands hg]
  · next hallows => rw [if_neg hallows, hnth]

end Climbs

/-! ## Growth by a factor -/

/-- Whole numbers grow by a whole factor without being rounded. -/
theorem climbs_exponential {a f : Int} (ha : 0 ≤ a) (hf : 1 ≤ f) :
    Climbs Number.whole (fun n => .byFactor (.whole f) (.whole (a * f ^ n))) (fun n => a * f ^ n) where
  reaches x y := by simp only [Scalar.reaches, Number.whole_le_whole]
  delay n := rfl
  next n := by
    have hmixes : (Number.whole (a * f ^ n)).mixes (.whole f) = true := rfl
    simp only [Growth.next?, Scalar.product?, hmixes, if_true, Number.whole_mul, Option.map_some, pow_succ,
      mul_assoc]
  mono := monotone_nat_of_le_succ fun n => by
    have hn : 0 ≤ a * f ^ n := mul_nonneg ha (pow_nonneg (by omega) n)
    rw [pow_succ, ← mul_assoc]
    exact le_mul_of_one_le_right hn hf

theorem Growing.exponential_nth {a f : Int} (ha : 0 ≤ a) (hf : 1 ≤ f) (cap : Option Int) (budget : Option Number)
    (n : Nat) : (Growing.exponential (.whole a) (.whole f) (cap.map .whole) budget : Growing Number).nth n =
      if Allows budget n then .delay (.whole (limited cap (a * f ^ n))) else .exhausted := by
  have hstart : Growing.exponential (.whole a) (.whole f) (cap.map .whole) budget =
      ⟨cap.map Number.whole, budget, .byFactor (.whole f) (.whole (a * f ^ 0)), 0⟩ := by
    rw [pow_zero, mul_one]
    rfl
  rw [hstart]
  exact (climbs_exponential ha hf).nth_start budget cap n

namespace Cursor

theorem after_growing (g : Growing Number) (n : Nat) :
    (Cursor.growing g).after n = (g.left n).elim .spent .growing := by
  induction n with
  | zero => rfl
  | succ n ih =>
    rw [Cursor.after, ih, Growing.left_succ]
    cases g.left n with
    | none => rfl
    | some g' =>
      simp only [Option.elim, Option.bind_some, advance]
      cases g'.advance.2 <;> rfl

/-- A growing cursor hands out what its growth comes to. -/
theorem advance_after_growing (g : Growing Number) (n : Nat) :
    ((Cursor.growing g).after n).advance.1 = match g.nth n with
      | .delay d => .ok (some (.num d))
      | .exhausted => .ok none
      | .lost => .error Fault.unconvertible := by
  rw [after_growing, Growing.nth]
  cases g.left n <;> rfl

end Cursor

/-- A policy of whole numbers that has passed its checks: the delays are those of the growth by itself, limited by
the cap, as many as the budget says and none after them. They never decrease, and stay between the least delay and
the cap. -/
theorem exponential_in_closed_form {a f : Int} {cap budget : Option Int} {p : Exponential}
    (h : Exponential.make (.int a) (optionalNumber (cap.map .whole)) (.int f)
      (optionalNumber (budget.map .whole)) = .ok p) :
    (∀ n : Nat, (p.build.after n).advance.1 =
      .ok (if ∀ b ∈ budget, (n : Int) < b then some (.int (limited cap (a * f ^ n))) else none)) ∧
    Monotone (fun n : Nat => limited cap (a * f ^ n)) ∧
    ∀ n : Nat, a ≤ limited cap (a * f ^ n) ∧ ∀ c ∈ cap, limited cap (a * f ^ n) ≤ c := by
  obtain ⟨hd, hc, hf, hb⟩ := Exponential.make_eq_ok.mp h
  obtain ⟨least, pcap, factor, pbudget⟩ := p
  obtain rfl : Number.whole a = least := Value.num.inj (eq_of_checkDelay hd)
  obtain rfl : Number.whole f = factor := Value.num.inj (eq_of_checkFactor hf)
  obtain rfl : cap.map .whole = pcap := optionalNumber_injective (eq_of_checkCap hc)
  obtain rfl : budget.map .whole = pbudget := optionalNumber_injective (eq_of_checkBudget hb)
  have hpos : 0 ≤ a := by
    have hnot : ¬ Number.whole a < .whole 0 := (checkDelay_eq_ok.mp hd).2.2
    simpa using hnot
  have hone : 1 ≤ f := by
    have hnot : ¬ Number.whole f < .whole 1 := (checkFactor_eq_ok.mp hf).2.2
    simpa using hnot
  have hcap : ∀ c ∈ cap, a ≤ c := by
    rintro c rfl
    simpa using not_lt_of_checkCap hc
  have hclimbs := climbs_exponential hpos hone
  refine ⟨fun n => ?_, fun m n hmn => limited_mono (hclimbs.mono hmn), fun n => ⟨?_, fun c hc => limited_le hc _⟩⟩
  · have hallows : Allows (budget.map .whole) n ↔ ∀ b ∈ budget, (n : Int) < b := by
      cases budget <;> simp [Allows]
    rw [Exponential.build, Cursor.advance_after_growing, Growing.exponential_nth hpos hone]
    by_cases hn : ∀ b ∈ budget, (n : Int) < b
    · rw [if_pos hn, if_pos (hallows.mpr hn)]
      rfl
    · rw [if_neg hn, if_neg (mt hallows.mp hn)]
  · have hfirst : a = a * f ^ 0 := by rw [pow_zero, mul_one]
    exact le_limited (hfirst.le.trans (hclimbs.mono n.zero_le)) hcap

/-- From three on, twice as much each time and ten at most, four times. -/
theorem doubling_in_closed_form : ∃ p, Exponential.make (.int 3) (.int 10) (.int 2) (.int 4) = .ok p ∧
    ∀ n : Nat, (p.build.after n).advance.1 =
      .ok (if (n : Int) < 4 then some (.int (min 10 (3 * 2 ^ n))) else none) := by
  have h : Exponential.make (.int 3) (.int 10) (.int 2) (.int 4) = .ok ⟨.whole 3, some (.whole 10), .whole 2,
      some (.whole 4)⟩ := Fault.eq_ok_of_toOption (by decide +kernel)
  refine ⟨_, h, fun n => ?_⟩
  rw [(@exponential_in_closed_form 3 2 (some 10) (some 4) _ h).1 n]
  simp [limited]

/-! ## Growth by sums -/

/-- Exact arithmetic: all sums and products exist, and none is rounded. -/
instance : Scalar ℚ where
  sum? a b := some (a + b)
  product? a b := some (a * b)
  reaches a b := decide (b ≤ a)

end Reattempt.Backoff
