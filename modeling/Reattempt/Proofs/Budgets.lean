import Reattempt.Proofs.Delays
import Reattempt.Proofs.Limits

/-!
# Cursors and their budgets

The cursor of a policy hands out as many delays as the budget says, and has come to its end for good after them. Growing
delays are counted by whole numbers of any size, and within the limits of a policy there always is a next delay: what
is converted once has been small enough to pass a check, or is a binary number already. A single delay is repeated by a
count of places in memory, which is bounded. A budget from that bound on passes the checks all the same, and no cursor
can be made for it.
-/
namespace Reattempt

open Backoff

namespace Number

variable {a b : Number}

theorem mixes_of_convertible (ha : a.convertible) (hb : b.convertible) : a.mixes b := by
  simp [mixes, ha, hb]

theorem mixes_of_int? (ha : a.int?.isSome) (hb : b.int?.isSome) : a.mixes b := by
  simp [mixes, ha, hb]

/-- What is not whole on both sides is combined as binary numbers. -/
theorem lift_eq_real (f : Int → Int → Int) (g : Binary64 → Binary64 → Binary64)
    (h : a.int? = none ∨ b.int? = none) : lift f g a b = .real (g a.toBinary b.toBinary) := by
  unfold lift
  rcases h with h | h
  · rw [h]
  · rw [h]
    cases a.int? <;> rfl

theorem isSome_int?_lift (f : Int → Int → Int) (g : Binary64 → Binary64 → Binary64)
    (ha : a.int?.isSome) (hb : b.int?.isSome) : (lift f g a b).int?.isSome := by
  obtain ⟨i, hi⟩ := Option.isSome_iff_exists.mp ha
  obtain ⟨j, hj⟩ := Option.isSome_iff_exists.mp hb
  simp only [lift, hi, hj]
  rfl

end Number

namespace Backoff

/-! ## Growth that lasts -/

namespace Growth

/-- There is a next delay, and so on. Factor and delay are both whole, or can both be converted; of two delays that
are summed, one is a binary number. -/
def Lasts : Growth Number → Prop
  | .byFactor f d => f.convertible ∧ (d.convertible ∨ d.int?.isSome ∧ f.int?.isSome)
  | .bySum p d => p.convertible ∧ d.convertible ∧ (p.int? = none ∨ d.int? = none)

theorem Lasts.next {g : Growth Number} (h : g.Lasts) : ∃ g', g.next? = some g' ∧ g'.Lasts := by
  cases g with
  | byFactor f d =>
    obtain ⟨hf, hd⟩ := h
    have hmixes : d.mixes f := hd.elim (fun hd => Number.mixes_of_convertible hd hf)
      fun hd => Number.mixes_of_int? hd.1 hd.2
    refine ⟨.byFactor f (d * f), by simp [next?, Scalar.product?, hmixes], hf, ?_⟩
    by_cases hwhole : d.int?.isSome ∧ f.int?.isSome
    · exact .inr ⟨Number.isSome_int?_lift _ _ hwhole.1 hwhole.2, hwhole.2⟩
    · have hnone : d.int? = none ∨ f.int? = none := by
        simpa only [not_and_or, Option.not_isSome_iff_eq_none] using hwhole
      have hreal : d * f = .real (d.toBinary * f.toBinary) := Number.lift_eq_real _ _ hnone
      exact .inl (by rw [hreal]; rfl)
  | bySum p d =>
    obtain ⟨hp, hd, hnone⟩ := h
    have hmixes : p.mixes d := Number.mixes_of_convertible hp hd
    have hreal : p + d = .real (p.toBinary + d.toBinary) := Number.lift_eq_real _ _ hnone
    refine ⟨.bySum d (p + d), by simp [next?, Scalar.sum?, hmixes], hd, ?_⟩
    rw [hreal]
    exact ⟨rfl, .inr rfl⟩

/-- What a delay leaves behind: the cap, or growth that lasts. -/
def Stands (cap : Option Number) (g : Growth Number) : Prop := g.capped cap ∨ g.Lasts

theorem stands_clip {cap : Option Number} (hcap : ∀ c ∈ cap, c ≤ c) {g : Growth Number} (h : g.Stands cap) :
    (g.clip cap).Stands cap := by
  cases cap with
  | none => exact h
  | some c =>
    by_cases hreaches : Scalar.reaches g.delay c
    · have hclip : g.clip (some c) = g.withDelay c := if_pos hreaches
      have hself : Scalar.reaches c c := decide_eq_true (hcap c rfl)
      rw [hclip]
      exact .inl (by simpa [capped] using hself)
    · have hclip : g.clip (some c) = g := if_neg hreaches
      rwa [hclip]

theorem sustains_stands {cap : Option Number} (hcap : ∀ c ∈ cap, c ≤ c) :
    Growing.Sustains cap fun _ g => g.Stands cap := by
  intro n g h
  by_cases hcapped : g.capped cap
  · exact ⟨g, if_pos hcapped, stands_clip hcap h⟩
  · obtain ⟨g', hnext, hlasts⟩ := (h.resolve_left hcapped).next
    exact ⟨g', (if_neg hcapped).trans hnext, stands_clip hcap (.inr hlasts)⟩

end Growth

/-! ## Budgets -/

/-- A budget that is so large, or none. -/
def Counts (budget : Option Number) (times : Option Nat) : Prop :=
  budget.map (·.int?) = times.map fun t : Nat => some (t : Int)

theorem allows_iff_of_counts {budget : Option Number} {times : Option Nat} (h : Counts budget times) (n : Nat) :
    Allows budget n ↔ ∀ t ∈ times, n < t := by
  cases budget with
  | none =>
    cases times with
    | none => simp [Allows]
    | some t => cases h
  | some b =>
    cases times with
    | none => cases h
    | some t =>
      have hb : b.int? = some (t : Int) := Option.some.inj h
      have hlt := Number.whole_lt_iff_of_int? (i := n) hb
      simpa [Allows] using hlt

/-- So many delays, or delays for ever, and after them the end for good. -/
def Cursor.HandsOut (c : Cursor) (times : Option Nat) : Prop :=
  ∀ n : Nat, if ∀ t ∈ times, n < t then ∃ d, (c.after n).advance.1 = .ok (some (.num d))
    else (c.after n).advance.1 = .ok none

section Growing

variable {cap budget : Option Number} {times : Option Nat} {g : Growth Number}

theorem handsOut_growing (hg : g.Lasts) (hcap : ∀ c ∈ cap, c ≤ c) (hb : Counts budget times) :
    (Cursor.growing ⟨cap, budget, g, 0⟩).HandsOut times := by
  intro n
  have hnth := (Growth.sustains_stands hcap).nth_start budget (Growth.stands_clip hcap (.inr hg)) n
  rw [Cursor.advance_after_growing]
  simp only [← allows_iff_of_counts hb n]
  split at hnth
  · next hallows =>
    obtain ⟨g', -, hnth⟩ := hnth
    rw [if_pos hallows, hnth]
    exact ⟨g'.delay, rfl⟩
  · next hallows => rw [if_neg hallows, hnth]

end Growing

theorem after_repeating (d : Number) (left : Option Nat) (n : Nat) :
    (Cursor.repeating d left).after n = .repeating d (left.map (· - n)) := by
  induction n with
  | zero => cases left <;> rfl
  | succ n ih =>
    rw [Cursor.after, ih]
    cases left with
    | none => rfl
    | some t =>
      have hsub : t - (n + 1) = (t - n) - 1 := by omega
      simp only [Option.map_some, hsub]
      cases t - n <;> rfl

theorem handsOut_repeating (d : Number) (left : Option Nat) : (Cursor.repeating d left).HandsOut left := by
  intro n
  rw [after_repeating]
  cases left with
  | none => simp [Cursor.advance]
  | some t =>
    by_cases hn : n < t
    · obtain ⟨k, hk⟩ : ∃ k, t - n = k + 1 := ⟨t - n - 1, by omega⟩
      simp [hn, hk, Cursor.advance]
    · have hzero : t - n = 0 := by omega
      simp [hn, hzero, Cursor.advance]

/-! ## Policies -/

section Index

variable {b : Number} {i : Int}

theorem whole_of_int? (h : b.int? = some i) : (Value.num b).whole = .ok i := by
  simp only [Value.whole, h, Option.elim]

theorem index_of_isIndex (h : b.int? = some i) (hi : Value.isIndex i) : (Value.num b).index = .ok i := by
  simp only [Value.index, whole_of_int? h, bind, Except.bind, hi, if_true]
  rfl

theorem index_of_not_isIndex (h : b.int? = some i) (hi : ¬ Value.isIndex i) :
    ∃ x, (Value.num b).index = .error x ∧ x.cls = .overflowError := by
  simp only [Value.index, whole_of_int? h, bind, Except.bind, if_neg hi]
  exact ⟨_, rfl, rfl⟩

theorem isIndex_natCast {t : Nat} : Value.isIndex t ↔ (t : Int) < Value.indexBound := by
  have hlow : -Value.indexBound ≤ (t : Int) := by
    have hbound : 0 ≤ Value.indexBound := by decide
    omega
  simp [Value.isIndex, hlow]

end Index

namespace Policy

def budget? : Policy → Option Number
  | .constant p => p.budget
  | .exponential p => p.budget
  | .fibonacci p => p.budget

/-- The growth that a policy starts from goes on. -/
theorem lasts_exponential {p : Exponential} (h : (Policy.exponential p).Proper) :
    (Growth.byFactor p.factor p.least).Lasts :=
  ⟨Number.convertible_of_isFinite h.2.2.1.1, .inl (Number.convertible_of_isFinite h.1.1)⟩

theorem lasts_fibonacci {p : Fibonacci} (h : (Policy.fibonacci p).Proper) :
    (Growth.bySum (.real .zero) p.least).Lasts :=
  ⟨rfl, Number.convertible_of_isFinite h.1.1, .inl rfl⟩

theorem le_refl_of_isCap {least : Number} {cap : Option Number} (h : IsCap least cap) : ∀ c ∈ cap, c ≤ c :=
  fun c hc => Number.le_refl_of_isFinite (h c hc).1.1

theorem constant_build {p : Constant} {times : Option Nat} (ht : Counts p.budget times) :
    match p.build with
    | .ok c => c.HandsOut times ∧ ∀ t ∈ times, (t : Int) < Value.indexBound
    | .error x => x.cls = .overflowError ∧ ∃ t ∈ times, Value.indexBound ≤ (t : Int) := by
  obtain ⟨d, budget⟩ := p
  cases budget with
  | none =>
    cases times with
    | none => exact ⟨handsOut_repeating d none, nofun⟩
    | some t => cases ht
  | some b =>
    cases times with
    | none => cases ht
    | some t =>
      have hb : b.int? = some (t : Int) := Option.some.inj ht
      by_cases hi : Value.isIndex t
      · have hbuild : Constant.build ⟨d, some b⟩ = .ok (.repeating d (some t)) := by
          simp only [Constant.build, Constant.count, index_of_isIndex hb hi]
          rfl
        rw [hbuild]
        exact ⟨handsOut_repeating d (some t), by rintro t ⟨⟩; exact isIndex_natCast.mp hi⟩
      · obtain ⟨x, hindex, hx⟩ := index_of_not_isIndex hb hi
        have hbuild : Constant.build ⟨d, some b⟩ = .error x := by
          simp only [Constant.build, Constant.count, hindex]
          rfl
        rw [hbuild]
        exact ⟨hx, t, rfl, not_lt.mp fun hlt => hi (isIndex_natCast.mpr hlt)⟩

/-- A policy whose budget is a whole number or none makes a cursor that hands out so many delays, or delays for ever,
and has come to its end for good after them. Only a policy with a single delay may fail to make one: it does just if
the budget is too large to count places in memory. -/
theorem cursor_hands_out_budget {p : Policy} (h : p.Obtained) {times : Option Nat} (ht : Counts p.budget? times) :
    match p.build with
    | .ok c => c.HandsOut times ∧ (p.strategy = .constant → ∀ t ∈ times, (t : Int) < Value.indexBound)
    | .error x => x.cls = .overflowError ∧ p.strategy = .constant ∧ ∃ t ∈ times, Value.indexBound ≤ (t : Int) := by
  have hproper := h.proper
  cases p with
  | constant p =>
    have hbuild := constant_build ht
    simp only [build]
    cases hc : p.build with
    | ok c =>
      rw [hc] at hbuild
      exact ⟨hbuild.1, fun _ => hbuild.2⟩
    | error x =>
      rw [hc] at hbuild
      exact ⟨hbuild.1, rfl, hbuild.2⟩
  | exponential p =>
    exact ⟨handsOut_growing (lasts_exponential hproper) (le_refl_of_isCap hproper.2.1) ht, nofun⟩
  | fibonacci p =>
    exact ⟨handsOut_growing (lasts_fibonacci hproper) (le_refl_of_isCap hproper.2.1) ht, nofun⟩

/-- Growing delays are handed out as often as a count of places in memory cannot say. -/
theorem large_budget_is_handed_out : ∃ p c,
    make .exponential [("min_delay", .int 3), ("factor", .int 2), ("max_times", .int 9223372036854775808)] = .ok p ∧
      p.build = .ok c ∧ c.HandsOut (some 9223372036854775808) := by
  have hmade : make .exponential
      [("min_delay", .int 3), ("factor", .int 2), ("max_times", .int 9223372036854775808)] =
      .ok (.exponential ⟨.whole 3, some (.real (.ofInt 60)), .whole 2, some (.whole 9223372036854775808)⟩) :=
    Fault.eq_ok_of_toOption (by decide +kernel)
  have hcounts : Counts (some (.whole 9223372036854775808)) (some 9223372036854775808) := rfl
  exact ⟨_, _, hmade, rfl, (cursor_hands_out_budget (.made hmade) hcounts).1⟩

/-- A single delay is not: the policy is made, and makes no cursor. -/
theorem large_budget_has_no_cursor : ∃ p x,
    make .constant [("max_times", .int 9223372036854775808)] = .ok p ∧ p.build = .error x ∧
      x.cls = .overflowError := by
  have hmade : make .constant [("max_times", .int 9223372036854775808)] =
      .ok (.constant ⟨.real (.ofInt 1), some (.whole 9223372036854775808)⟩) :=
    Fault.eq_ok_of_toOption (by decide +kernel)
  exact ⟨_, _, hmade, rfl, rfl⟩

end Policy

end Backoff

end Reattempt
