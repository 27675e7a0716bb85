import Reattempt.Proofs.Checks
import Reattempt.Proofs.Comparison

/-!
# Policies within their limits

The limits of a policy are said here without its checks: which numbers are delays, factors, caps and budgets.
Parameters make a policy just if they are the values of one that is within its limits. So whichever way a policy is
come by, it is within them; and parameters that are not are complained about, if they are numbers that can be asked.
-/
namespace Reattempt

open Backoff

namespace Number

/-- A finite number of seconds, zero or above. -/
def IsDelay (n : Number) : Prop := n.isFinite ∧ 0 ≤ n

def IsFactor (n : Number) : Prop := n.isFinite ∧ 1 ≤ n

theorem isFinite_zero : (0 : Number).isFinite := by decide +kernel

theorem isFinite_one : (1 : Number).isFinite := by decide +kernel

end Number

namespace Backoff

/-- No cap, or a delay that is at least the first. -/
def IsCap (least : Number) (cap : Option Number) : Prop := ∀ n ∈ cap, n.IsDelay ∧ least ≤ n

/-- No budget, or a number from zero on. No check refuses a not-a-number. -/
def IsBudget (budget : Option Number) : Prop := ∀ n ∈ budget, 0 ≤ n ∨ n = .real .nan

/-- The parameters are within their limits. -/
def Policy.Proper : Policy → Prop
  | .constant p => p.delay.IsDelay ∧ IsBudget p.budget
  | .exponential p => p.least.IsDelay ∧ IsCap p.least p.cap ∧ p.factor.IsFactor ∧ IsBudget p.budget
  | .fibonacci p => p.least.IsDelay ∧ IsCap p.least p.cap ∧ IsBudget p.budget

/-! ## Checks and limits -/

section Checks

variable {name : String} {v : Value} {n : Number}

theorem checkDelay_iff : checkDelay name v = .ok n ↔ v = .num n ∧ n.IsDelay := by
  rw [checkDelay_eq_ok, Value.measurable_eq_ok]
  constructor
  · rintro ⟨⟨hv, -⟩, hfin, hneg⟩
    exact ⟨hv, hfin, (Number.not_lt_iff_of_isFinite Number.isFinite_zero hfin).mp hneg⟩
  · rintro ⟨hv, hfin, hle⟩
    exact ⟨⟨hv, Number.convertible_of_isFinite hfin⟩, hfin, Number.not_lt_of_le hle⟩

theorem checkFactor_iff : checkFactor v = .ok n ↔ v = .num n ∧ n.IsFactor := by
  rw [checkFactor_eq_ok, Value.measurable_eq_ok]
  constructor
  · rintro ⟨⟨hv, -⟩, hfin, hless⟩
    exact ⟨hv, hfin, (Number.not_lt_iff_of_isFinite Number.isFinite_one hfin).mp hless⟩
  · rintro ⟨hv, hfin, hle⟩
    exact ⟨⟨hv, Number.convertible_of_isFinite hfin⟩, hfin, Number.not_lt_of_le hle⟩

theorem checkCap_iff {least : Number} {c : Option Number} (hleast : least.IsDelay) :
    checkCap least v = .ok c ↔ v = optionalNumber c ∧ IsCap least c := by
  constructor
  · intro h
    obtain rfl := eq_of_checkCap h
    refine ⟨rfl, ?_⟩
    rintro n ⟨⟩
    have hless := not_lt_of_checkCap h
    obtain ⟨m, hm, -⟩ := Fault.bind_eq_ok h
    obtain ⟨heq, hdelay⟩ := checkDelay_iff.mp hm
    cases heq
    exact ⟨hdelay, (Number.not_lt_iff_of_isFinite hleast.1 hdelay.1).mp hless⟩
  · rintro ⟨rfl, h⟩
    cases c with
    | none => rfl
    | some m =>
      obtain ⟨hdelay, hle⟩ := h m rfl
      have hm : checkDelay "max_delay" (.num m) = .ok m := checkDelay_iff.mpr ⟨rfl, hdelay⟩
      simp only [optionalNumber, checkCap, hm, bind, Except.bind, if_neg (Number.not_lt_of_le hle)]
      rfl

theorem IsBudget.not_lt {b : Option Number} (h : IsBudget b) (hn : n ∈ b) : ¬ n < 0 := by
  rcases h n hn with hle | rfl
  · exact Number.not_lt_of_le hle
  · decide

theorem checkBudget_iff {b : Option Number} : checkBudget v = .ok b ↔ v = optionalNumber b ∧ IsBudget b := by
  have hzero : ((0 : Number).extent?).isSome := rfl
  constructor
  · intro h
    obtain rfl := eq_of_checkBudget h
    refine ⟨rfl, ?_⟩
    rintro n ⟨⟩
    have hless : ¬ n < 0 := not_lt_of_checkBudget h
    by_cases hnan : n = .real .nan
    · exact .inr hnan
    · exact .inl ((Number.le_iff_of_not_lt hless).mpr ⟨hzero, Number.extent?_isSome.mpr hnan⟩)
  · rintro ⟨rfl, h⟩
    cases b with
    | none => rfl
    | some n => exact checkBudget_of_not_lt (h.not_lt rfl)

end Checks

/-! ## Parameters that make a policy -/

namespace Constant

theorem make_eq_ok {delay budget : Value} {p : Constant} : make delay budget = .ok p ↔
    checkDelay "delay" delay = .ok p.delay ∧ checkBudget budget = .ok p.budget := by
  constructor
  · intro h
    obtain ⟨d, hd, h⟩ := Fault.bind_eq_ok h
    obtain ⟨b, hb, h⟩ := Fault.bind_eq_ok h
    cases h
    exact ⟨hd, hb⟩
  · rintro ⟨hd, hb⟩
    simp only [make, bind, Except.bind, hd, hb]
    rfl

end Constant

namespace Fibonacci

theorem make_eq_ok {least cap budget : Value} {p : Fibonacci} : make least cap budget = .ok p ↔
    checkDelay "min_delay" least = .ok p.least ∧ checkCap p.least cap = .ok p.cap ∧
      checkBudget budget = .ok p.budget := by
  constructor
  · intro h
    obtain ⟨d, hd, h⟩ := Fault.bind_eq_ok h
    obtain ⟨c, hc, h⟩ := Fault.bind_eq_ok h
    obtain ⟨b, hb, h⟩ := Fault.bind_eq_ok h
    cases h
    exact ⟨hd, hc, hb⟩
  · rintro ⟨hd, hc, hb⟩
    simp only [make, bind, Except.bind, hd, hc, hb]
    rfl

end Fibonacci

theorem Fault.map_eq_ok {α β : Type} {r : Except Fault α} {f : α → β} {b : β} :
    r.map f = .ok b ↔ ∃ a, r = .ok a ∧ f a = b := by
  cases r <;> simp [Except.map]

namespace Policy

variable {k : Strategy} {vs : List Value} {p : Policy}

theorem proper_of_ofValues (h : ofValues k vs = .ok p) : p.strategy = k ∧ p.values = vs ∧ p.Proper := by
  unfold ofValues at h
  split at h
  · obtain ⟨q, hq, rfl⟩ := Fault.map_eq_ok.mp h
    obtain ⟨hd, hb⟩ := Constant.make_eq_ok.mp hq
    obtain ⟨rfl, hdelay⟩ := checkDelay_iff.mp hd
    obtain ⟨rfl, hbudget⟩ := checkBudget_iff.mp hb
    exact ⟨rfl, rfl, hdelay, hbudget⟩
  · obtain ⟨q, hq, rfl⟩ := Fault.map_eq_ok.mp h
    obtain ⟨hd, hc, hf, hb⟩ := Exponential.make_eq_ok.mp hq
    obtain ⟨rfl, hdelay⟩ := checkDelay_iff.mp hd
    obtain ⟨rfl, hcap⟩ := (checkCap_iff hdelay).mp hc
    obtain ⟨rfl, hfactor⟩ := checkFactor_iff.mp hf
    obtain ⟨rfl, hbudget⟩ := checkBudget_iff.mp hb
    exact ⟨rfl, rfl, hdelay, hcap, hfactor, hbudget⟩
  · obtain ⟨q, hq, rfl⟩ := Fault.map_eq_ok.mp h
    obtain ⟨hd, hc, hb⟩ := Fibonacci.make_eq_ok.mp hq
    obtain ⟨rfl, hdelay⟩ := checkDelay_iff.mp hd
    obtain ⟨rfl, hcap⟩ := (checkCap_iff hdelay).mp hc
    obtain ⟨rfl, hbudget⟩ := checkBudget_iff.mp hb
    exact ⟨rfl, rfl, hdelay, hcap, hbudget⟩
  · cases h

theorem ofValues_of_proper (h : p.Proper) : ofValues p.strategy p.values = .ok p := by
  cases p with
  | constant p =>
    obtain ⟨hdelay, hbudget⟩ := h
    exact make_constant (checkDelay_iff.mpr ⟨rfl, hdelay⟩) (checkBudget_iff.mpr ⟨rfl, hbudget⟩)
  | exponential p =>
    obtain ⟨hdelay, hcap, hfactor, hbudget⟩ := h
    exact make_exponential (checkDelay_iff.mpr ⟨rfl, hdelay⟩) ((checkCap_iff hdelay).mpr ⟨rfl, hcap⟩)
      (checkFactor_iff.mpr ⟨rfl, hfactor⟩) (checkBudget_iff.mpr ⟨rfl, hbudget⟩)
  | fibonacci p =>
    obtain ⟨hdelay, hcap, hbudget⟩ := h
    exact make_fibonacci (checkDelay_iff.mpr ⟨rfl, hdelay⟩) ((checkCap_iff hdelay).mpr ⟨rfl, hcap⟩)
      (checkBudget_iff.mpr ⟨rfl, hbudget⟩)

/-- Parameters make the policy that holds them, and only if it is within its limits. -/
theorem ofValues_eq_ok : ofValues k vs = .ok p ↔ p.strategy = k ∧ p.values = vs ∧ p.Proper := by
  constructor
  · exact proper_of_ofValues
  · rintro ⟨rfl, rfl, h⟩
    exact ofValues_of_proper h

theorem proper_of_make {keywords : Keywords} (h : make k keywords = .ok p) : p.strategy = k ∧ p.Proper := by
  obtain ⟨vs, -, h⟩ := Fault.bind_eq_ok h
  obtain ⟨hk, -, hproper⟩ := proper_of_ofValues h
  exact ⟨hk, hproper⟩

end Policy

end Backoff

/-- However settings have come about, the policy that they describe is within its limits. -/
theorem Settings.proper_of_toPolicy {s : Settings} {p : Policy} (h : s.toPolicy = .ok p) : p.Proper := by
  obtain ⟨capped, -, h⟩ := Fault.bind_eq_ok h
  cases capped
  all_goals
    dsimp only at h
    split at h <;> exact (Policy.proper_of_ofValues h).2.2

namespace Backoff.Policy

/-- The ways to a policy: it is made of named parameters, or described by settings that have been made. -/
inductive Obtained : Policy → Prop where
  | made {k : Strategy} {keywords : Keywords} {p : Policy} (h : make k keywords = .ok p) : Obtained p
  | described {keywords : Keywords} {s : Settings} {p : Policy} (hs : Settings.make keywords = .ok s)
    (hp : s.toPolicy = .ok p) : Obtained p

theorem Obtained.proper {p : Policy} (h : p.Obtained) : p.Proper := by
  cases h with
  | made h => exact (proper_of_make h).2
  | described _ hp => exact Settings.proper_of_toPolicy hp

end Backoff.Policy

end Reattempt
