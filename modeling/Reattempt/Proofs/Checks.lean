import Reattempt.Settings

/-!
# Settings that pass their checks

Settings are checked when they are made, and the policy that they describe checks its parameters again. The
two ask the same in another order, and not quite the same: only a policy that grows is asked about its cap, and
a policy is not told of a cap that is none. What has passed the first checks passes the second, and the policy
holds the values of the settings.
-/
namespace Reattempt

open Backoff

variable {α β : Type}

theorem Fault.eq_ok_of_toOption {r : Except Fault α} {a : α} (h : r.toOption = some a) : r = .ok a := by
  cases r with
  | error x => cases h
  | ok b => exact congrArg Except.ok (Option.some.inj h)

/-- A complaint about the value of a setting. -/
def Fault.Refuses (x : Fault) : Prop := ∃ setting v reason, x = Fault.invalidSetting setting v reason

/-- A complaint about the value of a setting, or that the value has too many digits to be written into one. -/
def Fault.Objects (x : Fault) : Prop := x.Refuses ∨ x = Fault.overlong

/-- A complaint about configuration. -/
def Fault.Complains (x : Fault) : Prop := x.isA (.complaint .config)

theorem Fault.Refuses.complains {x : Fault} (h : x.Refuses) : x.Complains := by
  obtain ⟨setting, v, reason, rfl⟩ := h
  rfl

/-- Whatever goes wrong is of one kind. -/
def FailsBy (P : Fault → Prop) (r : Except Fault α) : Prop := ∀ x, r = .error x → P x

namespace FailsBy

variable {P : Fault → Prop}

theorem ok (a : α) : FailsBy P (.ok a) := nofun

theorem error {x : Fault} (h : P x) : FailsBy P (.error x : Except Fault α) := by
  rintro _ ⟨⟩
  exact h

theorem invalid (setting : String) (v : Value) (reason : String) :
    FailsBy Fault.Refuses (.error (Fault.invalidSetting setting v reason) : Except Fault α) :=
  .error ⟨setting, v, reason, rfl⟩

theorem bind {r : Except Fault α} {f : α → Except Fault β} (hr : FailsBy P r)
    (hf : ∀ a, r = .ok a → FailsBy P (f a)) : FailsBy P (r >>= f) := by
  cases r with
  | error y =>
    rintro x ⟨⟩
    exact hr y rfl
  | ok a => exact hf a rfl

theorem objects {r : Except Fault α} (h : FailsBy Fault.Refuses r) : FailsBy Fault.Objects r :=
  fun x hx => .inl (h x hx)

theorem map {r : Except Fault α} (h : FailsBy P r) (f : α → β) : FailsBy P (r.map f) := by
  cases r with
  | error y =>
    rintro x ⟨⟩
    exact h y rfl
  | ok a => exact .ok (f a)

end FailsBy

namespace Backoff

/-! ## Single checks -/

section Checks

variable {name : String} {v : Value} {n : Number}

theorem checkDelay_eq_ok : checkDelay name v = .ok n ↔ v.measurable = .ok n ∧ n.isFinite ∧ ¬ n < 0 := by
  constructor
  · intro h
    obtain ⟨m, hm, h⟩ := Fault.bind_eq_ok h
    split at h
    · cases h
    · next hn =>
      cases h
      simpa [hm] using hn
  · rintro ⟨hm, hfin, hneg⟩
    simp only [checkDelay, hm, bind, Except.bind, hfin, hneg]
    rfl

/-- A delay is one by any name. -/
theorem checkDelay_rename {name' : String} (h : checkDelay name v = .ok n) : checkDelay name' v = .ok n :=
  checkDelay_eq_ok.mpr (checkDelay_eq_ok.mp h)

theorem eq_of_checkDelay (h : checkDelay name v = .ok n) : v = .num n :=
  (Value.measurable_eq_ok.mp (checkDelay_eq_ok.mp h).1).1

theorem eq_of_checkFactor (h : checkFactor v = .ok n) : v = .num n := by
  obtain ⟨m, hm, h⟩ := Fault.bind_eq_ok h
  split at h
  · cases h
  · cases h
    exact (Value.measurable_eq_ok.mp hm).1

theorem checkFactor_eq_ok : checkFactor v = .ok n ↔ v.measurable = .ok n ∧ n.isFinite ∧ ¬ n < 1 := by
  constructor
  · intro h
    obtain ⟨m, hm, h⟩ := Fault.bind_eq_ok h
    split at h
    · cases h
    · next hn =>
      cases h
      simpa [hm] using hn
  · rintro ⟨hm, hfin, hless⟩
    simp only [checkFactor, hm, bind, Except.bind, hfin, hless]
    rfl

theorem eq_of_checkBudget {b : Option Number} (h : checkBudget v = .ok b) : v = optionalNumber b := by
  cases v with
  | none => cases h; rfl
  | num m =>
    obtain ⟨m', hm, h⟩ := Fault.bind_eq_ok h
    cases hm
    split at h
    · obtain ⟨x, -, h⟩ := Fault.bind_eq_ok h
      cases h
    · cases h; rfl
  | _ => cases h

theorem not_lt_of_checkBudget {b : Option Number} (h : checkBudget (.num n) = .ok b) : ¬ n < 0 := by
  obtain ⟨m, hm, h⟩ := Fault.bind_eq_ok h
  cases hm
  split at h
  · obtain ⟨x, -, h⟩ := Fault.bind_eq_ok h
    cases h
  · assumption

theorem checkBudget_of_not_lt (h : ¬ n < 0) : checkBudget (.num n) = .ok (some n) := by
  simp only [checkBudget, Value.comparable_num, bind, Except.bind, if_neg h]
  rfl

theorem eq_of_checkCap {least : Number} {c : Option Number} (h : checkCap least v = .ok c) :
    v = optionalNumber c := by
  cases v with
  | none => cases h; rfl
  | num m =>
    obtain ⟨m', hm, h⟩ := Fault.bind_eq_ok h
    obtain rfl : m = m' := Value.num.inj (eq_of_checkDelay hm)
    split at h
    · cases h
    · cases h; rfl
  | _ => cases h

/-- A cap is a delay, and at least the first. -/
theorem not_lt_of_checkCap {least c : Number} (h : checkCap least v = .ok (some c)) : ¬ c < least := by
  obtain rfl := eq_of_checkCap h
  obtain ⟨m, hm, h⟩ := Fault.bind_eq_ok h
  obtain rfl : c = m := Value.num.inj (eq_of_checkDelay hm)
  split at h
  · cases h
  · assumption

theorem refuses_checkDelay (h : v.measurable = .ok n) : FailsBy Fault.Refuses (checkDelay name v) := by
  refine .bind (by rw [h]; exact .ok n) fun m _ => ?_
  split
  · exact .invalid _ _ _
  · exact .ok m

theorem refuses_checkFactor (h : v.measurable = .ok n) : FailsBy Fault.Refuses (checkFactor v) := by
  refine .bind (by rw [h]; exact .ok n) fun m _ => ?_
  split
  · exact .invalid _ _ _
  · exact .ok m

theorem refuses_checkCap (least : Number) (h : v.measurable = .ok n) : FailsBy Fault.Refuses (checkCap least v) := by
  obtain ⟨rfl, -⟩ := Value.measurable_eq_ok.mp h
  refine .bind (refuses_checkDelay h) fun m _ => ?_
  split
  · exact .invalid _ _ _
  · exact .ok _

theorem objects_wrongSetting (setting : String) (v : Value) (reason : String) : FailsBy Fault.Objects
    (Fault.wrongSetting .own (.str setting) v (.str reason) >>= fun x => (.error x : Except Fault α)) := by
  by_cases hv : v.isOverlong
  · simp only [Fault.wrongSetting, Value.shown, hv, if_true]
    exact .error (.inr rfl)
  · rw [Fault.wrongSetting_str setting (by simpa using hv)]
    exact .error (.inl ⟨setting, v, reason, rfl⟩)

theorem objects_checkBudget : FailsBy Fault.Objects (checkBudget (.num n)) := by
  refine .bind (.ok n) fun m _ => ?_
  split
  · exact objects_wrongSetting _ _ _
  · exact .ok _

theorem refuses_checkBudget (h : n < 0 → n.isOverlong = false) : FailsBy Fault.Refuses (checkBudget (.num n)) := by
  refine .bind (.ok n) fun m hm => ?_
  cases hm
  split
  · next hless =>
    have hshort : (Value.num n).isOverlong = false := h hless
    rw [Fault.wrongSetting_str _ hshort]
    exact .invalid _ _ _
  · exact .ok _

end Checks

/-! ## Policies hold what they are made from -/

section Made

variable {least cap factor budget : Value} {d f : Number} {c b : Option Number}

theorem Exponential.make_eq_ok {p : Exponential} : Exponential.make least cap factor budget = .ok p ↔
    checkDelay "min_delay" least = .ok p.least ∧ checkCap p.least cap = .ok p.cap ∧
      checkFactor factor = .ok p.factor ∧ checkBudget budget = .ok p.budget := by
  constructor
  · intro h
    obtain ⟨d, hd, h⟩ := Fault.bind_eq_ok h
    obtain ⟨c, hc, h⟩ := Fault.bind_eq_ok h
    obtain ⟨b, hb, h⟩ := Fault.bind_eq_ok h
    obtain ⟨f, hf, h⟩ := Fault.bind_eq_ok h
    cases h
    exact ⟨hd, hc, hf, hb⟩
  · rintro ⟨hd, hc, hf, hb⟩
    simp only [Exponential.make, bind, Except.bind, hd, hc, hb, hf]
    rfl

theorem make_constant (hd : checkDelay "delay" least = .ok d) (hb : checkBudget budget = .ok b) :
    Policy.ofValues .constant [least, budget] = .ok (.constant ⟨d, b⟩) := by
  simp only [Policy.ofValues, Constant.make, hd, hb]
  rfl

theorem make_exponential (hd : checkDelay "min_delay" least = .ok d) (hc : checkCap d cap = .ok c)
    (hf : checkFactor factor = .ok f) (hb : checkBudget budget = .ok b) :
    Policy.ofValues .exponential [least, cap, factor, budget] = .ok (.exponential ⟨d, c, f, b⟩) := by
  simp only [Policy.ofValues, Exponential.make, bind, Except.bind, hd, hc, hb, hf]
  rfl

theorem make_fibonacci (hd : checkDelay "min_delay" least = .ok d) (hc : checkCap d cap = .ok c)
    (hb : checkBudget budget = .ok b) :
    Policy.ofValues .fibonacci [least, cap, budget] = .ok (.fibonacci ⟨d, c, b⟩) := by
  simp only [Policy.ofValues, Fibonacci.make, bind, Except.bind, hd, hc, hb]
  rfl

end Made

end Backoff

/-! ## Settings -/

namespace Settings

/-- The settings have passed their checks, as settings for a strategy. -/
structure Passed (s : Settings) (k : Strategy) : Prop where
  strategy : s.strategy = .str k.name
  delays : ∃ d, checkDelay "min_delay" s.minDelay = .ok d ∧
    (k ≠ .constant → isCap s.maxDelay = .ok true → ∃ c, checkCap d s.maxDelay = .ok c)
  factor : ∃ f, checkFactor s.factor = .ok f
  budget : ∃ b, checkBudget s.maxTimes = .ok b

theorem name_of_ofName? {name : String} {k : Strategy} (h : Strategy.ofName? name = some k) : k.name = name := by
  simpa using List.find?_some h

theorem checkStrategy_eq_ok {v : Value} {k : Strategy} (h : checkStrategy v = .ok k) : v = .str k.name := by
  unfold checkStrategy at h
  split at h
  · split at h
    · next hk =>
      cases h
      rw [name_of_ofName? hk]
    · cases h
  · cases h

theorem refuses_checkStrategy (v : Value) : FailsBy Fault.Refuses (checkStrategy v) := by
  unfold checkStrategy
  split
  · split
    · exact .ok _
    · exact .invalid _ _ _
  · exact .invalid _ _ _

/-- Only a policy that grows is asked about its cap. -/
def checkGrowth (k : Strategy) (least : Number) (cap : Value) : Except Fault Unit := do
  if k ≠ .constant then
    if ← isCap cap then
      let _ ← checkCap least cap

theorem isCap_real (x : Binary64) : isCap (.real x) = .ok (decide (0 < Number.real x)) := rfl

theorem cap_of_checkGrowth {k : Strategy} {least : Number} {cap : Value} (h : checkGrowth k least cap = .ok ())
    (hk : k ≠ .constant) (hc : isCap cap = .ok true) : ∃ c, checkCap least cap = .ok c := by
  rw [checkGrowth, if_pos hk, hc] at h
  obtain ⟨capped, hcapped, h⟩ := Fault.bind_eq_ok h
  cases hcapped
  obtain ⟨c, hc, -⟩ := Fault.bind_eq_ok h
  exact ⟨c, hc⟩

theorem refuses_checkGrowth (k : Strategy) (least : Number) (x : Binary64) :
    FailsBy Fault.Refuses (checkGrowth k least (.real x)) := by
  unfold checkGrowth
  split
  · refine .bind (.ok _) fun capped _ => ?_
    split
    · exact .bind (refuses_checkCap least rfl) fun _ _ => .ok ()
    · exact .ok ()
  · exact .ok ()

theorem validate_eq (s : Settings) : validate s = (do
    let v ← normalized s.strategy
    let k ← checkStrategy v
    let d ← checkDelay "min_delay" s.minDelay
    checkGrowth k d s.maxDelay
    let _ ← checkFactor s.factor
    let _ ← checkBudget s.maxTimes
    return { s with strategy := v }) := by
  unfold validate
  refine bind_congr fun v => bind_congr fun k => bind_congr fun d => ?_
  unfold checkGrowth
  split
  · cases isCap s.maxDelay with
    | error x => rfl
    | ok capped =>
      cases capped with
      | false => rfl
      | true => cases hc : checkCap d s.maxDelay <;> rfl
  · rfl

/-- Settings that come out of the checks have passed them. Only the strategy is not as it went in. -/
theorem passed_of_validate {s s' : Settings} (h : validate s = .ok s') :
    ∃ k : Strategy, normalized s.strategy = .ok (.str k.name) ∧ s' = { s with strategy := .str k.name } ∧
      s'.Passed k := by
  rw [validate_eq] at h
  obtain ⟨v, hv, h⟩ := Fault.bind_eq_ok h
  obtain ⟨k, hk, h⟩ := Fault.bind_eq_ok h
  obtain ⟨d, hd, h⟩ := Fault.bind_eq_ok h
  obtain ⟨⟨⟩, hg, h⟩ := Fault.bind_eq_ok h
  obtain ⟨f, hf, h⟩ := Fault.bind_eq_ok h
  obtain ⟨b, hb, h⟩ := Fault.bind_eq_ok h
  obtain rfl := checkStrategy_eq_ok hk
  cases h
  exact ⟨k, hv, rfl, rfl, ⟨d, hd, cap_of_checkGrowth hg⟩, ⟨f, hf⟩, ⟨b, hb⟩⟩

/-- All that can be wrong with settings of the right kinds is the value of one of them. -/
theorem objects_validate (strategy : String) (least cap factor : Binary64) (budget : Int) (unbounded : Bool) :
    FailsBy Fault.Objects
      (validate ⟨.str strategy, .real least, .real cap, .real factor, .int budget, .bool unbounded⟩) := by
  rw [validate_eq]
  refine .bind (.ok _) fun v _ => .bind (.objects (refuses_checkStrategy v)) fun k _ => ?_
  refine .bind (.objects (refuses_checkDelay rfl)) fun d _ => ?_
  refine .bind (.objects (refuses_checkGrowth k d cap)) fun _ _ => ?_
  exact .bind (.objects (refuses_checkFactor rfl)) fun _ _ => .bind objects_checkBudget fun _ _ => .ok _

/-- What the settings say about a policy, in the order of its strategy. -/
def parameters (s : Settings) (k : Strategy) (capped : Bool) : List Value :=
  let budget := if s.unbounded.isTruthy then .none else s.maxTimes
  let cap := if capped then s.maxDelay else .none
  match k with
  | .constant => [s.minDelay, budget]
  | .exponential => [s.minDelay, cap, s.factor, budget]
  | .fibonacci => [s.minDelay, cap, budget]

theorem toPolicy_eq {s : Settings} {k : Strategy} {capped : Bool} (hs : s.strategy = .str k.name)
    (hc : isCap s.maxDelay = .ok capped) : s.toPolicy = Policy.ofValues k (s.parameters k capped) := by
  simp only [toPolicy, hs, hc]
  cases k <;> rfl

/-- Settings that have passed describe a policy of their strategy, with their values. -/
theorem Passed.toPolicy {s : Settings} {k : Strategy} (h : s.Passed k) {capped : Bool}
    (hc : isCap s.maxDelay = .ok capped) :
    ∃ p, s.toPolicy = .ok p ∧ p.strategy = k ∧ p.values = s.parameters k capped := by
  obtain ⟨d, hd, hcap⟩ := h.delays
  obtain ⟨f, hf⟩ := h.factor
  obtain ⟨b, hb⟩ : ∃ b, checkBudget (if s.unbounded.isTruthy then .none else s.maxTimes) = .ok b := by
    split
    · exact ⟨none, rfl⟩
    · exact h.budget
  have hcap : k ≠ .constant → ∃ c, checkCap d (if capped then s.maxDelay else .none) = .ok c := by
    intro hk
    cases capped with
    | true => exact hcap hk hc
    | false => exact ⟨none, rfl⟩
  rw [toPolicy_eq h.strategy hc]
  cases k with
  | constant =>
    refine ⟨_, make_constant (checkDelay_rename hd) hb, rfl, ?_⟩
    simp only [Policy.values, parameters, eq_of_checkDelay hd, eq_of_checkBudget hb]
  | exponential =>
    obtain ⟨c, hc⟩ := hcap nofun
    refine ⟨_, make_exponential hd hc hf hb, rfl, ?_⟩
    simp only [Policy.values, parameters, eq_of_checkDelay hd, eq_of_checkBudget hb, eq_of_checkCap hc,
      eq_of_checkFactor hf]
  | fibonacci =>
    obtain ⟨c, hc⟩ := hcap nofun
    refine ⟨_, make_fibonacci hd hc hb, rfl, ?_⟩
    simp only [Policy.values, parameters, eq_of_checkDelay hd, eq_of_checkBudget hb, eq_of_checkCap hc]

end Settings

end Reattempt
