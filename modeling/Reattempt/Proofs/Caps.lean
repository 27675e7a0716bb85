import Reattempt.Proofs.Comparison
import Reattempt.Proofs.Loading

/-!
# What becomes of a cap

A cap that is positive is checked when the settings are made, and the policy that they describe has it; one that is
not positive stands for no cap. Both are asked by comparing with zero. A not-a-number is no more positive than zero
is, though it is not zero or below: it passes for no cap, and nobody is told. A whole number that is too large to be
asked whether it is finite is refused, but by another fault than the complaint about a setting.
-/
namespace Reattempt

open Backoff

def Backoff.Policy.cap? : Policy → Option Number
  | .constant _ => none
  | .exponential p => p.cap
  | .fibonacci p => p.cap

namespace Settings

/-- The cap is refused by a complaint about it, or the policy that is described has it, or it is zero or below and
the policy has none. -/
inductive Honours (made : Except Fault Settings) (cap : Number) : Prop where
  | refused (reason : String) (h : made = .error (Fault.invalidSetting "max_delay" (.num cap) reason))
  | kept {s : Settings} {p : Policy} (h : made = .ok s) (hp : s.toPolicy = .ok p) (hc : p.cap? = some cap)
  | disabled {s : Settings} {p : Policy} (h : made = .ok s) (hp : s.toPolicy = .ok p) (hc : p.cap? = none)
    (hcap : cap ≤ 0)

/-- Values of settings for a strategy with a cap, which have nothing wrong with them but perhaps the cap. -/
structure Sound (s : Settings) (k : Strategy) : Prop where
  strategy : normalized s.strategy = .ok (.str k.name)
  grows : k ≠ .constant
  least : ∃ d, checkDelay "min_delay" s.minDelay = .ok d
  factor : ∃ f, checkFactor s.factor = .ok f
  budget : ∃ b, checkBudget s.maxTimes = .ok b

/-! ## Making settings -/

theorem checkStrategy_name (k : Strategy) : checkStrategy (.str k.name) = .ok k := by
  cases k <;> rfl

/-- Only the cap is left to decide. -/
theorem Sound.validate_eq {s : Settings} {k : Strategy} (h : s.Sound k) : ∃ d, validate s = (do
    checkGrowth k d s.maxDelay
    return { s with strategy := .str k.name }) := by
  obtain ⟨d, hd⟩ := h.least
  obtain ⟨f, hf⟩ := h.factor
  obtain ⟨b, hb⟩ := h.budget
  refine ⟨d, ?_⟩
  rw [Settings.validate_eq, h.strategy]
  simp only [bind, Except.bind, checkStrategy_name, hd, hf, hb]

section Cap

variable {m : Number}

theorem checkCap_of_convertible (hm : m.convertible) (least : Number) : checkCap least (.num m) = .ok (some m) ∨
    ∃ reason, checkCap least (.num m) = .error (Fault.invalidSetting "max_delay" (.num m) reason) := by
  have hmeasure : (Value.num m).measurable = .ok m := Value.measurable_eq_ok.mpr ⟨rfl, hm⟩
  simp only [checkCap, checkDelay, hmeasure, bind, Except.bind]
  cases !m.isFinite || m < 0 with
  | true => exact .inr ⟨_, rfl⟩
  | false =>
    simp only [Bool.false_eq_true, if_false]
    by_cases hless : m < least
    · simp only [pure, Except.pure, hless, if_true]
      exact .inr ⟨_, rfl⟩
    · simp only [pure, Except.pure, hless, if_false]
      exact .inl trivial

theorem checkCap_of_not_convertible (hm : ¬ m.convertible) (least : Number) :
    checkCap least (.num m) = .error Fault.unconvertible := by
  have hmeasure : (Value.num m).measurable = .error Fault.unconvertible := if_neg hm
  simp only [checkCap, checkDelay, hmeasure]
  rfl

theorem isCap_num (m : Number) : isCap (.num m) = .ok (decide (0 < m)) := rfl

/-- A positive cap is looked at, and no other is. -/
theorem checkGrowth_num {k : Strategy} (hk : k ≠ .constant) (least m : Number) :
    checkGrowth k least (.num m) = if 0 < m then (checkCap least (.num m)).map fun _ => () else .ok () := by
  rw [checkGrowth, if_pos hk, isCap_num]
  by_cases hm : 0 < m
  · simp only [hm, decide_true, if_true, bind, Except.bind]
    cases checkCap least (.num m) <;> rfl
  · simp only [hm, decide_false, if_false]
    rfl

/-- The policy of settings that grow has their cap just if it is positive. -/
theorem cap?_of_passed {s : Settings} {k : Strategy} (h : s.Passed k) (hk : k ≠ .constant)
    (hm : s.maxDelay = .num m) : ∃ p, s.toPolicy = .ok p ∧ p.cap? = if 0 < m then some m else none := by
  obtain ⟨p, hp, rfl, hvalues⟩ := h.toPolicy (hm ▸ isCap_num m)
  refine ⟨p, hp, optionalNumber_injective ?_⟩
  have hcap : optionalNumber p.cap? = if decide (0 < m) then s.maxDelay else .none := by
    cases p with
    | constant p => exact absurd rfl hk
    | exponential p => exact (List.cons.inj (List.cons.inj hvalues).2).1
    | fibonacci p => exact (List.cons.inj (List.cons.inj hvalues).2).1
  rw [hcap, hm]
  by_cases hpos : 0 < m <;> simp only [hpos] <;> rfl

/-- What making settings comes to, by their cap. -/
inductive Fate (made : Except Fault Settings) (m : Number) : Prop where
  | tooLarge (hpos : 0 < m) (hc : ¬ m.convertible) (h : made = .error Fault.unconvertible)
  | refused (hpos : 0 < m) (hc : m.convertible) (reason : String)
    (h : made = .error (Fault.invalidSetting "max_delay" (.num m) reason))
  | made {s : Settings} {p : Policy} (hc : 0 < m → m.convertible) (h : made = .ok s) (hp : s.toPolicy = .ok p)
    (hcap : p.cap? = if 0 < m then some m else none)

theorem Sound.fate {s : Settings} {k : Strategy} (h : s.Sound k) (hm : s.maxDelay = .num m) :
    Fate (validate s) m := by
  obtain ⟨d, hvalidate⟩ := h.validate_eq
  have hmade : ∀ s', (0 < m → m.convertible) → validate s = .ok s' → Fate (validate s) m := by
    intro s' hc hs'
    obtain ⟨k', hname, rfl, hpassed⟩ := passed_of_validate hs'
    obtain rfl : k = k' := by
      have heq := Value.str.inj (Except.ok.inj (h.strategy.symm.trans hname))
      revert heq
      cases k <;> cases k' <;> simp [Strategy.name]
    obtain ⟨p, hp, hcap⟩ := cap?_of_passed hpassed h.grows hm
    exact .made hc hs' hp hcap
  rw [hm, checkGrowth_num h.grows] at hvalidate
  by_cases hpos : 0 < m
  · rw [if_pos hpos] at hvalidate
    by_cases hc : m.convertible
    · rcases checkCap_of_convertible hc d with hcap | ⟨reason, hcap⟩
      · rw [hcap] at hvalidate
        exact hmade _ (fun _ => hc) hvalidate
      · rw [hcap] at hvalidate
        exact .refused hpos hc reason hvalidate
    · rw [checkCap_of_not_convertible hc] at hvalidate
      exact .tooLarge hpos hc hvalidate
  · rw [if_neg hpos] at hvalidate
    exact hmade _ (fun h => absurd h hpos) hvalidate

/-- Only a number that lies somewhere is compared. -/
theorem ne_nan_of_pos (hpos : 0 < m) : m ≠ .real .nan := by
  rintro rfl
  cases hpos

theorem Fate.honours_iff {made : Except Fault Settings} (h : Fate made m) :
    Honours made m ↔ m ≠ .real .nan ∧ (0 < m → m.convertible) := by
  cases h with
  | tooLarge hpos hc h =>
    subst h
    refine ⟨fun honours => ?_, fun ⟨_, hconv⟩ => absurd (hconv hpos) hc⟩
    cases honours with
    | refused reason h => cases h
    | kept h => cases h
    | disabled h => cases h
  | refused hpos hc reason h => exact ⟨fun _ => ⟨ne_nan_of_pos hpos, fun _ => hc⟩, fun _ => .refused reason h⟩
  | made hc h hp hcap =>
    by_cases hpos : 0 < m
    · rw [if_pos hpos] at hcap
      exact ⟨fun _ => ⟨ne_nan_of_pos hpos, hc⟩, fun _ => .kept h hp hcap⟩
    · rw [if_neg hpos] at hcap
      refine ⟨fun honours => ⟨?_, hc⟩, fun ⟨hnan, _⟩ =>
        .disabled h hp hcap ((Number.le_zero_iff_of_not_pos hpos).mpr hnan)⟩
      cases honours with
      | refused reason h' => cases h.symm.trans h'
      | kept h' hp' hcap' =>
        cases h.symm.trans h'
        cases hp.symm.trans hp'
        cases hcap.symm.trans hcap'
      | disabled h' hp' hcap' hle => exact (Number.le_zero_iff_of_not_pos hpos).mp hle

/-- A complaint stays a complaint when settings are loaded. -/
theorem Fate.mapError {made : Except Fault Settings} (h : Fate made m) (hm : m.convertible) :
    Fate (made.mapError Environment.asConfigFault) m := by
  cases h with
  | tooLarge hpos hc h => exact absurd hm hc
  | refused hpos hc reason h =>
    subst h
    refine .refused hpos hc reason (congrArg Except.error (Environment.asConfigFault_of_config ?_))
    rfl
  | made hc h hp hcap =>
    subst h
    exact .made hc rfl hp hcap

theorem Fate.dropped {made : Except Fault Settings} (h : Fate made (.real .nan)) :
    ∃ s p, made = .ok s ∧ s.toPolicy = .ok p ∧ p.cap? = none := by
  cases h with
  | tooLarge hpos => cases hpos
  | refused hpos => cases hpos
  | made hc h hp hcap => exact ⟨_, _, h, hp, hcap⟩

end Cap

theorem make_of_bind {s : Settings} {keywords : Keywords}
    (h : signature.bind [] keywords = .ok (s.fields.map (·.2))) : make keywords = validate s := by
  rw [make, h]
  rfl

end Settings

/-! ## Loading settings -/

namespace Environment

/-- Settings whose fields are all loaded are made of what was loaded. -/
theorem loadSettings_of_loaded {vars : Variables} {s : Settings}
    (h : settingsSchema.fields.map (Field.loaded settingsSchema.lead vars) = s.fields.map (.ok <| some ·.2)) :
    loadSettings vars = (Settings.validate s).mapError asConfigFault ∧ ∃ x, s.maxDelay = .real x := by
  obtain ⟨keywords, hread⟩ : ∃ keywords, readFields settingsSchema.lead vars settingsSchema.fields = .ok keywords := by
    refine ⟨_, readFields_of_readable fun f hf => ?_⟩
    have hmem := List.mem_map_of_mem (f := Field.loaded settingsSchema.lead vars) hf
    rw [h] at hmem
    obtain ⟨q, -, hq⟩ := List.mem_map.mp hmem
    rw [Field.loaded] at hq
    cases hr : readField settingsSchema.lead vars f with
    | error x => rw [hr] at hq; cases hq
    | ok v? => exact (readField_eq_ok_iff.mp hr).1
  obtain ⟨strategy, least, cap, factor, budget, unbounded, hloaded, hmake⟩ := make_of_readFields hread
  have hs : s = ⟨.str strategy, .real least, .real cap, .real factor, .int budget, .bool unbounded⟩ := by
    rw [h] at hloaded
    obtain ⟨v₀, v₁, v₂, v₃, v₄, v₅⟩ := s
    simpa [Settings.fields] using hloaded
  refine ⟨?_, cap, by rw [hs]⟩
  have hload : loadSettings vars = readFields settingsSchema.lead vars settingsSchema.fields >>= fun keywords =>
      (Settings.make keywords).mapError asConfigFault := rfl
  rw [hload, hread, hs, ← hmake]
  rfl

end Environment

namespace Settings

open Environment

/-- The fate of a cap in settings that have nothing else wrong with them. It is refused by a complaint, or kept, or
it is zero or below and there is none, unless it is a not-a-number, or a positive whole number that is too large to
be converted. A not-a-number leaves the policy without a cap, however the settings are made. -/
theorem cap_is_honoured_iff {s : Settings} {k : Strategy} {m : Number} (h : s.Sound k) (hm : s.maxDelay = .num m) :
    (∀ keywords, signature.bind [] keywords = .ok (s.fields.map (·.2)) →
      (Honours (make keywords) m ↔ m ≠ .real .nan ∧ (0 < m → m.convertible)) ∧
      (m = .real .nan → ∃ s p, make keywords = .ok s ∧ s.toPolicy = .ok p ∧ p.cap? = none)) ∧
    ∀ vars, settingsSchema.fields.map (Field.loaded settingsSchema.lead vars) = s.fields.map (.ok <| some ·.2) →
      (Honours (loadSettings vars) m ↔ m ≠ .real .nan) ∧
      (m = .real .nan → ∃ s p, loadSettings vars = .ok s ∧ s.toPolicy = .ok p ∧ p.cap? = none) := by
  have hfate := h.fate hm
  refine ⟨fun keywords hbind => ?_, fun vars hvars => ?_⟩
  · rw [make_of_bind hbind]
    refine ⟨hfate.honours_iff, ?_⟩
    rintro rfl
    exact hfate.dropped
  · obtain ⟨hload, x, hx⟩ := loadSettings_of_loaded hvars
    obtain rfl : m = .real x := Value.num.inj (hm.symm.trans hx)
    have hfate' := hfate.mapError rfl
    rw [hload]
    refine ⟨hfate'.honours_iff.trans (and_iff_left fun _ => rfl), ?_⟩
    intro hnan
    rw [hnan] at hfate'
    exact hfate'.dropped

theorem sound_defaults (cap : Value) : ({ defaults with maxDelay := cap } : Settings).Sound .exponential where
  strategy := rfl
  grows := nofun
  least := ⟨.real (.ofInt 1), checkDelay_eq_ok.mpr ⟨rfl, by decide +kernel, by decide +kernel⟩⟩
  factor := ⟨.real (.ofInt 2), checkFactor_eq_ok.mpr ⟨rfl, by decide +kernel, by decide +kernel⟩⟩
  budget := ⟨some 3, checkBudget_of_not_lt (by decide +kernel)⟩

theorem bind_cap (cap : Value) : signature.bind [] [("max_delay", cap)] =
    .ok (({ defaults with maxDelay := cap } : Settings).fields.map (·.2)) := rfl

theorem loaded_nan : settingsSchema.fields.map (Field.loaded settingsSchema.lead [("ARETRY_MAX_DELAY", "nan")]) =
    ({ defaults with maxDelay := .real .nan } : Settings).fields.map (.ok <| some ·.2) := rfl

/-- By name or from a variable, a not-a-number is not honoured. -/
theorem nan_is_not_honoured : ¬ Honours (make [("max_delay", .real .nan)]) (.real .nan) ∧
    ¬ Honours (loadSettings [("ARETRY_MAX_DELAY", "nan")]) (.real .nan) := by
  have h := cap_is_honoured_iff (sound_defaults (.real .nan)) rfl
  exact ⟨fun honours => ((h.1 _ (bind_cap _)).1.mp honours).1 rfl,
    fun honours => (h.2 _ loaded_nan).1.mp honours rfl⟩

/-- Settings whose cap is a not-a-number are made, and their policy has no cap though theirs is not zero or below. -/
theorem nan_drops_cap : ∃ s p, make [("max_delay", .real .nan)] = .ok s ∧ s.toPolicy = .ok p ∧
    p.cap? = none ∧ ¬ Number.real .nan ≤ 0 := by
  obtain ⟨s, p, hs, hp, hcap⟩ := ((sound_defaults (.real .nan)).fate rfl).dropped
  exact ⟨s, p, (make_of_bind (bind_cap _)).trans hs, hp, hcap, nofun⟩

end Settings

end Reattempt
