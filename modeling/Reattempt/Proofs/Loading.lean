import Reattempt.Proofs.Reading

/-!
# Loading settings is safe

Whatever the environment holds, loading settings ends with a complaint about configuration or with settings that
describe a policy. A field that is read is of the kind its hint names, so that the checks of the settings have
nothing to say about kinds; and what they let pass, the policy lets pass too.
-/
namespace Reattempt

open Backoff

namespace Signature

/-- Parameters that may all be left out are bound to what is given for them, or to their defaults. -/
theorem bind_of_optional {s : Signature} {keywords : Keywords}
    (hp : ∀ p ∈ s.parameters, p.keywordOnly = false ∧ p.default?.isSome)
    (hk : ∀ q ∈ keywords, ∃ p ∈ s.parameters, p.name = q.1) :
    s.bind [] keywords = .ok (s.parameters.filterMap (valueOf? keywords)) := by
  have hrefused : s.refused? [] keywords = none := by
    refine List.findSome?_eq_none_iff.mpr ?_
    rintro ⟨k, v⟩ hmem
    obtain ⟨p, hmem, hname⟩ := hk _ hmem
    have hany : s.parameters.any (·.name = k) = true := List.any_eq_true.mpr ⟨p, hmem, by simpa using hname⟩
    have hreceiver : s.isReceiver k = false := by
      have hall : s.parameters.all (·.name ≠ k) = false :=
        List.all_eq_false.mpr ⟨p, hmem, by simpa using hname⟩
      simp only [isReceiver, hall, Bool.and_false]
    simp [hany, hreceiver]
  have hpositional : s.positional = s.parameters :=
    List.filter_eq_self.mpr fun p hmem => by simp [(hp p hmem).1]
  have hkeyword : s.parameters.filter (·.keywordOnly) = [] :=
    List.filter_eq_nil_iff.mpr fun p hmem => by simp [(hp p hmem).1]
  have hlacking : s.parameters.filter (fun p => (valueOf? keywords p).isNone) = [] := by
    refine List.filter_eq_nil_iff.mpr fun p hmem => ?_
    obtain ⟨d, hd⟩ := Option.isSome_iff_exists.mp (hp p hmem).2
    simp [valueOf?, hd]
  simp [bind, hrefused, hpositional, hkeyword, hlacking]

end Signature

namespace Environment

/-! ## Reading -/

/-- The values that a hint stands for. -/
def Hint.Fits : Hint → Value → Prop
  | .truth, v => ∃ b, v = .bool b
  | .whole, v => ∃ i, v = .int i
  | .real, v => ∃ x, v = .real x
  | .text, v => ∃ s, v = .str s

theorem Hint.fits_read {hint : Hint} {raw : String} {v : Value} (h : hint.read raw = .ok v) : hint.Fits v := by
  cases hint with
  | truth =>
    simp only [Hint.read] at h
    split at h
    · cases h
      exact ⟨true, rfl⟩
    · split at h
      · cases h
        exact ⟨false, rfl⟩
      · cases h
  | whole =>
    cases hr : Text.whole? raw with
    | error e =>
      rw [Hint.read, hr] at h
      cases h
    | ok i =>
      simp only [Hint.read, hr] at h
      cases h
      exact ⟨i, rfl⟩
  | real =>
    cases hr : Text.real? raw with
    | error e =>
      rw [Hint.read, hr] at h
      cases h
    | ok x =>
      simp only [Hint.read, hr] at h
      cases h
      exact ⟨x, rfl⟩
  | text =>
    cases h
    exact ⟨raw, rfl⟩

section Fields

variable {lead : String} {vars : Variables}

theorem complains_readFields (fs : List Field) : FailsBy Fault.Complains (readFields lead vars fs) := by
  intro x hx
  obtain ⟨f, hf⟩ := readFields_eq_error_iff.mp hx
  exact hf.hinders.complains

/-- Nothing but fields is read. -/
theorem field_of_readFields {fs : List Field} {keywords : Keywords}
    (h : readFields lead vars fs = .ok keywords) : ∀ q ∈ keywords, ∃ f ∈ fs, f.name = q.1 := by
  obtain ⟨-, rfl⟩ := readFields_eq_ok_iff.mp h
  intro q hq
  obtain ⟨f, hf, hname, -⟩ := mem_present.mp hq
  exact ⟨f, hf, hname⟩

/-- Every field is read by itself. -/
theorem lookup_of_readFields {fs : List Field} {keywords : Keywords} (hnodup : (fs.map (·.name)).Nodup)
    (h : readFields lead vars fs = .ok keywords) :
    ∀ f ∈ fs, readField lead vars f = .ok (keywords.lookup f.name) := by
  obtain ⟨hall, rfl⟩ := readFields_eq_ok_iff.mp h
  intro f hf
  rw [lookup_present hnodup hf]
  exact readField_eq_ok_iff.mpr ⟨hall f hf, rfl⟩

/-- What a field is loaded with: what its variable holds, or its default. -/
def Field.loaded (lead : String) (vars : Variables) (f : Field) : Except Fault (Option Value) :=
  (readField lead vars f).map (·.or f.default?)

/-- A default is of the kind that the hint of its field names. -/
def Field.Sound (f : Field) : Prop := ∃ d, f.default? = some d ∧ f.hint.Fits d

/-- A field that can be left out is loaded with a value of its kind. -/
theorem Field.Sound.loaded {f : Field} (hf : f.Sound) {v? : Option Value} (h : readField lead vars f = .ok v?) :
    ∃ v, f.hint.Fits v ∧ v?.or f.default? = some v ∧ f.loaded lead vars = .ok (some v) := by
  obtain ⟨d, hd, hfits⟩ := hf
  have hloaded : f.loaded lead vars = .ok (v?.or f.default?) := by
    rw [Field.loaded, h]
    rfl
  cases v? with
  | none => exact ⟨d, hfits, hd, by rw [hloaded, hd]; rfl⟩
  | some v =>
    refine ⟨v, ?_, rfl, hloaded⟩
    simp only [readField] at h
    split at h
    · split at h <;> cases h
    · split at h
      · next hread =>
        cases h
        exact Hint.fits_read hread
      · cases h

end Fields

/-! ## Loading -/

theorem settingsSchema_fields : settingsSchema.fields = [
    ⟨"strategy", .text, some (.str "exponential"), true, true⟩,
    ⟨"min_delay", .real, some one, true, true⟩,
    ⟨"max_delay", .real, some (.num (.real (.ofInt 60))), true, true⟩,
    ⟨"factor", .real, some (.num (.real (.ofInt 2))), true, true⟩,
    ⟨"max_times", .whole, some (.int 3), true, true⟩,
    ⟨"unbounded", .truth, some (.bool false), true, true⟩] := rfl

theorem sound_settingsSchema : ∀ f ∈ settingsSchema.fields, f.Sound := by
  simp only [settingsSchema_fields, List.forall_mem_cons]
  exact ⟨⟨_, rfl, _, rfl⟩, ⟨_, rfl, _, rfl⟩, ⟨_, rfl, _, rfl⟩, ⟨_, rfl, _, rfl⟩, ⟨_, rfl, _, rfl⟩,
    ⟨_, rfl, _, rfl⟩, nofun⟩

theorem parameters_settings : Settings.signature.parameters =
    settingsSchema.fields.map fun f => ⟨f.name, f.default?, false⟩ := rfl

/-- Settings are made of the fields that have been read, with the defaults of the others. -/
theorem make_of_readFields {vars : Variables} {keywords : Keywords}
    (h : readFields settingsSchema.lead vars settingsSchema.fields = .ok keywords) :
    ∃ strategy least cap factor budget unbounded,
      settingsSchema.fields.map (Field.loaded settingsSchema.lead vars) =
        [.str strategy, .real least, .real cap, .real factor, .int budget, .bool unbounded].map (.ok <| some ·) ∧
      Settings.make keywords = Settings.validate
        ⟨.str strategy, .real least, .real cap, .real factor, .int budget, .bool unbounded⟩ := by
  have hbind : Settings.signature.bind [] keywords =
      .ok (Settings.signature.parameters.filterMap (Signature.valueOf? keywords)) := by
    refine Signature.bind_of_optional ?_ ?_
    · intro p hp
      rw [parameters_settings] at hp
      obtain ⟨f, hf, rfl⟩ := List.mem_map.mp hp
      obtain ⟨d, hd, -⟩ := sound_settingsSchema f hf
      exact ⟨rfl, by simp [hd]⟩
    · intro q hq
      obtain ⟨f, hf, hname⟩ := field_of_readFields h q hq
      refine ⟨⟨f.name, f.default?, false⟩, ?_, hname⟩
      rw [parameters_settings]
      exact List.mem_map_of_mem hf
  have hnodup : (settingsSchema.fields.map (·.name)).Nodup := by decide
  have hloaded : ∀ f ∈ settingsSchema.fields, ∃ v, f.hint.Fits v ∧
      (keywords.lookup f.name).or f.default? = some v ∧ f.loaded settingsSchema.lead vars = .ok (some v) :=
    fun f hf => (sound_settingsSchema f hf).loaded (lookup_of_readFields hnodup h f hf)
  rw [settingsSchema_fields] at hloaded
  simp only [List.forall_mem_cons] at hloaded
  obtain ⟨⟨_, ⟨strategy, rfl⟩, hv₀, hl₀⟩, ⟨_, ⟨least, rfl⟩, hv₁, hl₁⟩, ⟨_, ⟨cap, rfl⟩, hv₂, hl₂⟩,
    ⟨_, ⟨factor, rfl⟩, hv₃, hl₃⟩, ⟨_, ⟨budget, rfl⟩, hv₄, hl₄⟩, ⟨_, ⟨unbounded, rfl⟩, hv₅, hl₅⟩, -⟩ := hloaded
  refine ⟨strategy, least, cap, factor, budget, unbounded, ?_, ?_⟩
  · simp only [settingsSchema_fields, List.map, hl₀, hl₁, hl₂, hl₃, hl₄, hl₅]
  · have hvalues : Settings.signature.parameters.filterMap (Signature.valueOf? keywords) =
        [.str strategy, .real least, .real cap, .real factor, .int budget, .bool unbounded] := by
      rw [parameters_settings, settingsSchema_fields]
      simp only [List.map, List.filterMap, Signature.valueOf?, hv₀, hv₁, hv₂, hv₃, hv₄, hv₅]
    rw [hvalues] at hbind
    simp only [Settings.make, hbind]
    rfl

/-- Whatever the variables are, loading settings from them ends with a complaint about configuration, or with
settings that hold what was loaded and describe a policy. The policy is of the strategy that is named, with the
values of the settings; it has no budget just if the settings are unbounded. -/
theorem loaded_settings_describe_policy (vars : Variables) :
    match loadSettings vars with
    | .error x => x.isA (.complaint .config)
    | .ok s => ∃ strategy least cap factor budget unbounded,
        settingsSchema.fields.map (Field.loaded settingsSchema.lead vars) =
          [.str strategy, .real least, .real cap, .real factor, .int budget, .bool unbounded].map (.ok <| some ·) ∧
        ∃ (k : Strategy) (p : Policy), k.name = Settings.stripped strategy ∧
          s = ⟨.str k.name, .real least, .real cap, .real factor, .int budget, .bool unbounded⟩ ∧
          s.toPolicy = .ok p ∧ p.strategy = k ∧
          p.values =
            let limit : Value := if 0 < Number.real cap then .real cap else .none
            let times : Value := if unbounded then .none else .int budget
            match k with
            | .constant => [.real least, times]
            | .exponential => [.real least, limit, .real factor, times]
            | .fibonacci => [.real least, limit, times] := by
  have hload : loadSettings vars = readFields settingsSchema.lead vars settingsSchema.fields >>= fun keywords =>
      (Settings.make keywords).mapError asConfigFault := rfl
  cases hread : readFields settingsSchema.lead vars settingsSchema.fields with
  | error x =>
    rw [hload, hread]
    exact complains_readFields _ x hread
  | ok keywords =>
    obtain ⟨strategy, least, cap, factor, budget, unbounded, hloaded, hmake⟩ := make_of_readFields hread
    rw [hload, hread]
    show match (Settings.make keywords).mapError asConfigFault with
      | .error x => _
      | .ok s => _
    rw [hmake]
    cases hv : Settings.validate
        ⟨.str strategy, .real least, .real cap, .real factor, .int budget, .bool unbounded⟩ with
    | error x =>
      rcases Settings.objects_validate _ _ _ _ _ _ x hv with hrefuses | rfl
      · have hx : x.isA (.complaint .config) := hrefuses.complains
        rw [← asConfigFault_of_config hx] at hx
        exact hx
      · rfl
    | ok s =>
      obtain ⟨k, hk, rfl, hpassed⟩ := Settings.passed_of_validate hv
      obtain ⟨p, hp, hstrategy, hvalues⟩ := hpassed.toPolicy (Settings.isCap_real cap)
      have hname : k.name = Settings.stripped strategy := (Value.str.inj (Except.ok.inj hk)).symm
      refine ⟨strategy, least, cap, factor, budget, unbounded, hloaded, k, p, hname, rfl, hp, hstrategy, ?_⟩
      rw [hvalues]
      cases k <;> simp [Settings.parameters] <;> rfl

end Environment

end Reattempt
