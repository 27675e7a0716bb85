import Mathlib.Data.List.Nodup
import Reattempt.Proofs.Casing
import Reattempt.Proofs.Checks
import Reattempt.Settings.Environment

/-!
# Reading before making

A field is hindered when it is lacking without a default, or when its text cannot be read. The first hindered
field decides the fault, and nothing is made. When no field is hindered, the settings are made once, of what is
read of the fields that have variables.

The fields are read whether or not they are parameters. A field that is none can only do harm: it hinders, or what
is read of it is a keyword that nothing takes.
-/
namespace Reattempt

variable {α : Type}

namespace Environment

/-- The prefix is put into upper case twice, which is as good as once. -/
theorem key_eq (lead name : String) :
    key lead name = String.ofList ((Text.upper (lead ++ "_" ++ name).toList).dropWhile (· = '_')) := by
  have hlist : (lead ++ "_" ++ name).toList = lead.toList ++ '_' :: name.toList := by simp
  rw [key, hlist, Text.upper_append, Text.upper_append, Text.upper_upper]

/-! ## Single fields -/

namespace Field

/-- What keeps a field from being read: it is lacking and has no default, or its text cannot be read. -/
inductive Hinders (lead : String) (vars : Variables) (f : Field) : Fault → Prop
  | lacking (habsent : vars.lookup (key lead f.name) = none) (hdefault : f.default? = none) :
      Hinders lead vars f (Fault.lackingSetting (key lead f.name))
  | unreadable {raw reason : String} (hpresent : vars.lookup (key lead f.name) = some raw)
      (hread : f.hint.read raw = .error reason) :
      Hinders lead vars f (Fault.invalidSetting (key lead f.name) (.str raw) reason)

def Readable (lead : String) (vars : Variables) (f : Field) : Prop := ∀ x, ¬ f.Hinders lead vars x

/-- What is read of a field that has a variable. -/
def value? (lead : String) (vars : Variables) (f : Field) : Option Value :=
  (vars.lookup (key lead f.name)).bind fun raw => (f.hint.read raw).toOption

theorem Hinders.complains {lead : String} {vars : Variables} {f : Field} {x : Fault} (h : f.Hinders lead vars x) :
    x.Complains := by
  cases h <;> rfl

end Field

section Fields

variable {lead : String} {vars : Variables} {f : Field} {fs : List Field} {x : Fault} {keywords : Keywords}

theorem readField_eq_error_iff : readField lead vars f = .error x ↔ f.Hinders lead vars x := by
  constructor
  · intro h
    simp only [readField] at h
    split at h
    · next habsent =>
      split at h
      · cases h
      · next hdefault =>
        cases h
        exact .lacking habsent (by simpa using hdefault)
    · next hpresent =>
      split at h
      · cases h
      · next hread =>
        cases h
        exact .unreadable hpresent hread
  · rintro (⟨habsent, hdefault⟩ | ⟨hpresent, hread⟩)
    · simp [readField, habsent, hdefault]
    · simp [readField, hpresent, hread]

theorem value_of_readField {v? : Option Value} (h : readField lead vars f = .ok v?) : f.value? lead vars = v? := by
  simp only [readField] at h
  split at h
  · next habsent =>
    split at h
    · cases h
      simp [Field.value?, habsent]
    · cases h
  · next hpresent =>
    split at h
    · next hread =>
      cases h
      simp [Field.value?, hpresent, hread, Except.toOption]
    · cases h

theorem readField_eq_ok_iff {v? : Option Value} :
    readField lead vars f = .ok v? ↔ f.Readable lead vars ∧ f.value? lead vars = v? := by
  constructor
  · intro h
    refine ⟨fun x hx => ?_, value_of_readField h⟩
    rw [readField_eq_error_iff.mpr hx] at h
    cases h
  · rintro ⟨hreadable, rfl⟩
    cases h : readField lead vars f with
    | error x => exact absurd (readField_eq_error_iff.mp h) (hreadable x)
    | ok v? => rw [value_of_readField h]

/-! ## All fields -/

/-- The fields that have variables, with what is read of them. -/
def present (lead : String) (vars : Variables) (fs : List Field) : Keywords :=
  fs.filterMap fun f => (f.value? lead vars).map fun v => (f.name, v)

theorem mem_present {q : String × Value} :
    q ∈ present lead vars fs ↔ ∃ f ∈ fs, f.name = q.1 ∧ f.value? lead vars = some q.2 := by
  simp only [present, List.mem_filterMap, Option.map_eq_some_iff]
  constructor
  · rintro ⟨f, hf, v, hv, rfl⟩
    exact ⟨f, hf, rfl, hv⟩
  · rintro ⟨f, hf, hname, hv⟩
    exact ⟨f, hf, q.2, hv, by rw [hname]⟩

/-- Names that are not shared tell the fields apart. -/
theorem lookup_present (hnames : (fs.map (·.name)).Nodup) (hf : f ∈ fs) :
    (present lead vars fs).lookup f.name = f.value? lead vars := by
  cases hlookup : (present lead vars fs).lookup f.name with
  | none =>
    cases hv : f.value? lead vars with
    | none => rfl
    | some v =>
      have hmem : (f.name, v) ∈ present lead vars fs := mem_present.mpr ⟨f, hf, rfl, hv⟩
      have hne := List.lookup_eq_none_iff.mp hlookup _ hmem
      simp at hne
  | some v =>
    obtain ⟨before, after, hsplit, -⟩ := List.lookup_eq_some_iff.mp hlookup
    have hmem : (f.name, v) ∈ present lead vars fs := by simp [hsplit]
    obtain ⟨g, hg, hname, hv⟩ := mem_present.mp hmem
    obtain rfl := List.inj_on_of_nodup_map hnames hg hf hname
    exact hv.symm

theorem readFields_cons {v? : Option Value} (h : readField lead vars f = .ok v?) :
    readFields lead vars (f :: fs) =
      (readFields lead vars fs).map ((v?.map fun v => (f.name, v)).toList ++ ·) := by
  simp only [readFields, h]
  cases readFields lead vars fs <;> rfl

/-- The first field that is hindered, and by what. -/
def FirstHindered (lead : String) (vars : Variables) (fs : List Field) (f : Field) (x : Fault) : Prop :=
  ∃ before after, fs = before ++ f :: after ∧ (∀ g ∈ before, g.Readable lead vars) ∧ f.Hinders lead vars x

theorem FirstHindered.mem (h : FirstHindered lead vars fs f x) : f ∈ fs := by
  obtain ⟨before, after, rfl, -⟩ := h
  simp

theorem FirstHindered.hinders (h : FirstHindered lead vars fs f x) : f.Hinders lead vars x := by
  obtain ⟨before, after, -, -, hf⟩ := h
  exact hf

/-- Fields that are all readable are read each for itself. -/
theorem readFields_of_readable (h : ∀ f ∈ fs, f.Readable lead vars) :
    readFields lead vars fs = .ok (present lead vars fs) := by
  induction fs with
  | nil => rfl
  | cons f fs ih =>
    have hf := readField_eq_ok_iff.mpr ⟨h f List.mem_cons_self, rfl⟩
    rw [readFields_cons hf, ih fun g hg => h g (List.mem_cons_of_mem f hg)]
    cases hv : f.value? lead vars <;> simp [present, hv, Except.map]

/-- The first hindered field decides. -/
theorem readFields_of_firstHindered (h : FirstHindered lead vars fs f x) : readFields lead vars fs = .error x := by
  obtain ⟨before, after, rfl, hbefore, hf⟩ := h
  induction before with
  | nil =>
    simp only [List.nil_append, readFields, readField_eq_error_iff.mpr hf]
    rfl
  | cons g before ih =>
    have hg := readField_eq_ok_iff.mpr ⟨hbefore g List.mem_cons_self, rfl⟩
    rw [List.cons_append, readFields_cons hg, ih fun g' hg' => hbefore g' (List.mem_cons_of_mem g hg')]
    rfl

/-- Either no field is hindered, or one is the first. -/
theorem readable_or_firstHindered (lead : String) (vars : Variables) (fs : List Field) :
    (∀ f ∈ fs, f.Readable lead vars) ∨ ∃ f x, FirstHindered lead vars fs f x := by
  induction fs with
  | nil => exact .inl nofun
  | cons f fs ih =>
    cases hf : readField lead vars f with
    | error x => exact .inr ⟨f, x, [], fs, rfl, nofun, readField_eq_error_iff.mp hf⟩
    | ok v? =>
      have hreadable := (readField_eq_ok_iff.mp hf).1
      obtain hall | ⟨g, x, before, after, rfl, hbefore, hg⟩ := ih
      · exact .inl (List.forall_mem_cons.mpr ⟨hreadable, hall⟩)
      · exact .inr ⟨g, x, f :: before, after, rfl, List.forall_mem_cons.mpr ⟨hreadable, hbefore⟩, hg⟩

theorem readFields_eq_ok_iff : readFields lead vars fs = .ok keywords ↔
    (∀ f ∈ fs, f.Readable lead vars) ∧ present lead vars fs = keywords := by
  constructor
  · intro h
    obtain hall | ⟨f, x, hf⟩ := readable_or_firstHindered lead vars fs
    · rw [readFields_of_readable hall] at h
      exact ⟨hall, Except.ok.inj h⟩
    · rw [readFields_of_firstHindered hf] at h
      cases h
  · rintro ⟨hall, rfl⟩
    exact readFields_of_readable hall

theorem readFields_eq_error_iff : readFields lead vars fs = .error x ↔ ∃ f, FirstHindered lead vars fs f x := by
  constructor
  · intro h
    obtain hall | ⟨f, y, hf⟩ := readable_or_firstHindered lead vars fs
    · rw [readFields_of_readable hall] at h
      cases h
    · rw [readFields_of_firstHindered hf] at h
      cases h
      exact ⟨f, hf⟩
  · rintro ⟨f, hf⟩
    exact readFields_of_firstHindered hf

/-- Only the variables of the fields are looked at. -/
theorem readFields_congr {vars' : Variables}
    (h : ∀ f ∈ fs, vars'.lookup (key lead f.name) = vars.lookup (key lead f.name)) :
    readFields lead vars' fs = readFields lead vars fs := by
  induction fs with
  | nil => rfl
  | cons f fs ih =>
    have hf : readField lead vars' f = readField lead vars f := by
      simp only [readField, h f List.mem_cons_self]
    simp only [readFields, hf, ih fun g hg => h g (List.mem_cons_of_mem f hg)]

end Fields

/-! ## Making -/

/-- A complaint about configuration stays as it is. -/
theorem asConfigFault_of_config {x : Fault} (h : x.isA (.complaint .config)) : asConfigFault x = x := by
  simp [asConfigFault, h]

theorem asConfigFault_of_not_ordinary {x : Fault} (h : ¬ x.isOrdinary) : asConfigFault x = x := by
  simp [asConfigFault, h]

theorem asConfigFault_of_text {x : Fault} {message : String} (hx : x.isOrdinary) (hc : ¬ x.isA (.complaint .config))
    (ht : x.text = .ok message) : asConfigFault x = Fault.configError ("Failed to load settings: " ++ message) := by
  simp [asConfigFault, hx, hc, ht]

namespace Schema

variable {s : Schema} {vars : Variables}

/-- Loads settings where making them changes something: `construct` finds a state and leaves one. -/
def loadIn {σ : Type} (s : Schema) (construct : Keywords → σ → Except Fault α × σ) (vars : Variables) (w : σ) :
    Except Fault α × σ :=
  match readFields s.lead vars s.fields with
  | .error x => (.error x, w)
  | .ok keywords => ((construct keywords w).1.mapError asConfigFault, (construct keywords w).2)

/-- What is loaded does not depend on what else is changed. -/
theorem loadIn_fst {σ : Type} (s : Schema) (construct : Keywords → σ → Except Fault α × σ) (vars : Variables)
    (w : σ) : (s.loadIn construct vars w).1 = s.load (fun keywords => (construct keywords w).1) vars := by
  unfold loadIn load
  cases readFields s.lead vars s.fields <;> rfl

/-- The first hindered field decides the fault, and nothing is made. If no field is hindered, the settings are made
once, of just what is read of the fields that have variables. A complaint about configuration, or a fault that is not
ordinary, stays as it is, and any other fault that has a text becomes a complaint. Variables that belong to no field
do not matter. -/
theorem first_hindered_field_decides {σ : Type} (s : Schema) (construct : Keywords → σ → Except Fault α × σ)
    (vars : Variables) (w : σ) :
    (∀ f ∈ s.fields, key s.lead f.name =
      String.ofList ((Text.upper (s.lead ++ "_" ++ f.name).toList).dropWhile (· = '_'))) ∧
    (∀ f x, FirstHindered s.lead vars s.fields f x → s.loadIn construct vars w = (.error x, w)) ∧
    ((∀ f ∈ s.fields, f.Readable s.lead vars) →
      ∀ r w', construct (present s.lead vars s.fields) w = (r, w') →
        (∀ a, r = .ok a → s.loadIn construct vars w = (.ok a, w')) ∧
        (∀ x, r = .error x → x.isA (.complaint .config) ∨ ¬ x.isOrdinary →
          s.loadIn construct vars w = (.error x, w')) ∧
        ∀ x message, r = .error x → x.isOrdinary → ¬ x.isA (.complaint .config) → x.text = .ok message →
          s.loadIn construct vars w =
            (.error (Fault.configError ("Failed to load settings: " ++ message)), w')) ∧
    (∀ vars', (∀ f ∈ s.fields, vars'.lookup (key s.lead f.name) = vars.lookup (key s.lead f.name)) →
      s.loadIn construct vars' w = s.loadIn construct vars w) ∧
    (s.loadIn construct vars w).1 = s.load (fun keywords => (construct keywords w).1) vars := by
  refine ⟨fun f _ => key_eq s.lead f.name, ?_, ?_, ?_, loadIn_fst s construct vars w⟩
  · intro f x hf
    simp only [loadIn, readFields_of_firstHindered hf]
  · intro hall r w' hmake
    have hload : s.loadIn construct vars w = (r.mapError asConfigFault, w') := by
      simp only [loadIn, readFields_of_readable hall, hmake]
    rw [hload]
    refine ⟨?_, ?_, ?_⟩
    · rintro a rfl
      rfl
    · rintro x rfl (hx | hx)
      · rw [Except.mapError, asConfigFault_of_config hx]
      · rw [Except.mapError, asConfigFault_of_not_ordinary hx]
    · rintro x message rfl hx hconfig htext
      rw [Except.mapError, asConfigFault_of_text hx hconfig htext]
  · intro vars' h
    simp only [loadIn, readFields_congr h]

/-- A server's settings: one field is declared by a class, the others by names. -/
def server : Schema where
  name := "Server"
  lead := "svc"
  fields := [⟨"host", (Declared.ofName "str").hint, none, false, true⟩,
    ⟨"limit", (Declared.ofName "float").hint, none, false, true⟩,
    ⟨"port", (Declared.ofClass .whole).hint, some (.int 80), false, true⟩]

/-- Makes a server's settings, and notes of what. -/
def noted (keywords : Keywords) (calls : List Keywords) : Except Fault (List (String × Value)) × List Keywords :=
  (server.construct none keywords, keywords :: calls)

/-- The limit decides before the port does; what is empty is present, and a default needs no variable. -/
theorem server_limit_decides :
    server.loadIn noted [("SVC_PORT", "x"), ("SVC_LIMIT", "much"), ("SVC_HOST", "")] [] =
      (.error (Fault.invalidSetting "SVC_LIMIT" (.str "much") "could not convert string to float: 'much'"), []) ∧
    server.loadIn noted [("SVC_LIMIT", "inf"), ("SVC_HOST", "")] [] =
      (.ok [("host", .str ""), ("limit", .real (.infinite false)), ("port", .int 80)],
        [[("host", .str ""), ("limit", .real (.infinite false))]]) := by
  constructor
  · refine (first_hindered_field_decides server noted _ []).2.1 server.fields[1] _
      ⟨server.fields.take 1, server.fields.drop 2, rfl, ?_, ?_⟩
    · exact List.forall_mem_singleton.mpr (readField_eq_ok_iff.mp rfl).1
    · exact readField_eq_error_iff.mp rfl
  · have hall : ∀ f ∈ server.fields, f.Readable server.lead [("SVC_LIMIT", "inf"), ("SVC_HOST", "")] :=
      (readFields_eq_ok_iff.mp rfl).1
    exact ((first_hindered_field_decides server noted _ []).2.2.1 hall _ _ rfl).1 _ rfl

/-! ## Fields that are no parameters -/

/-- Nothing is made of a keyword that belongs to no parameter. -/
def Refuses (s : Schema) (construct : Keywords → Except Fault α) : Prop :=
  ∀ keywords, (∃ q ∈ keywords, ∀ f ∈ s.fields, f.isParameter → f.name ≠ q.1) → ∃ x, construct keywords = .error x

theorem refuses_construct (s : Schema) (failure : Option Fault) : s.Refuses (s.construct failure) := by
  rintro keywords ⟨q, hq, hother⟩
  cases hr : s.signature.refused? [] keywords with
  | some x => exact ⟨x, by simp only [construct, Signature.bind, hr]; rfl⟩
  | none =>
    have htaken := List.findSome?_eq_none_iff.mp hr q hq
    have hany : s.signature.parameters.any (·.name = q.1) = false := by
      refine List.any_eq_false.mpr fun p hp => ?_
      obtain ⟨f, hf, rfl⟩ := List.mem_map.mp hp
      obtain ⟨hf, hparameter⟩ := List.mem_filter.mp hf
      simpa using hother f hf hparameter
    have hcollects : s.signature.collects = false := rfl
    simp only [hany, hcollects] at htaken
    split at htaken <;> cases htaken

/-- The field has a default, and no variable. -/
def Idle (s : Schema) (vars : Variables) (f : Field) : Prop :=
  f.default?.isSome ∧ vars.lookup (key s.lead f.name) = none

variable {f : Field}

theorem Idle.readField (h : s.Idle vars f) : readField s.lead vars f = .ok none := by
  simp [Environment.readField, h.1, h.2]

/-- A field that is not hindered either is idle or is read. -/
theorem idle_or_value (h : f.Readable s.lead vars) : s.Idle vars f ∨ ∃ v, f.value? s.lead vars = some v := by
  cases hlookup : vars.lookup (key s.lead f.name) with
  | none =>
    cases hdefault : f.default? with
    | none => exact absurd (.lacking hlookup hdefault) (h _)
    | some d => exact .inl ⟨by rw [hdefault]; rfl, hlookup⟩
  | some raw =>
    cases hread : f.hint.read raw with
    | error reason => exact absurd (.unreadable hlookup hread) (h _)
    | ok v => exact .inr ⟨v, by simp [Field.value?, hlookup, hread, Except.toOption]⟩

/-- Nothing is read of idle fields. -/
theorem present_of_idle (h : ∀ f ∈ s.fields, f.isParameter = false → s.Idle vars f) :
    present s.lead vars s.fields = present s.lead vars (s.fields.filter (·.isParameter)) := by
  rw [present, present, List.filterMap_filter]
  refine List.filterMap_congr fun f hf => ?_
  cases hparameter : f.isParameter with
  | true => rfl
  | false =>
    have hvalue := (readField_eq_ok_iff.mp (h f hf hparameter).readField).2
    simp [hvalue]

/-- A field is to blame for a fault: it is the first that is hindered, or what is read of it is passed on, and nothing
is made of what is passed on. -/
def Blamed (s : Schema) (construct : Keywords → Except Fault α) (vars : Variables) (f : Field) (x : Fault) : Prop :=
  FirstHindered s.lead vars s.fields f x ∨ ∃ v y, (f.name, v) ∈ present s.lead vars s.fields ∧
    construct (present s.lead vars s.fields) = .error y ∧ x = asConfigFault y

section Parameters

variable {construct : Keywords → Except Fault α} {a : α}

theorem load_of_readable (h : ∀ f ∈ s.fields, f.Readable s.lead vars) :
    s.load construct vars = (construct (present s.lead vars s.fields)).mapError asConfigFault := by
  rw [load, readFields_of_readable h]
  rfl

theorem load_of_firstHindered {x : Fault} (h : FirstHindered s.lead vars s.fields f x) :
    s.load construct vars = .error x := by
  rw [load, readFields_of_firstHindered h]
  rfl

/-- Loading ends well, or a field that is no parameter is to blame. -/
theorem load_or_blamed (hnames : (s.fields.map (·.name)).Nodup) (hrefuses : s.Refuses construct)
    (hread : ∀ f ∈ s.fields, f.isParameter → f.Readable s.lead vars)
    (hmake : construct (present s.lead vars (s.fields.filter (·.isParameter))) = .ok a) :
    s.load construct vars = .ok a ∧ (∀ f ∈ s.fields, f.isParameter = false → s.Idle vars f) ∨
    ∃ x, s.load construct vars = .error x ∧
      ∃ f ∈ s.fields, f.isParameter = false ∧ ¬ s.Idle vars f ∧ s.Blamed construct vars f x := by
  obtain hall | ⟨f, x, hf⟩ := readable_or_firstHindered s.lead vars s.fields
  · by_cases hidle : ∀ f ∈ s.fields, f.isParameter = false → s.Idle vars f
    · refine .inl ⟨?_, hidle⟩
      rw [load_of_readable hall, present_of_idle hidle, hmake]
      rfl
    · simp only [not_forall] at hidle
      obtain ⟨f, hf, hother, hidle⟩ := hidle
      obtain ⟨v, hv⟩ := (idle_or_value (hall f hf)).resolve_left hidle
      have hpassed : (f.name, v) ∈ present s.lead vars s.fields := mem_present.mpr ⟨f, hf, rfl, hv⟩
      obtain ⟨y, hy⟩ : ∃ y, construct (present s.lead vars s.fields) = .error y := by
        refine hrefuses _ ⟨(f.name, v), hpassed, fun g hg hparameter hname => ?_⟩
        obtain rfl := List.inj_on_of_nodup_map hnames hg hf hname
        exact Bool.false_ne_true (hother.symm.trans hparameter)
      refine .inr ⟨asConfigFault y, ?_, f, hf, hother, hidle, .inr ⟨v, y, hpassed, hy, rfl⟩⟩
      rw [load_of_readable hall, hy]
      rfl
  · refine .inr ⟨x, load_of_firstHindered hf, f, hf.mem, ?_, fun hidle => ?_, .inl hf⟩
    · exact Bool.eq_false_iff.mpr fun hparameter => hread f hf.mem hparameter x hf.hinders
    · have hread := readField_eq_error_iff.mpr hf.hinders
      rw [hidle.readField] at hread
      cases hread

/-- When every parameter can be read, and the settings can be made of what is read of the parameters, loading ends well
just if every other field has a default and no variable. If it does not end well, one of the others is to blame. -/
theorem other_fields_only_do_harm (hnames : (s.fields.map (·.name)).Nodup) (hrefuses : s.Refuses construct)
    (hread : ∀ f ∈ s.fields, f.isParameter → f.Readable s.lead vars)
    (hmake : construct (present s.lead vars (s.fields.filter (·.isParameter))) = .ok a) :
    (s.load construct vars = .ok a ↔ ∀ f ∈ s.fields, f.isParameter = false → s.Idle vars f) ∧
    (s.load construct vars ≠ .ok a → ∃ x, s.load construct vars = .error x ∧
      ∃ f ∈ s.fields, f.isParameter = false ∧ ¬ s.Idle vars f ∧ s.Blamed construct vars f x) := by
  obtain ⟨hload, hidle⟩ | ⟨x, hload, f, hf, hother, hbusy, hblamed⟩ := load_or_blamed hnames hrefuses hread hmake
  · exact ⟨iff_of_true hload hidle, absurd hload⟩
  · have hfails : s.load construct vars ≠ .ok a := by simp [hload]
    refine ⟨iff_of_false hfails fun hidle => hbusy (hidle f hf hother), fun _ => ?_⟩
    exact ⟨x, hload, f, hf, hother, hbusy, hblamed⟩

end Parameters

/-- A job numbers itself: its number is a field, but no parameter. -/
def job (number? : Option Value) : Schema where
  name := "Job"
  lead := ""
  fields := [⟨"id", (Declared.ofName "int").hint, number?, true, false⟩,
    ⟨"size", (Declared.ofName "int").hint, none, false, true⟩]

theorem job_is_loaded : (job (some (.int 7))).load ((job (some (.int 7))).construct none) [("SIZE", "3")] =
    .ok [("id", .int 7), ("size", .int 3)] := by
  have hread : readFields "" [("SIZE", "3")] (job (some (.int 7))).fields = .ok [("size", .int 3)] := rfl
  have hall := (readFields_eq_ok_iff.mp hread).1
  refine (other_fields_only_do_harm (by decide) (refuses_construct _ none) (fun f hf _ => hall f hf) rfl).1.mpr ?_
  simp only [job, List.forall_mem_cons]
  exact ⟨fun _ => ⟨rfl, rfl⟩, nofun, nofun⟩

/-- A variable that has the name of the number gets in the way, and so does the lack of one where the number has no
default, though the job can be made of its parameter. -/
theorem job_is_not_loaded :
    ((job (some (.int 7))).refused? = none ∧
      (job (some (.int 7))).construct none (present "" [("SIZE", "3"), ("ID", "5")]
        ((job (some (.int 7))).fields.filter (·.isParameter))) = .ok [("id", .int 7), ("size", .int 3)] ∧
      (job (some (.int 7))).load ((job (some (.int 7))).construct none) [("SIZE", "3"), ("ID", "5")] =
        .error (Fault.configError
          "Failed to load settings: Job.__init__() got an unexpected keyword argument 'id'")) ∧
    (job none).refused? = none ∧
      (job none).construct none (present "" [("SIZE", "3")] ((job none).fields.filter (·.isParameter))) =
        .ok [("size", .int 3)] ∧
      (job none).load ((job none).construct none) [("SIZE", "3")] = .error (Fault.lackingSetting "ID") :=
  ⟨⟨rfl, rfl, rfl⟩, rfl, rfl, rfl⟩

end Schema

end Environment

end Reattempt
