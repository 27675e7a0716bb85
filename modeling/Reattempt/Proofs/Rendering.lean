import Reattempt.Fault.Creation
import Reattempt.Notice
import Reattempt.Proofs.Reading

/-!
# What complaints can be rendered

The text of a complaint is a JSON object. Lists, tuples and dictionaries are shown by their members, and anything
else by its own text. So there is a text unless a dictionary that is shown has a key which JSON has no place for,
or something is shown that has no text itself, as a number of too many digits; and if there is none, it is for one
of these reasons.
-/
namespace Reattempt

namespace Value

open Fault

/-- The JSON of a value shows the value and the members of what it shows. -/
inductive Shows : Value → Value → Prop where
  | self (v : Value) : Shows v v
  | list {v w : Value} {vs : List Value} (hv : v ∈ vs) (h : Shows v w) : Shows (.list vs) w
  | tuple {v w : Value} {vs : List Value} (hv : v ∈ vs) (h : Shows v w) : Shows (.tuple vs) w
  | dict {k v w : Value} {es : List (Value × Value)} (he : (k, v) ∈ es) (h : Shows v w) : Shows (.dict es) w

/-- What JSON has a place for as a key. -/
def isKey : Value → Bool
  | .str _ | .num _ | .none => true
  | _ => false

/-- A key that is none. -/
def misfit (k : Value) : Fault :=
  Fault.typeError ("keys must be str, int, float, bool or None, not " ++ k.kind)

/-- Why a value cannot be a key: JSON has no place for it, or it has too many digits. -/
def BarsKey (k : Value) (y : Fault) : Prop :=
  match k with
  | .num n => n.isOverlong ∧ y = Fault.overlong
  | k => k.isKey = false ∧ y = k.misfit

/-- Why there can be no JSON of a value, its members apart. -/
def Hinders (v : Value) (y : Fault) : Prop :=
  match v with
  | .list _ | .tuple _ => False
  | .dict es => ∃ e ∈ es, e.1.BarsKey y
  | v => v.text = .error y

theorem shown_eq_error_iff {v : Value} {y : Fault} : v.shown = .error y ↔ v.isOverlong ∧ y = Fault.overlong := by
  unfold shown
  split <;> next h => simp [h, eq_comm]

theorem jsonNumber_eq_error_iff {n : Number} {y : Fault} :
    jsonNumber n = .error y ↔ n.isOverlong ∧ y = Fault.overlong := by
  have hshown : (num n).shown = .error y ↔ n.isOverlong ∧ y = Fault.overlong := shown_eq_error_iff
  unfold jsonNumber
  split
  case h_6 => exact hshown
  all_goals simp [Number.isOverlong]

theorem jsonKey_eq_error_iff {k : Value} {y : Fault} : jsonKey k = .error y ↔ k.BarsKey y := by
  cases k with
  | num n => exact jsonNumber_eq_error_iff
  | _ => simp [jsonKey, BarsKey, isKey, misfit, eq_comm]

/-! ## Without a text there is a hindrance -/

mutual

theorem hinders_of_json : ∀ {v : Value} {y : Fault}, v.json = .error y → ∃ w, v.Shows w ∧ w.Hinders y
  | .list vs, _, h => by
    obtain ⟨v, hv, w, hw, hy⟩ := hinders_of_jsonList (eq_error_of_map h)
    exact ⟨w, .list hv hw, hy⟩
  | .tuple vs, _, h => by
    obtain ⟨v, hv, w, hw, hy⟩ := hinders_of_jsonList (eq_error_of_map h)
    exact ⟨w, .tuple hv hw, hy⟩
  | .dict es, _, h => by
    rcases hinders_of_jsonEntries (eq_error_of_map h) with ⟨e, he, hy⟩ | ⟨k, v, he, w, hw, hy⟩
    · exact ⟨.dict es, .self _, e, he, jsonKey_eq_error_iff.mp hy⟩
    · exact ⟨w, .dict he hw, hy⟩
  | .num n, _, h => ⟨.num n, .self _, shown_eq_error_iff.mpr (jsonNumber_eq_error_iff.mp h)⟩
  | .fault f, _, h => ⟨.fault f, .self _, eq_error_of_map h⟩
  | .ok v, _, h => ⟨.ok v, .self _, eq_error_of_map h⟩
  | .err v, _, h => ⟨.err v, .self _, eq_error_of_map h⟩
  | .none, _, h => by cases h
  | .str _, _, h => by cases h
  | .bytes _, _, h => by cases h
  | .cls _, _, h => by cases h
  | .awaitable _, _, h => by cases h

theorem hinders_of_jsonList : ∀ {vs : List Value} {y : Fault}, jsonList vs = .error y →
    ∃ v ∈ vs, ∃ w, v.Shows w ∧ w.Hinders y
  | [], _, h => by cases h
  | v :: vs, y, h => by
    rw [jsonList] at h
    rcases bind_eq_error h with hv | ⟨x, -, h⟩
    · exact ⟨v, List.mem_cons_self, hinders_of_json hv⟩
    rcases bind_eq_error h with hvs | ⟨xs, -, h⟩
    · obtain ⟨u, hu, hw⟩ := hinders_of_jsonList hvs
      exact ⟨u, List.mem_cons_of_mem v hu, hw⟩
    · cases h

theorem hinders_of_jsonEntries : ∀ {es : List (Value × Value)} {y : Fault}, jsonEntries es = .error y →
    (∃ e ∈ es, jsonKey e.1 = .error y) ∨ ∃ k v, (k, v) ∈ es ∧ ∃ w, v.Shows w ∧ w.Hinders y
  | [], _, h => by cases h
  | (k, v) :: es, y, h => by
    rw [jsonEntries] at h
    rcases bind_eq_error h with hk | ⟨name, -, h⟩
    · exact .inl ⟨(k, v), List.mem_cons_self, hk⟩
    rcases bind_eq_error h with hv | ⟨x, -, h⟩
    · exact .inr ⟨k, v, List.mem_cons_self, hinders_of_json hv⟩
    rcases bind_eq_error h with hes | ⟨xs, -, h⟩
    · rcases hinders_of_jsonEntries hes with ⟨e, he, hy⟩ | ⟨l, u, he, hw⟩
      · exact .inl ⟨e, List.mem_cons_of_mem _ he, hy⟩
      · exact .inr ⟨l, u, List.mem_cons_of_mem _ he, hw⟩
    · cases h

end

/-! ## With a hindrance there is no text -/

theorem jsonList_of_mem {v : Value} {vs : List Value} (hv : v ∈ vs) (h : ∃ y, v.json = .error y) :
    ∃ y, jsonList vs = .error y := by
  induction vs with
  | nil => cases hv
  | cons u vs ih =>
    rw [jsonList]
    rcases List.mem_cons.mp hv with rfl | hv
    · exact exists_bind_eq_error_of_left h
    · exact exists_bind_eq_error fun x _ => exists_bind_eq_error_of_left (ih hv)

theorem jsonEntries_of_mem {e : Value × Value} {es : List (Value × Value)} (he : e ∈ es)
    (h : (∃ y, jsonKey e.1 = .error y) ∨ ∃ y, e.2.json = .error y) : ∃ y, jsonEntries es = .error y := by
  induction es with
  | nil => cases he
  | cons e' es ih =>
    obtain ⟨k, v⟩ := e'
    rw [jsonEntries]
    rcases List.mem_cons.mp he with rfl | he
    · rcases h with hk | hv
      · exact exists_bind_eq_error_of_left hk
      · exact exists_bind_eq_error fun name _ => exists_bind_eq_error_of_left hv
    · exact exists_bind_eq_error fun name _ => exists_bind_eq_error fun x _ => exists_bind_eq_error_of_left (ih he)

theorem json_of_hinders {v : Value} {y : Fault} (h : v.Hinders y) : ∃ z, v.json = .error z := by
  cases v with
  | list vs => cases h
  | tuple vs => cases h
  | dict es =>
    obtain ⟨e, he, hk⟩ := h
    obtain ⟨z, hz⟩ := jsonEntries_of_mem he (.inl ⟨y, jsonKey_eq_error_iff.mpr hk⟩)
    exact ⟨z, by rw [json, hz]; rfl⟩
  | num n => exact ⟨y, jsonNumber_eq_error_iff.mpr (shown_eq_error_iff.mp h)⟩
  | fault f =>
    have hf : f.text = .error y := h
    exact ⟨y, by rw [json, hf]; rfl⟩
  | ok v =>
    have hv : (Value.ok v).shown = .error y := h
    exact ⟨y, congrArg (·.map Text.jsonString) hv⟩
  | err v =>
    have hv : (Value.err v).shown = .error y := h
    exact ⟨y, congrArg (·.map Text.jsonString) hv⟩
  | none | str | bytes | cls | awaitable => cases h

theorem json_of_shows {v w : Value} (h : v.Shows w) {y : Fault} (hy : w.Hinders y) : ∃ z, v.json = .error z := by
  induction h with
  | self v => exact json_of_hinders hy
  | list hv _ ih =>
    obtain ⟨z, hz⟩ := jsonList_of_mem hv (ih hy)
    exact ⟨z, by rw [json, hz]; rfl⟩
  | tuple hv _ ih =>
    obtain ⟨z, hz⟩ := jsonList_of_mem hv (ih hy)
    exact ⟨z, by rw [json, hz]; rfl⟩
  | dict he _ ih =>
    obtain ⟨z, hz⟩ := jsonEntries_of_mem he (.inr (ih hy))
    exact ⟨z, by rw [json, hz]; rfl⟩

end Value

/-! ## Complaints -/

namespace Fault

open Value Environment

/-- What the text of a complaint is made of. -/
def parts : Fault → List Value
  | .plain .. => []
  | .complaint _ _ message code detail => [code, message, detail]

theorem text_eq_error_iff {kind : Complaint} {id : Identity} {message code detail : Value} {y : Fault} :
    (complaint kind id message code detail).text = .error y ↔ jsonList [code, message, detail] = .error y := by
  rw [text]
  simp only [jsonList]
  cases code.json <;> cases message.json <;> cases detail.json <;> simp [bind, Except.bind, pure, Except.pure]

/-- A new complaint is a complaint. -/
theorem eq_complaint_of_make {kind : Complaint} {id : Identity} {args : List Value} {keywords : Keywords}
    {f : Fault} (h : makeComplaint kind id args keywords = .ok f) :
    ∃ message code detail, f = .complaint kind id message code detail := by
  obtain ⟨vs, -, hf⟩ := Fault.bind_eq_ok h
  split at hf
  · obtain ⟨name, -, hf⟩ := Fault.bind_eq_ok hf
    cases hf
    exact ⟨_, _, _, rfl⟩
  · obtain ⟨name, -, hf⟩ := Fault.bind_eq_ok hf
    obtain ⟨shown, -, hf⟩ := Fault.bind_eq_ok hf
    obtain ⟨why, -, hf⟩ := Fault.bind_eq_ok hf
    cases hf
    exact ⟨_, _, _, rfl⟩
  · cases hf
    exact ⟨_, _, _, rfl⟩
  · cases hf
    exact ⟨_, _, _, rfl⟩

theorem asConfigFault_of_text_error {x y : Fault} (hx : x.isOrdinary) (hc : ¬ x.isA (.complaint .config))
    (ht : x.text = .error y) : asConfigFault x = y := by
  simp [asConfigFault, hx, hc, ht]

/-- A complaint has a text unless a dictionary that is shown in it has a key that cannot be one in JSON, or
something is shown that has no text itself; if there is none, it is for such a reason. A notifier that is told of
the complaint and a loader that wraps it write the text, or else raise that reason in its place. -/
theorem complaint_is_rendered_unless_hindered {kind : Complaint} {id : Identity} {args : List Value}
    {keywords : Keywords} {f : Fault} (h : makeComplaint kind id args keywords = .ok f) :
    ((∃ s, f.text = .ok s) ↔ ∀ part ∈ f.parts, ∀ w, part.Shows w → ∀ y, ¬ w.Hinders y) ∧
    (∀ y, f.text = .error y → ∃ part ∈ f.parts, ∃ w, part.Shows w ∧ w.Hinders y) ∧
    (∀ s, f.text = .ok s →
      (∀ {σ α : Type} (n : Notifier) (write : Logger.Method σ α) (retry : Nat) (delay : Value) (z : σ), n.IsClear →
        n.record (.ok write) retry (.fault f) delay z = write n.event (n.entries retry (.fault f) delay s) z) ∧
      (¬ f.isA (.complaint .config) → asConfigFault f = configError ("Failed to load settings: " ++ s))) ∧
    ∀ y, f.text = .error y →
      (∀ {σ α : Type} (n : Notifier) (write : Logger.Method σ α) (retry : Nat) (delay : Value) (z : σ),
        n.record (.ok write) retry (.fault f) delay z = (.error y, z)) ∧
      (¬ f.isA (.complaint .config) → asConfigFault f = y) := by
  obtain ⟨message, code, detail, rfl⟩ := eq_complaint_of_make h
  have hordinary : (complaint kind id message code detail).isOrdinary = true :=
    FaultClass.isOrdinary_complaint kind
  have hreason : ∀ y, (complaint kind id message code detail).text = .error y →
      ∃ part ∈ [code, message, detail], ∃ w, part.Shows w ∧ w.Hinders y :=
    fun y hy => hinders_of_jsonList (text_eq_error_iff.mp hy)
  refine ⟨⟨?_, ?_⟩, hreason, ?_, ?_⟩
  · rintro ⟨s, hs⟩ part hpart w hw y hy
    obtain ⟨z, hz⟩ := jsonList_of_mem hpart (json_of_shows hw hy)
    rw [text_eq_error_iff.mpr hz] at hs
    cases hs
  · intro hfree
    cases hf : (complaint kind id message code detail).text with
    | ok s => exact ⟨s, rfl⟩
    | error y =>
      obtain ⟨part, hpart, w, hw, hy⟩ := hreason y hf
      exact absurd hy (hfree part hpart w hw y)
  · intro s hs
    exact ⟨fun n write retry delay z hclear => n.record_of_text hclear write retry (by rw [Value.text, hs]) delay z,
      fun hc => asConfigFault_of_text hordinary hc hs⟩
  · intro y hy
    exact ⟨fun n write retry delay z => n.record_of_text_error write retry (by rw [Value.text, hy]) delay z,
      fun hc => asConfigFault_of_text_error hordinary hc hy⟩

/-- Limits for each pair of places. -/
def pairwise : Value := .dict [(.tuple [int 1, int 2], int 3)]

/-- The complaint about the value of a setting, whatever the value is. -/
def aboutLimits (value : Value) : Except Fault Fault :=
  makeComplaint .invalid .own [.str "limits", value, .str "out of range"] []

/-- A pair is no key of a JSON object, so that the complaint about such limits cannot be rendered. -/
theorem pairwise_limits_are_not_rendered : ∃ f, aboutLimits pairwise = .ok f ∧ (¬ ∃ s, f.text = .ok s) ∧
    f.text = .error (typeError "keys must be str, int, float, bool or None, not tuple") := by
  refine ⟨_, rfl, ?_, rfl⟩
  rintro ⟨s, hs⟩
  cases hs

/-- Limits with pairs, bytes and a fault, none of them as a key. -/
def listed : Value := .list [.tuple [int 1, int 2], .bytes [7], .dict [(int 1, .fault (typeError "limits"))]]

/-- What is no key of a dictionary can be rendered, and so nothing in it is a hindrance. -/
theorem listed_limits_are_rendered : ∃ f, aboutLimits listed = .ok f ∧ (∃ s, f.text = .ok s) ∧
    ∀ part ∈ f.parts, ∀ w, part.Shows w → ∀ y, ¬ w.Hinders y := by
  obtain ⟨f, hf, hs⟩ : ∃ f, aboutLimits listed = .ok f ∧ ∃ s, f.text = .ok s := ⟨_, rfl, _, rfl⟩
  exact ⟨f, hf, hs, (complaint_is_rendered_unless_hindered hf).1.mp hs⟩

end Fault

end Reattempt
