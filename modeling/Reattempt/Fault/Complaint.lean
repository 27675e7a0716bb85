import Reattempt.Signature
import Reattempt.Value.Text

/-!
# Complaints

The faults this library raises about its own use. Each has a message, a code for machines and a
dictionary of details; a setting that is missing or wrong is named in the details.
-/
namespace Reattempt

namespace Fault

/-- An empty code stands for the code of the kind, an empty detail for no detail. -/
def complain (kind : Complaint) (id : Identity) (message code detail : Value) : Fault :=
  .complaint kind id message (code.orElse (.str kind.code)) (detail.orElse (.dict []))

/-- A setting is absent although it is required. -/
def missingSetting (id : Identity) (setting : Value) : Except Fault Fault := do
  let name ← setting.text
  return complain .missing id (.str ("Required setting '" ++ name ++ "' is missing")) .none
    (.dict [(.str "setting", setting)])

/-- A setting is present but means nothing. -/
def wrongSetting (id : Identity) (setting value reason : Value) : Except Fault Fault := do
  let name ← setting.text
  let shown ← value.shown
  let why ← reason.text
  return complain .invalid id
    (.str ("Setting '" ++ name ++ "' has invalid value " ++ shown ++ ": " ++ why)) .none
    (.dict [(.str "setting", setting), (.str "value", value), (.str "reason", reason)])

/-- The complaint about the value of a named setting. -/
def invalidSetting (setting : String) (value : Value) (reason : String) : Fault :=
  complain .invalid .own
    (.str ("Setting '" ++ setting ++ "' has invalid value " ++ value.display ++ ": " ++ reason)) .none
    (.dict [(.str "setting", .str setting), (.str "value", value), (.str "reason", .str reason)])

/-- The complaint about the lack of a named setting. -/
def lackingSetting (setting : String) : Fault :=
  complain .missing .own (.str ("Required setting '" ++ setting ++ "' is missing")) .none
    (.dict [(.str "setting", .str setting)])

def configError (message : String) : Fault := complain .config .own (.str message) .none .none

theorem wrongSetting_str (setting : String) {value : Value} (h : value.isOverlong = false) (reason : String) :
    wrongSetting .own (.str setting) value (.str reason) = .ok (invalidSetting setting value reason) := by
  have hshown : value.shown = .ok value.display := by
    rw [Value.shown, h]
    rfl
  simp only [wrongSetting, Value.text, hshown]
  rfl

theorem missingSetting_str (setting : String) :
    missingSetting .own (.str setting) = .ok (lackingSetting setting) := rfl

@[simp] theorem cls_complain (k : Complaint) (i : Identity) (m c d : Value) :
    (complain k i m c d).cls = .complaint k := rfl

/-- How a complaint of each kind is made. -/
def signature : Complaint → Signature
  | .missing => ⟨"MissingRequiredSettingError.__init__", true, [Signature.required "setting_name"], false⟩
  | .invalid => ⟨"InvalidSettingValueError.__init__", true,
      [Signature.required "setting_name", Signature.required "value", Signature.required "reason"], false⟩
  | _ => ⟨"AretryError.__init__", true,
      [Signature.required "message", Signature.keyword "code" .none, Signature.keyword "detail" .none], false⟩

/-- A complaint as a dictionary. -/
def toDict? : Fault → Option Value
  | .plain .. => none
  | .complaint _ _ message code detail =>
    some (.dict [(.str "code", code), (.str "message", message), (.str "detail", detail)])

end Fault

end Reattempt
