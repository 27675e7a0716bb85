import Reattempt.Settings
import Reattempt.Text.Numeral

/-!
# Settings from the environment

Every field of a class of settings has a variable, named after the class and the field. The fields
are read in order, and the first that is lacking or cannot be read decides the fault. Only then are
the settings made from what was read.
-/
namespace Reattempt

namespace Environment

abbrev Variables := List (String × String)

/-- How the text of a field is read. -/
inductive Hint where
  | truth
  | whole
  | real
  | text
  deriving DecidableEq, Repr, Inhabited

/-- What a field is declared with: a class, or the name of one. -/
inductive Declared where
  /-- A class stands for how its values are read; most are read as texts. -/
  | ofClass (hint : Hint)
  | ofName (name : String)
  deriving DecidableEq, Repr, Inhabited

def Declared.hint : Declared → Hint
  | .ofClass hint => hint
  | .ofName name =>
    if name = "bool" then .truth
    else if name = "int" then .whole
    else if name = "float" then .real
    else .text

structure Field where
  name : String
  hint : Hint
  default? : Option Value
  /-- Whether all records share one default, or each has its own. -/
  isShared : Bool
  /-- Whether the field is a parameter when settings are made. -/
  isParameter : Bool
  deriving Inhabited

structure Schema where
  name : String
  /-- What the names of the variables start with. -/
  lead : String
  fields : List Field
  deriving Inhabited

/-! ## Schemas and variables that cannot be used -/

/-- Words that cannot be names of fields. -/
def reserved : List String := [
  "False", "None", "True", "and", "as", "assert", "async", "await", "break", "class", "continue",
  "def", "del", "elif", "else", "except", "finally", "for", "from", "global", "if", "import", "in",
  "is", "lambda", "nonlocal", "not", "or", "pass", "raise", "return", "try", "while", "with", "yield"]

/-- Letters, digits and underscores, with no digit first; only ASCII characters are looked at. -/
def isIdentifier (name : String) : Bool :=
  let letter (c : Char) : Bool := c.isAlpha || c = '_' || c.toNat ≥ 0x80
  match name.toList with
  | [] => false
  | c :: cs => letter c && cs.all fun c => letter c || c.isDigit

/-- The first field whose name cannot be used, after the names before it. -/
def refusedName? : List String → List Field → Option Fault
  | _, [] => none
  | before, f :: fs =>
    let complaint (what : String) : Option Fault :=
      some (Fault.typeError ("Field name" ++ what ++ ": " ++ Text.quoted f.name))
    if !isIdentifier f.name then complaint "s must be valid identifiers"
    else if f.name ∈ reserved then complaint "s must not be keywords"
    else if f.name ∈ before then complaint " duplicated"
    else refusedName? (f.name :: before) fs

/-- The first field with a default that can change and would be shared. -/
def sharedDefault? (fs : List Field) : Option Fault :=
  fs.findSome? fun f =>
    if f.isShared && (f.default?.any (·.isMutable)) then
      some (Fault.valueError ("mutable default " ++
        (f.default?.elim "" fun v => "<class '" ++ v.kind ++ "'>") ++ " for field " ++ f.name ++
        " is not allowed: use default_factory"))
    else none

/-- The first parameter without a default after one that has a default. -/
def misplaced? (fs : List Field) : Option Fault :=
  (((fs.filter (·.isParameter)).dropWhile (·.default?.isNone)).find? (·.default?.isNone)).map fun f =>
    Fault.typeError ("non-default argument " ++ Text.quoted f.name ++ " follows default argument")

/-- Why there can be no such schema. -/
def Schema.refused? (s : Schema) : Option Fault :=
  (refusedName? [] s.fields).or ((sharedDefault? s.fields).or (misplaced? s.fields))

/-- Why a process cannot have these variables. -/
def refusedVariable? (vars : Variables) : Option Fault :=
  vars.findSome? fun (name, value) =>
    if '\x00' ∈ name.toList ∨ '\x00' ∈ value.toList then
      some (Fault.valueError "embedded null byte")
    else if '=' ∈ name.toList then some (Fault.valueError "illegal environment variable name")
    else if name = "" then
      some (.plain .osError .own [.int 22, .str "Invalid argument"] [])
    else none

/-! ## Reading fields -/

/-- The variable of a field: both names in upper case, without leading underscores. -/
def key (lead name : String) : String :=
  String.ofList ((Text.upper (Text.upper lead.toList ++ '_' :: name.toList)).dropWhile (· = '_'))

def truthy : List String := ["1", "true", "yes", "on"]

def falsy : List String := ["0", "false", "no", "off", ""]

/-- Reads a text, or says why it cannot be read. -/
def Hint.read (hint : Hint) (raw : String) : Except String Value :=
  match hint with
  | .truth =>
    let word := Settings.stripped raw
    if word ∈ truthy then .ok (.bool true)
    else if word ∈ falsy then .ok (.bool false)
    else .error "expected a boolean"
  | .whole => (Text.whole? raw).map Value.int |>.mapError (·.message)
  | .real => (Text.real? raw).map Value.real |>.mapError (·.message)
  | .text => .ok (.str raw)

/-- The value of a field, if it has one here. -/
def readField (lead : String) (vars : Variables) (f : Field) : Except Fault (Option Value) :=
  let k := key lead f.name
  match vars.lookup k with
  | none => if f.default?.isSome then .ok none else .error (Fault.lackingSetting k)
  | some raw =>
    match f.hint.read raw with
    | .ok v => .ok (some v)
    | .error reason => .error (Fault.invalidSetting k (.str raw) reason)

def readFields (lead : String) (vars : Variables) : List Field → Except Fault Keywords
  | [] => .ok []
  | f :: fs => do
    let v ← readField lead vars f
    let rest ← readFields lead vars fs
    return (v.map fun v => (f.name, v)).toList ++ rest

/-- A fault of making settings: complaints about them stay, other ordinary faults become one. -/
def asConfigFault (f : Fault) : Fault :=
  if f.isA (.complaint .config) || !f.isOrdinary then f
  else
    match f.text with
    | .ok message => Fault.configError ("Failed to load settings: " ++ message)
    | .error g => g

/-- Loads settings that `construct` makes. -/
def Schema.load {α : Type} (s : Schema) (construct : Keywords → Except Fault α) (vars : Variables) :
    Except Fault α := do
  let keywords ← readFields s.lead vars s.fields
  (construct keywords).mapError asConfigFault

def Schema.signature (s : Schema) : Signature :=
  ⟨s.name ++ ".__init__", true,
    (s.fields.filter (·.isParameter)).map fun f => ⟨f.name, f.default?, false⟩, false⟩

/-- Makes a record of all fields; `failure` is raised once they are set. -/
def Schema.construct (s : Schema) (failure : Option Fault) (keywords : Keywords) :
    Except Fault (List (String × Value)) := do
  let values ← s.signature.bind [] keywords
  let bound := (s.signature.parameters.map (·.name)).zip values
  match failure with
  | some f => .error f
  | none => return s.fields.filterMap fun f =>
      ((bound.lookup f.name).or f.default?).map fun v => (f.name, v)

/-- How retry settings are loaded. -/
def settingsSchema : Schema where
  name := "RetrySettings"
  lead := "ARETRY"
  fields := Settings.defaults.fields.zipWith (fun (name, d) hint => ⟨name, hint, some d, true, true⟩)
    [.text, .real, .real, .real, .whole, .truth]

def loadSettings (vars : Variables) : Except Fault Settings := settingsSchema.load Settings.make vars

end Environment

end Reattempt
