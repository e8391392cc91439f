/-
  Options of capturing.

  * `OptionName` are the six options, `Settings` gives each of them a value of any sort;
  * `Options` are the options once checked: the three limits are positive;
  * `Options.ofSettings` checks settings, and `OptionsError` says what is wrong with them;
  * `Options.ofSettings_default`: the default settings pass the check.
-/
import Redaction.Value

namespace Redaction

/-! ## Names -/

/-- The options. -/
inductive OptionName where
  /-- Whether statements are captured at all. -/
  | captureStatement
  /-- How long a captured statement may be. -/
  | maxLength
  /-- How much of a statement or body is looked at. -/
  | maxInputLength
  /-- How deep a document may be nested. -/
  | maxDepth
  /-- Whether a body that cannot be read is captured as it is. -/
  | keepInvalidJson
  /-- The namespace of statements that come without one. -/
  | defaultNamespace
  deriving DecidableEq, Repr

namespace OptionName

/-- All options, in the order in which they are looked up. -/
def all : List OptionName :=
  [captureStatement, maxLength, maxInputLength, maxDepth, keepInvalidJson, defaultNamespace]

/-- The name by which an option is given. -/
def text : OptionName → Text
  | captureStatement => ("capture_statement" : Text)
  | maxLength => ("max_length" : Text)
  | maxInputLength => ("max_input_length" : Text)
  | maxDepth => ("max_depth" : Text)
  | keepInvalidJson => ("keep_invalid_json" : Text)
  | defaultNamespace => ("default_namespace" : Text)

/-- The option of a name. -/
def ofText? (name : Text) : Option OptionName := all.find? fun option => option.text = name

/-- The environment variable of an option. -/
def environmentVariable (option : OptionName) : Text := ("DBSTATEMENT_" : Text) ++ Text.upper option.text

/-- The value of an option that is given nowhere. -/
def default : OptionName → Value
  | captureStatement => .boolean true
  | maxLength => .integer 4096
  | maxInputLength => .integer 1000000
  | maxDepth => .integer 64
  | keepInvalidJson => .boolean false
  | defaultNamespace => .null

end OptionName

/-! ## Errors -/

/-- Why options are refused. -/
inductive OptionsError where
  /-- There is no option of the name. -/
  | unknownOption (name : Text)
  /-- A limit is no positive integer. -/
  | notPositiveInteger (option : OptionName) (value : Value)
  /-- A value says neither yes nor no. -/
  | notBoolean (option : OptionName) (value : Value)
  /-- A value is no integer. -/
  | notInteger (option : OptionName) (value : Value)
  /-- An integer is not positive. -/
  | notPositive (option : OptionName) (value : Value)
  /-- An infinite number stands for an integer. -/
  | infiniteInteger (option : OptionName)
  /-- A value has to be written out and cannot be. -/
  | unwritable (option : OptionName) (obstacle : Value.Obstacle)
  /-- The settings file at a place cannot be read. -/
  | invalidFile (path : Text)
  /-- It cannot be told whether there is a settings file at a place. -/
  | inaccessible (path : Text)
  /-- The settings are not a table. -/
  | notTable

namespace OptionsError

/-- That a value was expected to be something else. -/
def expected (option : OptionName) (what : String) (value : Value) : Text :=
  ("Expected " : Text) ++ option.text ++ (" to be " : Text) ++ (what : Text) ++
    (", got " : Text) ++ value.literal

/-- The wording of an error in the settings. The other errors are mistakes of whoever calls or errors of
    the system, and have no wording. -/
def message? : OptionsError → Option Text
  | notPositiveInteger option value => some (expected option "a positive integer" value)
  | notBoolean option value => some (expected option "a boolean" value)
  | notInteger option value => some (expected option "an integer" value)
  | notPositive option value => some (expected option "positive" value)
  | invalidFile path => some (("Invalid config file: " : Text) ++ path)
  | unknownOption _ | infiniteInteger _ | unwritable .. | inaccessible _ | notTable => none

/-- Why a value is refused: for a reason that shows the value, if it can be written out. -/
def refusal (reason : OptionName → Value → OptionsError) (option : OptionName) (value : Value) :
    OptionsError :=
  match value.obstacle? with
  | none => reason option value
  | some obstacle => unwritable option obstacle

end OptionsError

/-! ## Checked options -/

/-- A value for each option. -/
abbrev Settings := OptionName → Value

/-- The settings that hold where nothing is given. -/
def Settings.default : Settings := OptionName.default

/-- Settings with one value changed. -/
def Settings.set (settings : Settings) (option : OptionName) (value : Value) : Settings :=
  fun o => if o = option then value else settings o

/-- Settings with the given values, by name. -/
def Settings.ofEntries (settings : Settings) :
    List (Text × Value) → Except OptionsError Settings
  | [] => .ok settings
  | (name, value) :: entries =>
    match OptionName.ofText? name with
    | none => .error (.unknownOption name)
    | some option => ofEntries (settings.set option value) entries

/-- Options that have been checked. -/
structure Options where
  captureStatement : Value
  maxLength : Nat
  maxInputLength : Nat
  maxDepth : Nat
  keepInvalidJson : Value
  defaultNamespace : Value
  maxLength_pos : 0 < maxLength := by decide
  maxInputLength_pos : 0 < maxInputLength := by decide
  maxDepth_pos : 0 < maxDepth := by decide

/-- A positive number. -/
abbrev Positive := { n : Nat // 0 < n }

/-- The limit that a value gives. -/
def positive (option : OptionName) (value : Value) : Except OptionsError Positive :=
  match value with
  | .integer (.ofNat (n + 1)) => .ok ⟨n + 1, n.succ_pos⟩
  | value => .error (.refusal .notPositiveInteger option value)

/-- The options that settings give. The limits are checked in the order of their names. -/
def Options.ofSettings (settings : Settings) : Except OptionsError Options := do
  let maxLength ← positive .maxLength (settings .maxLength)
  let maxInputLength ← positive .maxInputLength (settings .maxInputLength)
  let maxDepth ← positive .maxDepth (settings .maxDepth)
  return {
    captureStatement := settings .captureStatement
    maxLength := maxLength.val
    maxInputLength := maxInputLength.val
    maxDepth := maxDepth.val
    keepInvalidJson := settings .keepInvalidJson
    defaultNamespace := settings .defaultNamespace
    maxLength_pos := maxLength.property
    maxInputLength_pos := maxInputLength.property
    maxDepth_pos := maxDepth.property }

/-- The options that hold where nothing is given. -/
def Options.default : Options where
  captureStatement := .boolean true
  maxLength := 4096
  maxInputLength := 1000000
  maxDepth := 64
  keepInvalidJson := .boolean false
  defaultNamespace := .null

theorem Options.ofSettings_default : Options.ofSettings Settings.default = .ok Options.default :=
  rfl

end Redaction
