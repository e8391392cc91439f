/-
  Options from arguments, environment variables and a settings file.

  For every option an argument comes first, then the environment variable, then the settings file,
  then the default.

  * `toBoolean`, `toInteger` and `toText` turn what was found into a value of the right sort;
  * `settingsTable` finds the settings in their file;
  * `Options.load` looks every option up and checks the result.
-/
import Redaction.Encoding.Codec
import Redaction.Environment
import Redaction.Number.Written
import Redaction.Options.Basic
import Redaction.Options.Folder
import Redaction.Text.Lower
import Redaction.Toml.Document

namespace Redaction

/-! ## Conversion -/

/-- Yes or no. -/
def toBoolean (option : OptionName) (value : Value) : Except OptionsError Value :=
  match value with
  | .boolean b => .ok (.boolean b)
  | value =>
    match value.obstacle? with
    | some obstacle => .error (.unwritable option obstacle)
    | none =>
      let word := Text.lower (Text.trim value.plain)
      if [("1" : Text), "true", "t"].contains word then .ok (.boolean true)
      else if [("0" : Text), "false", "f"].contains word then .ok (.boolean false)
      else .error (.notBoolean option value)

/-- The integer that a value stands for. A number with a fraction loses it. -/
def integerOf (option : OptionName) (value : Value) : Except OptionsError Int :=
  match value with
  | .integer n => .ok n
  | .float (.infinite _) => .error (.infiniteInteger option)
  | .float x =>
    match x.truncate? with
    | some n => .ok n
    | none => .error (.refusal .notInteger option value)
  | .text t =>
    match readInteger? t with
    | some n => .ok n
    | none => .error (.refusal .notInteger option value)
  | value => .error (.refusal .notInteger option value)

/-- A positive integer. -/
def toInteger (option : OptionName) (value : Value) : Except OptionsError Value :=
  match integerOf option value with
  | .error e => .error e
  | .ok n => if 0 < n then .ok (.integer n) else .error (.refusal .notPositive option value)

/-- The text of a value. -/
def toText (option : OptionName) (value : Value) : Except OptionsError Value :=
  match value.obstacle? with
  | none => .ok (.text value.plain)
  | some obstacle => .error (.unwritable option obstacle)

/-- What was found for an option, as a value of the option's sort. -/
def convert (option : OptionName) (value : Value) : Except OptionsError Value :=
  match option with
  | .captureStatement | .keepInvalidJson => toBoolean option value
  | .maxLength | .maxInputLength | .maxDepth => toInteger option value
  | .defaultNamespace => toText option value

/-! ## Sources -/

/-- The name of the settings file. -/
def settingsFile : Text := "pyproject.toml"

/-- The environment variable that names the folder of the settings file. -/
def folderVariable : Text := "DBSTATEMENT_CONFIG_DIR"

/-- The tables of a settings file that lead to the settings. -/
def settingsPath : Text × Text := ("tool", "dbstatement")

/-- The settings in the contents of a settings file: a table if all is well. There is nothing where
    the file is none, or where there can be no settings in it. -/
def settingsTable? (contents : Bytes) : Option Value := do
  let t ← Encoding.decode? (.utf8 false) contents
  let entries ← Toml.parse? t
  match entries.lookup settingsPath.1 with
  | none => some (.table [])
  | some (.table tool) => some ((tool.lookup settingsPath.2).getD (.table []))
  | some _ => none

/-- The settings that a folder's settings file holds; none where there is no such file. Whatever keeps
    the file from being read makes it no settings file, but it has to be known that it is there. -/
def settingsTable (fileSystem : FileSystem) (folder : Folder) : Except OptionsError Value :=
  let path := folder.file settingsFile
  match fileSystem.isFile? path with
  | none => .error (.inaccessible path)
  | some false => .ok (.table [])
  | some true =>
    match (fileSystem.read? path).bind settingsTable? with
    | some settings => .ok settings
    | none => .error (.invalidFile path)

/-! ## Looking options up -/

/-- The value of an option. The settings are asked only where no argument and no environment variable
    gives one. -/
def lookUp (environment : Environment) (settings : Value) (option : OptionName)
    (argument : Value) : Except OptionsError Value :=
  match argument with
  | .null =>
    match environment.find? option.environmentVariable with
    | some t => convert option (.text t)
    | none =>
      match settings with
      | .table entries =>
        match entries.lookup option.text with
        | none => .ok option.default
        | some value => convert option value
      | _ => .error .notTable
  | argument => .ok argument

/-- The folder in which the settings file is looked for: the one that is given, or the one that the
    environment names, or the working folder. -/
def settingsFolder (environment : Environment) (folder : Option Text) : Folder :=
  Folder.ofText ((folder.or (environment.find? folderVariable)).getD Folder.stay)

/-- The options that arguments, environment and settings file give. -/
def Options.load (environment : Environment) (fileSystem : FileSystem) (folder : Option Text)
    (arguments : Settings) : Except OptionsError Options := do
  let settings ← settingsTable fileSystem (settingsFolder environment folder)
  let look (option : OptionName) := lookUp environment settings option (arguments option)
  let captureStatement ← look .captureStatement
  let maxLength ← look .maxLength
  let maxInputLength ← look .maxInputLength
  let maxDepth ← look .maxDepth
  let keepInvalidJson ← look .keepInvalidJson
  let defaultNamespace ← look .defaultNamespace
  Options.ofSettings fun
    | .captureStatement => captureStatement
    | .maxLength => maxLength
    | .maxInputLength => maxInputLength
    | .maxDepth => maxDepth
    | .keepInvalidJson => keepInvalidJson
    | .defaultNamespace => defaultNamespace

end Redaction
