import Agenda.File.Path
import Agenda.Pattern.Basic
import Agenda.Yaml.Node
import Agenda.Yaml.Written

/-!
# Settings

What a user can set: how many days `soon` reaches, whether text operands of filters are regular
expressions, where the tasks are and where the program keeps its own files. Settings are built from
named fields, with defaults for those that are not given. A number of days that makes no sense is
replaced by the default with a warning; a file name that is no text, or asks for the home directory
of a user that there cannot be, is a fault.
-/

namespace Agenda

/-! ## The number of days of `soon` -/

/-- How many days `soon` reaches. The truth value stands for one day and is kept as such. -/
inductive SoonDays where
  | days (count : Nat) (valid : 0 < count ∧ count < 256)
  | yes
  deriving DecidableEq

namespace SoonDays

/-- The number of days. -/
def toNat : SoonDays → Nat
  | days count _ => count
  | yes => 1

theorem toNat_pos (s : SoonDays) : 0 < s.toNat := by
  cases s with
  | days count valid => exact valid.1
  | yes => decide

theorem toNat_lt (s : SoonDays) : s.toNat < 256 := by
  cases s with
  | days count valid => exact valid.2
  | yes => decide

/-- The default. -/
def default : SoonDays := days 7 (by decide)

/-- The number of days as a value. -/
def toScalar : SoonDays → Yaml.Scalar
  | days count _ => .int count
  | yes => .bool true

/-- The number of days that a value stands for. -/
def ofValue? : Yaml.Value → Option SoonDays
  | .scalar (.int n) => if h : 0 < n.toNat ∧ n.toNat < 256 then some (days n.toNat h) else none
  | .scalar (.bool true) => some yes
  | _ => none

end SoonDays

/-! ## Settings -/

/-- What a user can set. -/
structure Settings where
  /-- How many days `soon` reaches. -/
  soonDays : SoonDays
  /-- Whether text operands are regular expressions: any value that counts as true says so. -/
  useRegex : Yaml.Value
  /-- The file of the tasks. -/
  todoFile : Text
  /-- The directory of the program's own files. -/
  dataDir : Text

/-- Why there are no settings. -/
inductive SettingsFault where
  /-- There is no field of this name. -/
  | unknownField (name : Text)
  /-- The name of a file is no text. -/
  | notText (field : Text)
  /-- The name of a file asks for the home directory of a user that there cannot be. -/
  | impossibleUser (field : Text)
  /-- The document holds something else than fields. -/
  | notFields
  /-- The document cannot be read. -/
  | unreadable (fault : Yaml.Fault)
  deriving DecidableEq

/-- What a user should know about the settings. -/
inductive SettingsWarning where
  /-- The number of days makes no sense, so the default is used. -/
  | badSoonDays (value : Yaml.Value)
  /-- The settings cannot be used, so the defaults are. -/
  | badSettings (path : Path)

/-- The message for people. Of settings that cannot be used it also gives the reason in the words of
the machine. -/
def SettingsWarning.message (reason : Text) : SettingsWarning → Text
  | badSoonDays value => "Invalid soon_days value ".toList ++ value.toItem ++ ", using 7".toList
  | badSettings path =>
    "Failed to load config from ".toList ++ path.toText ++ ": ".toList ++ reason ++
      ". Using defaults.".toList

namespace Settings

/-- The field of the number of days of `soon`. -/
def soonDaysField : Text := "soon_days".toList

/-- The field that makes text operands regular expressions. -/
def useRegexField : Text := "use_regex".toList

/-- The field of the file of the tasks. -/
def todoFileField : Text := "todo_file".toList

/-- The field of the directory of the program's own files. -/
def dataDirField : Text := "data_dir".toList

/-- The names of all fields. -/
def fieldNames : List Text := [soonDaysField, useRegexField, todoFileField, dataDirField]

/-- The settings of a user who has set nothing. -/
def defaults (home : Text) : Settings where
  soonDays := .default
  useRegex := .scalar (.bool false)
  todoFile := Text.expandHome home "~/todo.txt".toList
  dataDir := Text.expandHome home "~/.todo".toList

/-- The file name in a field, or the default. -/
def fileField (home : Text) (fields : List (Text × Yaml.Value)) (name default : Text) :
    Except SettingsFault Text :=
  match fields.lookup name with
  | none => .ok default
  | some (.scalar (.text s)) =>
    if Text.hasImpossibleUser s then .error (.impossibleUser name)
    else .ok (Text.expandHome home s)
  | some _ => .error (.notText name)

/-- The settings that some fields make, and the warnings that go with them. -/
def ofFields (home : Text) (fields : List (Text × Yaml.Value)) :
    Except SettingsFault (Settings × List SettingsWarning) := do
  let standard := defaults home
  if let some (name, _) := fields.find? fun (name, _) ↦ !fieldNames.contains name then
    throw (.unknownField name)
  let todoFile ← fileField home fields todoFileField standard.todoFile
  let dataDir ← fileField home fields dataDirField standard.dataDir
  let (soonDays, warnings) :=
    match fields.lookup soonDaysField with
    | none => (standard.soonDays, [])
    | some value =>
      match SoonDays.ofValue? value with
      | some soonDays => (soonDays, [])
      | none => (standard.soonDays, [SettingsWarning.badSoonDays value])
  let useRegex := (fields.lookup useRegexField).getD standard.useRegex
  return ({ soonDays, useRegex, todoFile, dataDir }, warnings)

/-- The fields of a document: the known ones, or none if the document holds nothing that counts as
true. -/
def fieldsOfValue (value : Yaml.Value) : Except SettingsFault (List (Text × Yaml.Value)) :=
  if !value.isTruthy then .ok []
  else
    match value with
    | .map entries => .ok (entries.filterMap fun (key, value) ↦ match key with
      | .text name => if fieldNames.contains name then some (name, value) else none
      | _ => none)
    | _ => .error .notFields

/-- The settings that a document makes. -/
def ofText (home document : Text) : Except SettingsFault (Settings × List SettingsWarning) := do
  match Yaml.Value.ofText document with
  | .error fault => throw (.unreadable fault)
  | .ok value => ofFields home (← fieldsOfValue value)

/-- The document that makes the settings. -/
def toText (s : Settings) : Text :=
  Yaml.document [(.text soonDaysField, .scalar s.soonDays.toScalar),
    (.text useRegexField, s.useRegex), (.text todoFileField, .text s.todoFile),
    (.text dataDirField, .text s.dataDir)]

/-- Where the settings are kept. -/
def path (s : Settings) : Path := (Path.ofText s.dataDir).child "config.yaml".toList

/-- How text operands of filters are understood. -/
def style (s : Settings) : PatternStyle := if s.useRegex.isTruthy then .regex else .wildcard

end Settings

end Agenda
