import Agenda.Task

/-!
# Tag tables

The tags of one task as expressions see them. An entry holds the text of a tag, the day it stands
for once that is known, or both. Names may repeat; a look-up takes the first entry of a name. The
only change a table undergoes is that an entry learns its day.
-/

namespace Agenda

/-- One tag of a task. -/
structure TagEntry where
  /-- The key. -/
  name : Text
  /-- The value as written. -/
  raw : Option Text
  /-- The day the tag stands for, once it is known. -/
  date : Option Date
  deriving DecidableEq

/-- What a table knows of a tag. -/
inductive TagValue where
  /-- A text to be resolved. -/
  | raw (text : Text)
  /-- A day. -/
  | date (date : Date)
  deriving DecidableEq

/-- What an entry holds: its day if that is known, else its text. -/
def TagEntry.value? (e : TagEntry) : Option TagValue :=
  match e.date, e.raw with
  | some d, _ => some (.date d)
  | none, some s => some (.raw s)
  | none, none => none

/-- The tags of a task in order. -/
structure TagTable where
  /-- The entries. -/
  entries : List TagEntry
  deriving DecidableEq

namespace TagTable

/-- The table without entries. -/
def empty : TagTable := ⟨[]⟩

/-- The first entry of a name. -/
def find? (t : TagTable) (name : Text) : Option TagEntry := t.entries.find? (·.name == name)

/-- What the table knows of a name. -/
def value? (t : TagTable) (name : Text) : Option TagValue := (t.find? name).bind TagEntry.value?

/-- The entries with the day of the first one of a name set. -/
def setEntries (name : Text) (date : Date) : List TagEntry → List TagEntry
  | [] => []
  | e :: es => if e.name = name then { e with date := some date } :: es
    else e :: setEntries name date es

/-- The table with the day of a name set, unchanged if there is no such name. -/
def set (t : TagTable) (name : Text) (date : Date) : TagTable :=
  ⟨setEntries name date t.entries⟩

/-- Entries that know a day and no text. -/
def ofDate (name : String) (date : Option Date) : List TagEntry :=
  (date.map fun d ↦ ⟨name.toList, none, some d⟩).toList

/-- Entries that know a text and no day. -/
def ofTags (tags : Dictionary) : List TagEntry :=
  tags.map fun (name, value) ↦ ⟨name, some value, none⟩

/-- The table of a task. Its days come first and so hide the texts of the same name. -/
def ofTask (t : Task) : TagTable :=
  ⟨ofDate "due" t.dueDate ++ ofDate "created" t.createDate ++ ofDate "t" t.thresholdDate ++
    ofTags t.tags⟩

/-- The table of a text. It counts as created on the day given, unless it says otherwise. -/
def ofText (text : Text) (today : Date) : TagTable :=
  ⟨ofTags (extractTags text) ++ [⟨"created".toList, some today.toText, none⟩]⟩

theorem value?_set_self {t : TagTable} {name : Text} {e : TagEntry} (h : t.find? name = some e)
    (date : Date) : (t.set name date).value? name = some (.date date) := by
  obtain ⟨es⟩ := t
  simp only [find?] at h
  simp only [value?, find?, set]
  induction es with
  | nil => simp at h
  | cons x es ih =>
    by_cases hx : x.name = name
    · simp [setEntries, hx, TagEntry.value?]
    · have hx' : (x.name == name) = false := by simpa using hx
      rw [List.find?_cons_of_neg (by simp [hx'])] at h
      simp [setEntries, hx, hx', ih h]

end TagTable

end Agenda
