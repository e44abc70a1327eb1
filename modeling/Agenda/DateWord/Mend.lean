import Agenda.Calendar.Written
import Agenda.DateWord
import Agenda.Text.Replace

/-!
# Mending a date word in a task

The word behind a key such as `due:` is looked for at the start of a text and behind a space. If it
is a date word, the whole word is replaced by the key and the day it stands for. An absolute day is
left alone, and a word without a meaning is left alone with a warning.
-/

namespace Agenda.DateWord

/-- What became of a text to be mended. -/
inductive Mended where
  /-- There is nothing to mend. -/
  | unchanged
  /-- The word behind the key has no meaning. -/
  | refused (word : Text) (error : DateError)
  /-- The word was replaced. -/
  | replaced (text : Text)
  deriving DecidableEq

/-- The text behind the first place where the key begins a word. Only a space counts as a boundary
here. -/
def afterKey? (key text : Text) : Option Text :=
  if key.isPrefixOf text then some (text.drop key.length)
  else (Text.cut? (' ' :: key) text).map fun (_, after) ↦ after

/-- Replaces the date word behind a key by its day. -/
def mend (base : Date) (soonDays : Int) (text key : Text) : Mended :=
  if text.isEmpty || key.isEmpty then .unchanged
  else
    match afterKey? key text with
    | none => .unchanged
    | some after =>
      let word := after.takeWhile (· != ' ')
      match resolve base soonDays word with
      | .ok r => .replaced (Text.replaceWord text (key ++ word) (key ++ r.toText))
      | .error (.absolute _) => .unchanged
      | .error error => .refused word error

/-- The warning about a word without a meaning behind a key. -/
def warning (reason key word : Text) (error : DateError) : Text :=
  "invalid ".toList ++ Text.trimEnd (· == ':') key ++ " date ".toList ++ DateError.quoted word ++
    ": ".toList ++ error.message reason

end Agenda.DateWord
