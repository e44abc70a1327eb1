import Agenda.Calendar.Written
import Agenda.Dictionary
import Agenda.Priority
import Agenda.Text.Blank

/-!
# Tasks

A task is one line of a todo.txt file: a mark for a finished task, a priority in parentheses, the
day it was finished, the day it was created, and its subject. Everything else is read from the words
of the subject: contexts, projects, hashtags and tags of the form `key:value`.
-/

namespace Agenda

/-! ## Tags -/

/-- The key and value of a word `key:value`. The rest of an address such as `http://example` is not
a value. -/
def tagOfWord? (word : Text) : Option (Text × Text) :=
  match Text.cut? [':'] word with
  | some (key, value) =>
    if key.isEmpty || value.isEmpty || "//".toList.isPrefixOf value then none else some (key, value)
  | none => none

/-- The tags of a text. A repeated key keeps its place and takes the last value. -/
def extractTags (text : Text) : Dictionary :=
  Dictionary.ofBindings ((Text.words text).filterMap tagOfWord?)

/-- The words that begin with a mark and go on behind it, without the mark. -/
def markedWords (mark : Char) (text : Text) : List Text :=
  (Text.words text).filterMap fun word ↦
    match word with
    | c :: d :: rest => if c == mark then some (d :: rest) else none
    | _ => none

/-! ## Tasks -/

/-- A task. -/
structure Task where
  /-- The text behind the marks and days at the start of the line. -/
  subject : Text
  /-- The priority, if there is one. -/
  priority : Option Priority
  /-- Whether the task is done. -/
  finished : Bool
  /-- The day it was done. -/
  finishDate : Option Date
  /-- The day it was created. -/
  createDate : Option Date
  deriving DecidableEq

namespace Task

/-- The contexts, marked by an at sign. -/
def contexts (t : Task) : List Text := markedWords '@' t.subject

/-- The projects, marked by a plus sign. -/
def projects (t : Task) : List Text := markedWords '+' t.subject

/-- The hashtags. -/
def hashtags (t : Task) : List Text := markedWords '#' t.subject

/-- The tags. -/
def tags (t : Task) : Dictionary := extractTags t.subject

/-- The day the task is due, if its tag is an absolute day. -/
def dueDate (t : Task) : Option Date := (t.tags.get? "due".toList).bind Date.ofText?

/-- The day before which the task need not be shown, if its tag is an absolute day. -/
def thresholdDate (t : Task) : Option Date := (t.tags.get? "t".toList).bind Date.ofText?

/-- The recurrence as written. -/
def recurrence (t : Task) : Option Text := t.tags.get? "rec".toList

/-! ## Reading and writing -/

/-- Takes the first word off if it can be read. -/
def takeWord {α : Type} (read : Text → Option α) (words : List Text) : Option α × List Text :=
  match words with
  | [] => (none, [])
  | word :: rest =>
    match read word with
    | some a => (some a, rest)
    | none => (none, words)

/-- The task of a line. A finished task without a day of its own was finished on the day given. -/
def parse (line : Text) (today : Option Date) : Task :=
  let (mark, words) := takeWord (fun word ↦ if word == ['x'] then some () else none)
    (Text.splitOn ' ' (Text.strip line))
  let finished := mark.isSome
  let (priority, words) := takeWord Priority.ofMark? words
  let (finishDate, words) := if finished then takeWord Date.ofText? words else (none, words)
  let (createDate, words) := takeWord Date.ofText? words
  { subject := Text.join [' '] words
    priority := priority
    finished := finished
    finishDate := if finished then finishDate <|> today else none
    createDate := createDate }

/-- The words of a task up to and including its subject. -/
def toWords (t : Task) : List Text :=
  (if t.finished then [['x']] else []) ++
    (t.priority.map Priority.toMark).toList ++
    (if t.finished then (t.finishDate.map Date.toText).toList else []) ++
    (t.createDate.map Date.toText).toList ++ [t.subject]

/-- The line of a task. -/
def toText (t : Task) : Text := Text.join [' '] t.toWords

end Task

end Agenda
