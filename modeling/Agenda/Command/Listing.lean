import Agenda.Command.Outcome

/-!
# Listings

The tasks that match a filter are shown as a table with a row for each: its number in the file, its
priority, the day it is due and its subject. The number is the one by which a filter refers to the
task.
-/

namespace Agenda

namespace Listing

/-- The columns. -/
def header : List Text := [['#'], "Pri".toList, "Due".toList, "Subject".toList]

/-- How many tasks are shown, of how many. -/
def title (shown all : Nat) : Text :=
  Text.ofNat shown ++ " of ".toList ++ Text.ofNat all ++ " tasks".toList

/-- The subject of a task, struck through if it is done. -/
def subject (t : Task) : Text :=
  let escaped := Markup.escape t.subject
  if t.finished then Markup.styled "strike" escaped else escaped

/-- The row of a task. -/
def row (id : Nat) (t : Task) : List Text :=
  [Text.ofNat id, (t.priority.map fun p ↦ [p.letter]).getD [],
    (t.dueDate.map Date.toText).getD [], subject t]

/-- The table of some tasks out of a file. -/
def table (all : List Task) (found : List (Nat × Task)) : Printed :=
  .table (title found.length all.length) header (found.map fun (id, t) ↦ row id t)

end Listing

/-- Lists the tasks that match a filter. -/
def listTasks (book : FilterBook) (style : PatternStyle) (tasks : List Task) (query : Text)
    (base : Date) : Outcome :=
  match book.search style tasks query base with
  | .ok found => .done (Listing.table tasks found)
  | .error (.unknownFilter name) => .failed (unknownFilterMessage name)
  | .error (.operand fault) => .faulty (.operand fault)

end Agenda
