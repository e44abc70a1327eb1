import Agenda.File.Access
import Agenda.Task

/-!
# Task files

A task file holds one task on each line. Lines end with a line feed, a carriage return or both, and
nothing else ends a line. Lines of white space are passed over, so the number of a task counts the
lines with something on them.
-/

namespace Agenda

namespace Text

/-- The text with every line end written as a line feed. -/
def unifyLineEnds : Text → Text
  | [] => []
  | '\r' :: '\n' :: s => '\n' :: unifyLineEnds s
  | c :: s => (if c == '\r' then '\n' else c) :: unifyLineEnds s

/-- The lines of a text. A line end at the end of the text leaves an empty line behind it. -/
def lines (s : Text) : List Text := splitOn '\n' (unifyLineEnds s)

end Text

/-- The tasks of a file with the given text. -/
def tasksOfText (text : Text) (today : Date) : List Task :=
  ((Text.lines text).filter (!Text.allBlank ·)).map (Task.parse · (some today))

/-- The tasks of a file with the given content. -/
def tasksOfBytes (bytes : ByteArray) (today : Date) : Except FileFault (List Task) :=
  (textOfBytes bytes).map (tasksOfText · today)

end Agenda
