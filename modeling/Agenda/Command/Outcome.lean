import Agenda.Command.Arguments
import Agenda.FilterBook
import Agenda.Markup

/-!
# Outcomes of commands

A command prints lines and tables and ends well, with an error that it reports itself, because it
was called wrongly, or because of a fault that it is not prepared for.
-/

namespace Agenda

/-- One thing that is printed. -/
inductive Printed where
  /-- A line with markup. -/
  | line (markup : Text)
  /-- A line that is shown as it is. -/
  | verbatim (text : Text)
  /-- A table whose cells may have markup. -/
  | table (title : Text) (header : List Text) (rows : List (List Text))
  deriving DecidableEq, Repr

namespace Printed

/-- The lines that a plain terminal shows. The cells of a table are set apart by tabs. -/
def toLines : Printed → List Text
  | line markup => [Markup.plain markup]
  | verbatim text => [text]
  | table title header rows =>
    title :: Text.join ['\t'] header ::
      rows.map fun row ↦ Text.join ['\t'] (row.map Markup.plain)

end Printed

/-- A fault that no command is prepared for. -/
inductive CommandFault where
  | file (fault : FileFault)
  | content (fault : Yaml.ContentFault)
  | operand (fault : OperandFault)
  deriving DecidableEq

/-- How a command ends. -/
inductive Ending where
  | success
  /-- With an error that is reported. -/
  | failure
  /-- With a fault that nobody expected. -/
  | fault (fault : CommandFault)
  /-- It was called wrongly. -/
  | usage (fault : UsageFault)
  deriving DecidableEq

/-- What a command prints and how it ends. -/
structure Outcome where
  /-- What is printed, in order. -/
  printed : List Printed
  /-- How the command ends. -/
  ending : Ending
  deriving DecidableEq

namespace Outcome

/-- A command that does its work and prints something. -/
def done (printed : Printed) : Outcome := ⟨[printed], .success⟩

/-- A command that reports an error. -/
def failed (message : Text) : Outcome :=
  ⟨[.line (Markup.styled "red" ("Error: ".toList ++ Markup.escape message))], .failure⟩

/-- A command that meets a fault it is not prepared for. -/
def faulty (fault : CommandFault) : Outcome := ⟨[], .fault fault⟩

/-- A command that is called wrongly. -/
def misused (fault : UsageFault) : Outcome := ⟨[], .usage fault⟩

/-- A command that is not run. -/
def stopped : Stop → Outcome
  | .help => ⟨[], .success⟩
  | .fault fault => misused fault

/-- The status that the program leaves with. -/
def status (o : Outcome) : Nat :=
  match o.ending with
  | .success => 0
  | .failure | .fault _ => 1
  | .usage _ => 2

end Outcome

end Agenda
