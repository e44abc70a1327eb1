import Agenda.Command.Listing
import Agenda.FilterBook.Keeper
import Agenda.Rewriting
import Agenda.Settings.Loader
import Agenda.TaskFile

/-!
# Commands

The commands of the program: resolving an expression, mending a task, listing tasks and keeping
filters. The settings are loaded before the words behind a command are looked at. What a command
does is a function of texts; only what has to be read from files and written to them is asked of the
monad.
-/

namespace Agenda

/-! ## Tables of options and commands -/

/-- The commands. -/
inductive CommandName where
  /-- Resolves an expression. -/
  | resolve
  /-- Replaces the expressions in a task. -/
  | mend
  /-- Lists tasks. -/
  | list
  /-- Keeps filters. -/
  | query
  deriving DecidableEq, Repr

/-- The commands on saved filters. -/
inductive QueryCommandName where
  | save
  | list
  | delete
  deriving DecidableEq, Repr

/-- The names of the commands. -/
def commandNames : List (Text × CommandName) :=
  [("calc".toList, .resolve), ("fix".toList, .mend), ("list".toList, .list), ("query".toList, .query)]

/-- The names of the commands on saved filters. -/
def queryCommandNames : List (Text × QueryCommandName) :=
  [("save".toList, .save), ("list".toList, .list), ("delete".toList, .delete)]

/-- The options before the name of a command. -/
def programOptions : List (Text × OptionName) :=
  [("--config".toList, .config), ("--verbose".toList, .verbose), ("-v".toList, .verbose)]

/-- The option for the day that relative dates refer to. -/
def baseOptions : List (Text × OptionName) := [("--base".toList, .base), ("-b".toList, .base)]

/-- The options for resolving an expression. -/
def calcOptions : List (Text × OptionName) :=
  baseOptions ++ [("--task".toList, .task), ("-t".toList, .task)]

/-- The options for listing tasks. -/
def listOptions : List (Text × OptionName) :=
  baseOptions ++ [("--file".toList, .file), ("-f".toList, .file), ("--filter".toList, .filter),
    ("-F".toList, .filter)]

/-- The value of an option, unless it is empty. -/
def Arguments.given? (a : Arguments) (name : OptionName) : Option Text :=
  (a.value? name).filter (!·.isEmpty)

/-- The argument at a place. -/
def Arguments.argument (a : Arguments) (i : Nat) : Text := a.positional[i]?.getD []

/-- The day that relative dates refer to: the one given, or today. -/
def Arguments.base (a : Arguments) (today : Date) : Except UsageFault Date :=
  match a.given? .base with
  | none => .ok today
  | some value =>
    match Date.ofText? value with
    | some d => .ok d
    | none => .error (.badBase value)

/-! ## Commands without files -/

/-- Resolves an expression, which may refer to the tags of a task. -/
def resolveExpression (reason : Text) (soonDays : SoonDays) (base : Date) (expression : Text)
    (task : Option Text) : Outcome :=
  let tags := match task with
    | some line => .ofTask (Task.parse line (some base))
    | none => .empty
  match (evaluate base soonDays.toNat tags expression).1 with
  | .ok d => .done (.line d.toText)
  | .error error => .failed (error.message reason)

/-- Replaces the expressions in the tags of a task by days. -/
def mendTask (reason : Text) (soonDays : SoonDays) (base : Date) (text : Text) : Outcome :=
  match resolveText base soonDays.toNat text with
  | .ok mended => .done (.verbatim mended)
  | .error error => .failed (error.message reason)

/-- Shows the saved filters in the order of their names. -/
def listFilters (book : FilterBook) : Outcome :=
  if book.saved.isEmpty then .done (.line (Markup.styled "dim" "No saved filters".toList))
  else
    let line (entry : Text × Text) : Printed :=
      .line (Markup.styled "cyan" ('@' :: Markup.escape entry.1) ++ [' '] ++ Markup.escape entry.2)
    ⟨(book.saved.mergeSort fun a b ↦ Text.le a.1 b.1).map line, .success⟩

/-- The report that a filter was saved or deleted. -/
def filterReport (verb : String) (name : Text) : Outcome :=
  .done (.line (Markup.styled "green" (verb.toList ++ " filter ".toList ++ DateError.quoted name)))

/-! ## Commands with files -/

/-- Where the program runs. -/
structure Surroundings where
  /-- The home directory. -/
  home : Text
  /-- The day. -/
  today : Date
  /-- What the machine says of a day that its calendar does not have. -/
  reason : Text

section

variable {m : Type → Type} [Monad m] [FileAccess m]

/-- Does something with the saved filters. -/
def withFilters (home : Text) (settings : Settings) (action : FilterKeeper → m Outcome) :
    m Outcome := do
  match ← FilterKeeper.load (FilterBook.path home settings.dataDir) settings.style with
  | .error fault => return .faulty (.content fault)
  | .ok (keeper, _) => action keeper

/-- Lists the tasks of a file that match a filter. -/
def listFile (s : Surroundings) (settings : Settings) (a : Arguments) : m Outcome := do
  match a.base s.today with
  | .error fault => return .misused fault
  | .ok base =>
    let named := Path.ofText ((a.given? .file).getD settings.todoFile)
    match named.expandHome? s.home with
    | none => return .faulty (.file .unknownHome)
    | some path =>
      match (← FileAccess.read path).bind (tasksOfBytes · base) with
      | .error .missing => return .failed ("todo file not found: ".toList ++ path.toText)
      | .error fault => return .faulty (.file fault)
      | .ok tasks =>
        withFilters s.home settings fun keeper ↦
          return listTasks keeper.book keeper.style tasks ((a.value? .filter).getD []) base

/-- Runs a command on the saved filters. -/
def runQuery (s : Surroundings) (settings : Settings) (words : List Text) : m Outcome :=
  match readGroup [] queryCommandNames words with
  | .error stop => return .stopped stop
  | .ok (_, .save, words) =>
    match readCommand [] 2 words with
    | .error stop => return .stopped stop
    | .ok a =>
      withFilters s.home settings fun keeper ↦ do
        match (← keeper.save (a.argument 0) (a.argument 1)).1 with
        | .error fault => return .faulty (.file fault)
        | .ok () => return filterReport "Saved" (a.argument 0)
  | .ok (_, .list, words) =>
    match readCommand [] 0 words with
    | .error stop => return .stopped stop
    | .ok _ => withFilters s.home settings fun keeper ↦ return listFilters keeper.book
  | .ok (_, .delete, words) =>
    match readCommand [] 1 words with
    | .error stop => return .stopped stop
    | .ok a =>
      withFilters s.home settings fun keeper ↦ do
        match (← keeper.delete (a.argument 0)).1 with
        | .error fault => return .faulty (.file fault)
        | .ok true => return filterReport "Deleted" (a.argument 0)
        | .ok false => return .failed (unknownFilterMessage (a.argument 0))

/-- Runs a command with settings. -/
def runCommand (s : Surroundings) (settings : Settings) (command : CommandName)
    (words : List Text) : m Outcome :=
  match command with
  | .resolve =>
    match readCommand calcOptions 1 words with
    | .error stop => return .stopped stop
    | .ok a =>
      match a.base s.today with
      | .error fault => return .misused fault
      | .ok base =>
        return resolveExpression s.reason settings.soonDays base (a.argument 0) (a.given? .task)
  | .mend =>
    match readCommand baseOptions 1 words with
    | .error stop => return .stopped stop
    | .ok a =>
      match a.base s.today with
      | .error fault => return .misused fault
      | .ok base => return mendTask s.reason settings.soonDays base (a.argument 0)
  | .list =>
    match readCommand listOptions 0 words with
    | .error stop => return .stopped stop
    | .ok a => listFile s settings a
  | .query => runQuery s settings words

/-- Runs the program, and tells what to warn the user of. -/
def run (s : Surroundings) (words : List Text) : m (Outcome × List SettingsWarning) := do
  match readGroup programOptions commandNames words with
  | .error stop => return (.stopped stop, [])
  | .ok (a, command, words) =>
    match (← SettingsLoader.reload s.home ((a.given? .config).map Path.ofText)).1 with
    | .error fault => return (.faulty (.content fault), [])
    | .ok (settings, warnings) => return (← runCommand s settings command words, warnings)

end

end Agenda
