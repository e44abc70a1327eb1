import Agenda.Text.Basic
import Agenda.Text.WordChar

/-!
# Arguments of commands

The words behind the name of a command are options, their values and positional arguments. A long
option begins with two dashes and may have its value behind an equality sign; short options are
letters behind one dash, and several of them may share it, the last with its value attached. Two
dashes alone end the options.

A group of commands takes its own options in front of the name of the command, while a command takes
them anywhere. A group without any words shows what it is for, and so does one where the word in the
place of the command is no command and looks like an option.
-/

namespace Agenda

/-- The options of all commands. -/
inductive OptionName where
  /-- The file of the settings. -/
  | config
  /-- More reports. -/
  | verbose
  /-- The day that relative dates refer to. -/
  | base
  /-- The task whose tags an expression may refer to. -/
  | task
  /-- The file of the tasks. -/
  | file
  /-- The filter that tasks have to match. -/
  | filter
  /-- What the command is for. -/
  | help
  deriving DecidableEq, Repr

/-- Does the option take a value? -/
def OptionName.takesValue : OptionName → Bool
  | verbose | help => false
  | _ => true

/-- What is wrong with the words behind a command. -/
inductive UsageFault where
  /-- There is no command of this name. -/
  | noSuchCommand (name : Text)
  /-- A group of commands is named without a command. -/
  | noCommand
  /-- The command has no such option. -/
  | noSuchOption (name : Text)
  /-- An option lacks its value, or has one that it does not take. -/
  | optionValue (name : Text)
  /-- An argument is missing. -/
  | missingArgument
  /-- There are too many arguments. -/
  | extraArguments
  /-- The base is not a day. -/
  | badBase (value : Text)
  deriving DecidableEq, Repr

/-- The message for people. -/
def UsageFault.message : UsageFault → Text
  | noCommand => "Missing command.".toList
  | noSuchCommand name => "No such command: ".toList ++ name
  | noSuchOption name => "No such option: ".toList ++ name
  | optionValue name => "Wrong use of option: ".toList ++ name
  | missingArgument => "Missing argument.".toList
  | extraArguments => "Unexpected extra argument.".toList
  | badBase value => '\x27' :: value ++ "\x27 is not a YYYY-MM-DD date".toList

/-- The options and arguments behind a command. -/
structure Arguments where
  /-- The options in order, with their values; an option that takes none has the empty one. -/
  options : List (OptionName × Text)
  /-- The positional arguments. -/
  positional : List Text
  deriving DecidableEq, Repr

namespace Arguments

/-- The value of an option: the last one given. -/
def value? (a : Arguments) (name : OptionName) : Option Text := a.options.reverse.lookup name

/-- Is the option given? -/
def has (a : Arguments) (name : OptionName) : Bool := (a.value? name).isSome

/-- One option more at the front. -/
def withOption (name : OptionName) (value : Text) (a : Arguments) : Arguments :=
  { a with options := (name, value) :: a.options }

/-! ## Reading -/

/-- The short options in one word: those that take no value, and the last one with the value
attached to it, if it takes one. -/
def readShort (table : List (Text × OptionName)) :
    Text → Except UsageFault (List OptionName × Option (OptionName × Text))
  | [] => .ok ([], none)
  | letter :: rest =>
    match table.lookup ['-', letter] with
    | none => .error (.noSuchOption ['-', letter])
    | some name =>
      if name.takesValue then .ok ([], some (name, rest))
      else (readShort table rest).map fun (names, last) ↦ (name :: names, last)

/-- Reads the words behind a command with the given options. If options may not stand anywhere, the
first positional argument ends them. -/
def read (table : List (Text × OptionName)) (anywhere : Bool) :
    List Text → Except UsageFault Arguments
  | [] => .ok ⟨[], []⟩
  | word :: words =>
    if word == ['-', '-'] then .ok ⟨[], words⟩
    else if ['-', '-'].isPrefixOf word then
      let (name, attached) := match Text.cut? ['='] word with
        | some (name, value) => (name, some value)
        | none => (word, none)
      match table.lookup name with
      | none => .error (.noSuchOption name)
      | some option =>
        match option.takesValue, attached, words with
        | true, some value, words => (read table anywhere words).map (withOption option value)
        | true, none, value :: words => (read table anywhere words).map (withOption option value)
        | true, none, [] | false, some _, _ => .error (.optionValue name)
        | false, none, words => (read table anywhere words).map (withOption option [])
    else if word.head? == some '-' && 1 < word.length then
      match readShort table (word.drop 1) with
      | .error fault => .error fault
      | .ok (names, last) =>
        let withNames (a : Arguments) := names.foldr (withOption · []) a
        match last, words with
        | none, words => (read table anywhere words).map withNames
        | some (option, []), value :: words =>
          (read table anywhere words).map fun a ↦ withNames (withOption option value a)
        | some (_, []), [] => .error (.optionValue ('-' :: word.drop (word.length - 1)))
        | some (option, attached), words =>
          (read table anywhere words).map fun a ↦ withNames (withOption option attached a)
    else if anywhere then
      (read table anywhere words).map fun a ↦ { a with positional := word :: a.positional }
    else .ok ⟨[], word :: words⟩

end Arguments

/-! ## Groups and commands -/

/-- Why a command is not run. -/
inductive Stop where
  /-- What the command is for is shown instead. -/
  | help
  /-- The words behind it are wrong. -/
  | fault (fault : UsageFault)
  deriving DecidableEq, Repr

/-- The options and arguments, unless the user asks for help. -/
def readOrHelp (table : List (Text × OptionName)) (anywhere : Bool) (words : List Text) :
    Except Stop Arguments :=
  match Arguments.read (("--help".toList, .help) :: table) anywhere words with
  | .error fault => .error (.fault fault)
  | .ok a => if a.has .help then .error .help else .ok a

/-- Does a word begin as options do, with a character that is neither a letter nor a number? -/
def looksLikeOption : Text → Bool
  | [] => false
  | c :: _ => !isAlphanumeric c

/-- Reads the words behind a group of commands: its options, the command, and the words behind it.
-/
def readGroup {α : Type} (table : List (Text × OptionName)) (commands : List (Text × α))
    (words : List Text) : Except Stop (Arguments × α × List Text) := do
  if words.isEmpty then throw .help
  let a ← readOrHelp table false words
  match a.positional with
  | [] => throw (.fault .noCommand)
  | name :: rest =>
    match commands.lookup name with
    | some command => return (a, command, rest)
    | none => throw (if looksLikeOption name then .help else .fault (.noSuchCommand name))

/-- Reads the words behind a command with a number of arguments. -/
def readCommand (table : List (Text × OptionName)) (count : Nat) (words : List Text) :
    Except Stop Arguments := do
  let a ← readOrHelp table true words
  if a.positional.length < count then throw (.fault .missingArgument)
  if count < a.positional.length then throw (.fault .extraArguments)
  return a

end Agenda
