import Agenda.Task
import Agenda.Value.Compare

/-!
# Filters

A filter is a list of rules that must all match, and a rule names a field of a task and lists the
conditions of which one must match. In a text the rules stand between semicolons, the field before
the first equality sign, and the conditions between commas: `due=..today;pri=A,B`. A rule without an
equality sign asks whether the task has the field at all. A minus or an exclamation mark before the
name of the field negates the rule.
-/

namespace Agenda

/-! ## Rules and conditions -/

/-- One condition of a rule. -/
inductive Condition where
  /-- A single value. -/
  | one (value : Text)
  /-- A range of values, each end of which may be left open. -/
  | range (low high : Text)
  deriving DecidableEq, Repr

/-- The conditions on one field, any of which may match. -/
structure FilterRule where
  /-- The name of the field as written, with the mark that negates the rule. -/
  tag : Text
  /-- The conditions. -/
  conditions : List Condition
  deriving DecidableEq, Repr

/-- A list of rules that must all match. -/
structure Filter where
  /-- The rules. -/
  rules : List FilterRule
  /-- How text operands are understood. -/
  style : PatternStyle
  deriving DecidableEq, Repr

namespace Condition

/-- The condition that a text states: a range if it holds two dots, else a single value. -/
def ofText (s : Text) : Condition :=
  match Text.cut? ['.', '.'] s with
  | some (low, high) => range low high
  | none => one s

end Condition

namespace FilterRule

/-- The rule that a text states. -/
def ofText (s : Text) : FilterRule :=
  match Text.cut? ['='] s with
  | some (tag, values) =>
    ⟨tag, ((Text.splitOn ',' values).filter (!·.isEmpty)).map Condition.ofText⟩
  | none => ⟨s, [.one "any".toList]⟩

end FilterRule

namespace Filter

/-- The filter that a text states. -/
def ofText (s : Text) (style : PatternStyle) : Filter :=
  ⟨((Text.splitOn ';' s).filter (!·.isEmpty)).map FilterRule.ofText, style⟩

/-- Does the filter ask for nothing? -/
def isEmpty (f : Filter) : Bool := f.rules.isEmpty

end Filter

/-! ## Reserved operands -/

/-- Does an operand or the name of a field begin with a mark that negates it? -/
def isNegated (s : Text) : Bool := s.head? == some '-' || s.head? == some '!'

/-- Whether an operand is negated, and the operand without the mark. -/
def splitNegation (s : Text) : Bool × Text := if isNegated s then (true, s.drop 1) else (false, s)

/-- The operand for any value. -/
def isAny (s : Text) : Bool := s == "any".toList

/-- The operands for no value. -/
def isNone (s : Text) : Bool := s == "none".toList || s == ['-']

/-- An end of a range that sets no bound. -/
def isOpen (s : Text) : Bool := isNone s || s.isEmpty

/-! ## Fields -/

/-- What a rule can ask for. -/
inductive Field where
  /-- The number of the task in its list. -/
  | id
  | priority
  | finished
  | subject
  | contexts
  | projects
  | hashtags
  | created
  | completed
  /-- A tag of the task. -/
  | tag (name : Text)
  deriving DecidableEq, Repr

/-- The names of the fields that are no tags. -/
def fieldNames : List (Text × Field) := [
  ("ID".toList, .id), ("pri".toList, .priority), ("priority".toList, .priority),
  ("done".toList, .finished), ("subj".toList, .subject), ("subject".toList, .subject),
  ("@".toList, .contexts), ("ctx".toList, .contexts), ("context".toList, .contexts),
  ("+".toList, .projects), ("prj".toList, .projects), ("project".toList, .projects),
  ("#".toList, .hashtags), ("hashtag".toList, .hashtags),
  ("created".toList, .created), ("create".toList, .created), ("completed".toList, .completed)]

/-- The field of a name. -/
def Field.ofName (name : Text) : Field := (fieldNames.lookup name).getD (.tag name)

end Agenda
