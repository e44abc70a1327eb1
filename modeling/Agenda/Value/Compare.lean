import Agenda.Evaluation
import Agenda.Number.Literal
import Agenda.Pattern.Basic
import Agenda.Value.Kind
import Agenda.Value.Quantity

/-!
# Comparing tag values

Two texts are compared as values of a kind by reading both and comparing what was read; a text that
cannot be read is neither equal nor less nor greater. Two kinds are special for equality. Texts are
matched by a pattern, which may have no answer. A day is compared as written: the operand may be
relative, so it is resolved and written out, and the value of the task has to be that very text.
-/

namespace Agenda

/-! ## Days -/

/-- The number of days of `soon` in a filter. -/
def filterSoonDays : Int := 7

/-- The day that an operand stands for: a date word, an absolute day or an expression. -/
def readDate? (base : Date) (value : Text) : Option Date :=
  match DateWord.resolve base filterSoonDays value with
  | .ok d => some d
  | .error _ =>
    match Date.ofText? value with
    | some d => some d
    | none => (evaluate base filterSoonDays .empty value).1.toOption

/-! ## Readings -/

/-- What a text says as a value of its kind. -/
inductive Reading where
  | date (date : Date)
  | number (number : Int)
  | double (double : Binary64)
  | text (text : Text)
  deriving DecidableEq

namespace Reading

/-- Is the first at most the second? -/
def le : Reading → Reading → Bool
  | date a, date b => a.le b
  | number a, number b => a ≤ b
  | double a, double b => a.le b
  | text a, text b => Text.le a b
  | _, _ => false

/-- Are the two the same value? -/
def eq : Reading → Reading → Bool
  | date a, date b => a = b
  | number a, number b => a = b
  | double a, double b => a.eq b
  | text a, text b => a = b
  | _, _ => false

end Reading

/-- Reads a text as a value of a kind. -/
def ValueKind.read? (kind : ValueKind) (base : Date) (value : Text) : Option Reading :=
  match kind with
  | date => (readDate? base value).map .date
  | size => (readSize? value).map fun n ↦ .number n
  | duration => (readDuration? value).map .number
  | time => (readTime? value).map fun n ↦ .number n
  | integer => (readInteger? value).map .number
  | float => (readDouble? value).map .double
  | text | unknown => some (.text value)

/-! ## Comparison -/

/-- Does the value of a task equal an operand? -/
def valuesEqual (kind : ValueKind) (base : Date) (style : PatternStyle) (value operand : Text) :
    Except PatternFault Bool :=
  match kind with
  | .date => .ok (value = ((readDate? base operand).map Date.toText).getD operand)
  | .text | .unknown => style.matches? operand value
  | _ =>
    match kind.read? base value, kind.read? base operand with
    | some a, some b => .ok (a.eq b)
    | _, _ => .ok false

/-- A bound that a value can be held against. -/
inductive Bound where
  /-- The value is at most the operand. -/
  | atMost
  /-- The value is at least the operand. -/
  | atLeast
  deriving DecidableEq, Repr

/-- Does the value of a task keep to a bound? -/
def valuesCompare (kind : ValueKind) (base : Date) (bound : Bound) (value operand : Text) : Bool :=
  match kind with
  | .unknown => false
  | _ =>
    match kind.read? base value, kind.read? base operand with
    | some a, some b =>
      match bound with
      | .atMost => a.le b
      | .atLeast => b.le a
    | _, _ => false

end Agenda
