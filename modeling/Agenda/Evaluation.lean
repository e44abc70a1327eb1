import Agenda.DateWord
import Agenda.Expression
import Agenda.TagTable

/-!
# Evaluating date expressions

The base of an expression may name a tag of the task, whose value is an expression in turn. Such a
reference is followed by evaluating that value, and the day found is noted in the tag table, so each
tag is resolved at most once. References may form a cycle; a budget of nested evaluations is
therefore handed down, one less for each reference followed, and evaluation stops when it is used
up.

An evaluation answers with the day or the error and with the table as it then is: what was learned
before an error stays learned.
-/

namespace Agenda

/-- How many evaluations may be nested, the outermost one included. -/
def nestingLimit : Nat := 11

/-- The day that a token without a tag stands for: a date word, or an absolute day. -/
def literalDate (base : Date) (soonDays : Int) (token : Text) : Except DateError Date :=
  match DateWord.resolve base soonDays token with
  | .error (.absolute _) =>
    match Date.ofText? token with
    | some d => .ok d
    | none => .error (.noSuchDate token)
  | result => result

/-- The day after the offsets of an expression. -/
def applyOffsets (d : Date) : List Offset → Except DateError Date
  | [] => .ok d
  | o :: os =>
    match Expression.step o.token with
    | .error error => .error error
    | .ok step =>
      match step.apply d o.sign with
      | .ok r => applyOffsets r os
      | .error _ => .error (.offsetOutside o.sign o.token)

/-- The tag that a base refers to: a word of letters names it in any case. -/
def referenceName? (token : Text) : Option Text :=
  if !token.isEmpty && token.all isLatin then some (Text.lower token) else none

/-- Evaluates an expression with a budget of nested evaluations. -/
def evaluateWithin (base : Date) (soonDays : Int) :
    Nat → TagTable → Text → Except DateError Date × TagTable
  | 0, tags, expr => (.error (.tooDeep expr), tags)
  | budget + 1, tags, expr =>
    if expr.isEmpty then (.error .emptyExpression, tags)
    else
      match Expression.parse expr with
      | .error error => (.error error, tags)
      | .ok e =>
        let reference := (referenceName? e.base).bind fun name ↦
          (tags.value? name).map fun value ↦ (name, value)
        let (start, tags) : Except DateError Date × TagTable :=
          match reference with
          | none => (literalDate base soonDays e.base, tags)
          | some (_, .date d) => (.ok d, tags)
          | some (name, .raw text) =>
            match evaluateWithin base soonDays budget tags text with
            | (.ok d, tags) => (.ok d, tags.set name d)
            | failed => failed
        match start with
        | .ok d => (applyOffsets d e.offsets, tags)
        | .error error => (.error error, tags)

/-- Evaluates an expression against a base day and the tags of a task. -/
def evaluate (base : Date) (soonDays : Int) (tags : TagTable) (expr : Text) :
    Except DateError Date × TagTable :=
  evaluateWithin base soonDays nestingLimit tags expr

end Agenda
