import Agenda.Filter.Basic

/-!
# Matching tasks with filters

For each field it is laid down what a single value and what a range means. The operands `none` and
`-` ask for a missing field and `any` for a present one; a mark in front negates an operand. Two
kinds of operands are faults: a letter that cannot be read as a priority, and a pattern without an
answer. Conditions and rules are looked at from left to right and no further than the answer needs,
so a fault behind the deciding condition does not show.
-/

namespace Agenda

/-- A task that is held against a filter. -/
structure Candidate where
  /-- The task. -/
  task : Task
  /-- Its number in the list, counted from 1. -/
  id : Nat
  /-- The day that relative operands refer to. -/
  base : Date
  /-- How text operands are understood. -/
  style : PatternStyle

/-- Why an operand cannot be held against a field. -/
inductive OperandFault where
  /-- It cannot be read as a priority. -/
  | priority (fault : PriorityFault)
  /-- As a pattern it has no answer. -/
  | pattern (fault : PatternFault)
  deriving DecidableEq, Repr

/-! ## Tests in a row -/

section Tests

variable {ε α : Type} (test : α → Except ε Bool)

/-- Does one of the tests succeed? They are tried in order up to the first that does. -/
def anyOf : List α → Except ε Bool
  | [] => .ok false
  | a :: as =>
    match test a with
    | .ok false => anyOf as
    | result => result

/-- Do all the tests succeed? They are tried in order up to the first that does not. -/
def allOf : List α → Except ε Bool
  | [] => .ok true
  | a :: as =>
    match test a with
    | .ok true => allOf as
    | result => result

end Tests

/-! ## Single values -/

namespace One

/-- The number of the task. An operand that is empty behind its mark counts as equal. -/
def matchesId (operand : Text) (id : Nat) : Bool :=
  let (negated, value) := splitNegation operand
  if isNone operand then false
  else if isAny value then !negated
  else if value == "none".toList then negated
  else
    let equal := isOpen value || (Text.isNumber value && id == Text.toNat value)
    equal != negated

/-- The priority. -/
def matchesPriority (operand : Text) (priority : Option Priority) : Except PriorityFault Bool :=
  let (negated, value) := splitNegation operand
  if isNone operand then .ok priority.isNone
  else if isAny operand then .ok priority.isSome
  else if isAny value then .ok !negated
  else if value == "none".toList then .ok negated
  else
    match Priority.ofText? value with
    | .error fault => .error fault
    | .ok wanted =>
      match wanted, priority with
      | some wanted, some actual => .ok ((wanted == actual) != negated)
      | _, _ => .ok false

/-- Whether the task is done. -/
def matchesFinished (operand : Text) (finished : Bool) : Bool :=
  if operand.isEmpty || isAny operand then finished else isNone operand && !finished

/-- The subject. Without a star at either end a wildcard may match anywhere in it. -/
def matchesSubject (operand : Text) (style : PatternStyle) (subject : Text) :
    Except PatternFault Bool :=
  let (negated, value) := splitNegation operand
  let starred := value.head? == some '*' || value.getLast? == some '*'
  let pattern := if style = .wildcard && !starred then '*' :: value ++ ['*'] else value
  (style.matches? pattern subject).map (· != negated)

/-- A list of marked words: all of them have to match, or none of them if the operand is negated. -/
def matchesList (operand : Text) (style : PatternStyle) (values : List Text) :
    Except PatternFault Bool :=
  let (negated, pattern) := splitNegation operand
  if isNone operand then .ok values.isEmpty
  else if isAny operand then .ok !values.isEmpty
  else if values.isEmpty then .ok false
  else allOf (fun value ↦ (style.matches? pattern value).map (· != negated)) values

/-- A day of the task. -/
def matchesDate (operand : Text) (base : Date) : Option Date → Bool
  | none => isNone operand
  | some d =>
    let (negated, value) := splitNegation operand
    if isNone operand then false
    else if isAny operand || operand.isEmpty then true
    else
      let equal := isAny value || isOpen value || readDate? base value == some d
      equal != negated

/-- A tag. A star anywhere in the operand makes it a pattern. -/
def matchesTag (operand : Text) (kind : ValueKind) (c : Candidate) :
    Option Text → Except PatternFault Bool
  | none => .ok (isNone operand)
  | some actual =>
    let kind := if '*' ∈ operand then .text else kind
    let (negated, value) := splitNegation operand
    if operand == ['-'] then .ok false
    else if value.isEmpty then .ok true
    else if isAny value then .ok !negated
    else if value == "none".toList then .ok negated
    else (valuesEqual kind c.base c.style actual value).map (· != negated)

end One

/-! ## Ranges -/

namespace Range

/-- Does the number of the task keep to one end of a range? -/
def idWithin (bound : Bound) (id : Nat) (value : Text) : Bool :=
  isAny value || value.isEmpty ||
    (!isNone value && Text.isNumber value &&
      match bound with
      | .atMost => id ≤ Text.toNat value
      | .atLeast => Text.toNat value ≤ id)

/-- The number of the task. -/
def matchesId (low high : Text) (id : Nat) : Bool :=
  if isNone low && isNone high then false
  else if isOpen low then idWithin .atMost id high
  else if isOpen high then idWithin .atLeast id low
  else idWithin .atLeast id low && idWithin .atMost id high

/-- The priority. A is the lowest and Z the highest; a missing priority lies in a range with an end
that asks for none. -/
def matchesPriority (low high : Text) (priority : Option Priority) : Except PriorityFault Bool :=
  let within (test : Priority → Priority → Bool) (operand : Option Priority) : Bool :=
    match operand, priority with
    | some wanted, some actual => test actual wanted
    | _, _ => false
  if isNone low && isNone high then .ok priority.isNone
  else if low.isEmpty && high.isEmpty then .ok priority.isSome
  else if isOpen low then
    match Priority.ofText? high with
    | .error fault => .error fault
    | .ok upper => .ok (within (· ≤ ·) upper || (priority.isNone && !low.isEmpty))
  else if isOpen high then
    match Priority.ofText? low with
    | .error fault => .error fault
    | .ok lower => .ok (within (· ≥ ·) lower || (priority.isNone && !high.isEmpty))
  else
    match Priority.ofText? low, Priority.ofText? high with
    | .error fault, _ | _, .error fault => .error fault
    | .ok lower, .ok upper => .ok (within (· ≥ ·) lower && within (· ≤ ·) upper)

/-- Does a day keep to one end of a range? -/
def dateWithin (bound : Bound) (base d : Date) (value : Text) : Bool :=
  isAny value ||
    (!isOpen value &&
      match readDate? base value with
      | none => false
      | some other =>
        match bound with
        | .atMost => d.le other
        | .atLeast => other.le d)

/-- A day of the task. -/
def matchesDate (low high : Text) (base : Date) : Option Date → Bool
  | none => isNone low || isNone high
  | some d =>
    if isNone low && isNone high then false
    else if isOpen low then dateWithin .atMost base d high
    else if isOpen high then dateWithin .atLeast base d low
    else dateWithin .atMost base d high && dateWithin .atLeast base d low

/-- A tag. The text `none` as a value lies in the range from `none` to `none`. -/
def matchesTag (low high : Text) (kind : ValueKind) (base : Date) : Option Text → Bool
  | none => isNone low || isNone high
  | some actual =>
    let reserved := "none".toList
    if low == reserved && high == reserved && actual == reserved then true
    else if isNone low && isNone high then false
    else if isOpen low then valuesCompare kind base .atMost actual high
    else if isOpen high then valuesCompare kind base .atLeast actual low
    else valuesCompare kind base .atMost actual high && valuesCompare kind base .atLeast actual low

end Range

/-! ## Conditions, rules and filters -/

/-- Does a task match a condition on a field? The kind is that of the tag of the same name. -/
def Condition.matches? (condition : Condition) (field : Field) (kind : ValueKind) (c : Candidate) :
    Except OperandFault Bool :=
  match condition, field with
  | .one v, .id => .ok (One.matchesId v c.id)
  | .one v, .priority => (One.matchesPriority v c.task.priority).mapError .priority
  | .one v, .finished => .ok (One.matchesFinished v c.task.finished)
  | .one v, .subject => (One.matchesSubject v c.style c.task.subject).mapError .pattern
  | .one v, .contexts => (One.matchesList v c.style c.task.contexts).mapError .pattern
  | .one v, .projects => (One.matchesList v c.style c.task.projects).mapError .pattern
  | .one v, .hashtags => (One.matchesList v c.style c.task.hashtags).mapError .pattern
  | .one v, .created => .ok (One.matchesDate v c.base c.task.createDate)
  | .one v, .completed => .ok (One.matchesDate v c.base c.task.finishDate)
  | .one v, .tag name => (One.matchesTag v kind c (c.task.tags.get? name)).mapError .pattern
  | .range low high, .id => .ok (Range.matchesId low high c.id)
  | .range low high, .priority =>
    (Range.matchesPriority low high c.task.priority).mapError .priority
  | .range low high, .created => .ok (Range.matchesDate low high c.base c.task.createDate)
  | .range low high, .completed => .ok (Range.matchesDate low high c.base c.task.finishDate)
  | .range low high, .tag name =>
    .ok (Range.matchesTag low high kind c.base (c.task.tags.get? name))
  | .range .., _ => .ok false

/-- Does a task match a rule? -/
def FilterRule.matches? (rule : FilterRule) (c : Candidate) : Except OperandFault Bool :=
  let (negated, name) := splitNegation rule.tag
  let kind := ValueKind.ofTagValue name (c.task.tags.get? name)
  (anyOf (·.matches? (.ofName name) kind c) rule.conditions).map (· != negated)

/-- Does a task match a filter? -/
def Filter.matches? (f : Filter) (task : Task) (id : Nat) (base : Date) :
    Except OperandFault Bool :=
  allOf (·.matches? ⟨task, id, base, f.style⟩) f.rules

/-- The tasks of a list that match, in order, each with its number counted from the one given. -/
def Filter.selectFrom (f : Filter) (base : Date) :
    Nat → List Task → Except OperandFault (List (Nat × Task))
  | _, [] => .ok []
  | id, task :: tasks =>
    match f.matches? task id base with
    | .error fault => .error fault
    | .ok matched =>
      match selectFrom f base (id + 1) tasks with
      | .error fault => .error fault
      | .ok rest => .ok (if matched then (id, task) :: rest else rest)

/-- The tasks of a list that match, in order, each with its number counted from 1. -/
def Filter.select (f : Filter) (tasks : List Task) (base : Date) :
    Except OperandFault (List (Nat × Task)) :=
  f.selectFrom base 1 tasks

end Agenda
