import Agenda.Proofs.FilterFault

/-!
# Fields and the conditions on them

A condition is held against a candidate under the name of a field. The name decides what is compared
and, for a tag, of what kind its values are (`Candidate.meets?`), and a rule asks whether one of its
conditions is met so (`FilterRule.matches?_eq`). Whether the candidate has the field at all is a
question of its own (`Candidate.Has`): the conditions treat a missing field in a way of their own,
and every law about them says first which of the two cases it is about.

The names of the built-in fields are a closed list. Every other name is that of a tag, so a law for
all fields is one for each of the fields in the list and one for the tags.
-/

namespace Agenda

theorem Field.ofName_eq_tag_or_mem (name : Text) :
    Field.ofName name = .tag name ∨ (name, Field.ofName name) ∈ fieldNames := by
  rw [Field.ofName]
  cases hlookup : fieldNames.lookup name with
  | none => exact .inl rfl
  | some field =>
    obtain ⟨before, after, hsplit, -⟩ := List.lookup_eq_some_iff.mp hlookup
    refine .inr ?_
    rw [hsplit]
    simp

/-- Does a candidate meet a condition on the field of a name? -/
def Candidate.meets? (c : Candidate) (name : Text) (condition : Condition) :
    Except OperandFault Bool :=
  condition.matches? (.ofName name) (.ofTagValue name (c.task.tags.get? name)) c

/-- The condition is held against the candidate without a fault, and is met. -/
def Candidate.Matches (c : Candidate) (name : Text) (condition : Condition) : Prop :=
  c.meets? name condition = .ok true

/-- The candidate has the field. Every candidate has a number and a subject. -/
def Candidate.Has (c : Candidate) : Field → Prop
  | .id | .subject => True
  | .priority => c.task.priority.isSome = true
  | .finished => c.task.finished = true
  | .contexts => c.task.contexts ≠ []
  | .projects => c.task.projects ≠ []
  | .hashtags => c.task.hashtags ≠ []
  | .created => c.task.createDate.isSome = true
  | .completed => c.task.finishDate.isSome = true
  | .tag name => (c.task.tags.get? name).isSome = true

instance (c : Candidate) : (field : Field) → Decidable (c.Has field)
  | .id | .subject => inferInstanceAs (Decidable True)
  | .priority => inferInstanceAs (Decidable (c.task.priority.isSome = true))
  | .finished => inferInstanceAs (Decidable (c.task.finished = true))
  | .contexts => inferInstanceAs (Decidable (c.task.contexts ≠ []))
  | .projects => inferInstanceAs (Decidable (c.task.projects ≠ []))
  | .hashtags => inferInstanceAs (Decidable (c.task.hashtags ≠ []))
  | .created => inferInstanceAs (Decidable (c.task.createDate.isSome = true))
  | .completed => inferInstanceAs (Decidable (c.task.finishDate.isSome = true))
  | .tag name => inferInstanceAs (Decidable ((c.task.tags.get? name).isSome = true))

theorem FilterRule.matches?_eq (rule : FilterRule) (c : Candidate) :
    rule.matches? c =
      (anyOf (c.meets? (splitNegation rule.tag).2) rule.conditions).map
        (· != (splitNegation rule.tag).1) := rfl

end Agenda
