import Agenda.Proofs.Combination

/-!
# Asking whether a field is there

A filter asks whether a task has a field by the bare name of the field or by the operand `any`, and
whether the field is missing by the operands `none` and `-` or by a mark before the bare name.

These go different ways. The operands are recognised by every comparison for itself, before it takes
off a mark, so that `-` is read as an operand and not as the mark of an empty one; the mark before a
name turns the answer of a rule around. All of them come to one question, `Candidate.Has`, and never
fail. The subject is left out: it is always there, and its operands are searched for in it.
-/

namespace Agenda

variable {name v : Text} {mark : Char} {field : Field}

/-! ## The name of the subject -/

theorem Field.ofName_ne_subject (h₁ : name ≠ "subj".toList) (h₂ : name ≠ "subject".toList) :
    Field.ofName name ≠ .subject := by
  intro hfield
  rcases Field.ofName_eq_tag_or_mem name with htag | hmem
  · cases hfield.symm.trans htag
  · rw [hfield] at hmem
    have hnames : name = "subj".toList ∨ name = "subject".toList := by simpa [fieldNames] using hmem
    exact hnames.elim h₁ h₂

/-! ## Operands -/

theorem eq_of_isNone (h : isNone v = true) : v = "none".toList ∨ v = ['-'] := by
  simpa [isNone] using h

namespace One

theorem matchesDate_any (base : Date) (date : Option Date) :
    matchesDate "any".toList base date = date.isSome := by
  cases date <;> rfl

theorem matchesDate_none (hv : isNone v = true) (base : Date) (date : Option Date) :
    matchesDate v base date = !date.isSome := by
  cases date with
  | none => exact hv
  | some d => rw [matchesDate, hv]; rfl

theorem matchesTag_any (kind : ValueKind) (c : Candidate) (value : Option Text) :
    matchesTag "any".toList kind c value = .ok value.isSome := by
  cases value <;> rfl

/-- A lone minus is an operand and not a mark, which would match every value behind it. -/
theorem matchesTag_none (hv : isNone v = true) (kind : ValueKind) (c : Candidate)
    (value : Option Text) : matchesTag v kind c value = .ok !value.isSome := by
  cases value with
  | none => exact congrArg _ hv
  | some actual => rcases eq_of_isNone hv with rfl | rfl <;> rfl

theorem matchesId_none (hv : isNone v = true) (id : Nat) : matchesId v id = false := by
  rw [matchesId, hv]
  rfl

theorem matchesPriority_none (hv : isNone v = true) (priority : Option Priority) :
    matchesPriority v priority = .ok priority.isNone := by
  rw [matchesPriority, hv]
  rfl

theorem matchesFinished_none (hv : isNone v = true) (finished : Bool) :
    matchesFinished v finished = !finished := by
  rcases eq_of_isNone hv with rfl | rfl <;> rfl

theorem matchesList_any (style : PatternStyle) (values : List Text) :
    matchesList "any".toList style values = .ok !values.isEmpty := rfl

theorem matchesList_none (hv : isNone v = true) (style : PatternStyle) (values : List Text) :
    matchesList v style values = .ok values.isEmpty := by
  rw [matchesList, hv]
  rfl

end One

/-- The operands for presence and for absence are answered from one Boolean. -/
theorem Condition.exists_matches?_presence (hfield : field ≠ .subject) (kind : ValueKind)
    (c : Candidate) : ∃ has : Bool, (has = true ↔ c.Has field) ∧
      matches? (.one "any".toList) field kind c = .ok has ∧
      ∀ v, isNone v = true → matches? (.one v) field kind c = .ok !has := by
  cases field with
  | id =>
    refine ⟨true, iff_of_true rfl trivial, rfl, fun v hv ↦ ?_⟩
    rw [matches?, One.matchesId_none hv]
    rfl
  | priority =>
    refine ⟨c.task.priority.isSome, Iff.rfl, rfl, fun v hv ↦ ?_⟩
    rw [matches?, One.matchesPriority_none hv, Option.not_isSome]
    rfl
  | finished =>
    refine ⟨c.task.finished, Iff.rfl, rfl, fun v hv ↦ ?_⟩
    rw [matches?, One.matchesFinished_none hv]
  | subject => exact absurd rfl hfield
  | contexts | projects | hashtags =>
    refine ⟨_, ?_, congrArg (Except.mapError OperandFault.pattern)
      (One.matchesList_any c.style _), fun v hv ↦ ?_⟩
    · simp [Candidate.Has]
    · rw [matches?, One.matchesList_none hv, Bool.not_not]
      rfl
  | created | completed =>
    refine ⟨_, Iff.rfl, congrArg _ (One.matchesDate_any _ _), fun v hv ↦ ?_⟩
    rw [matches?, One.matchesDate_none hv]
  | tag tag =>
    refine ⟨_, Iff.rfl, congrArg (Except.mapError OperandFault.pattern)
      (One.matchesTag_any kind c _), fun v hv ↦ ?_⟩
    rw [matches?, One.matchesTag_none hv]
    rfl

theorem Candidate.meets_presence (c : Candidate) (hfield : Field.ofName name ≠ .subject) :
    c.meets? name (.one "any".toList) = .ok (decide (c.Has (.ofName name))) ∧
      ∀ v, isNone v = true → c.meets? name (.one v) = .ok (!decide (c.Has (.ofName name))) := by
  obtain ⟨has, hhas, hany, hnone⟩ := Condition.exists_matches?_presence hfield
    (.ofTagValue name (c.task.tags.get? name)) c
  have hdecide : decide (c.Has (.ofName name)) = has := by
    rw [Bool.eq_iff_iff, hhas, decide_eq_true_iff]
  rw [hdecide]
  exact ⟨hany, hnone⟩

/-! ## Filters of one field -/

section Rules

variable (hname : IsFieldName name)

include hname

theorem Candidate.passes?_name (hne : name ≠ []) (c : Candidate) :
    c.passes? name = c.meets? name (.one "any".toList) := by
  rw [passes?_rule hne hname.semicolon, FilterRule.ofText_of_not_mem hname.equals,
    FilterRule.matches?_eq, anyOf_singleton, splitNegation_of_not_isNegated hname.plain]
  rcases c.meets? name (.one "any".toList) with fault | _ | _ <;> rfl

theorem Candidate.passes?_marked_name (hmark : mark = '-' ∨ mark = '!') (c : Candidate) :
    c.passes? (mark :: name) = (c.meets? name (.one "any".toList)).map (!·) := by
  rw [passes?_rule (List.cons_ne_nil _ _) (not_mem_mark hmark (.inl rfl) hname.semicolon),
    FilterRule.ofText_of_not_mem (not_mem_mark hmark (.inr rfl) hname.equals),
    FilterRule.matches?_eq, anyOf_singleton, splitNegation_mark hmark]
  simp only [Bool.bne_true]

end Rules

/-- **Presence.** Bare, with the operand `any`, with `none` or `-` and with a mark in front, the
name of a field asks whether the task has the field, and always gets an answer. -/
theorem Candidate.passes?_presence (c : Candidate) (name : Text) (hne : name ≠ [])
    (hplain : isNegated name = false) (hsemicolon : ';' ∉ name) (hequals : '=' ∉ name)
    (hsubject : name ≠ "subj".toList ∧ name ≠ "subject".toList) :
    (∀ s ∈ [name, name ++ "=any".toList], c.passes? s = .ok (decide (c.Has (.ofName name)))) ∧
    ∀ s ∈ [name ++ "=none".toList, name ++ "=-".toList, '-' :: name, '!' :: name],
      c.passes? s = .ok (!decide (c.Has (.ofName name))) := by
  have hname : IsFieldName name := ⟨hsemicolon, hequals, hplain⟩
  obtain ⟨hany, hnone⟩ := c.meets_presence (Field.ofName_ne_subject hsubject.1 hsubject.2)
  have hoperand : ∀ v ∈ ["any".toList, "none".toList, ['-']],
      c.passes? (name ++ '=' :: v) = c.meets? name (.one v) := by
    intro v hv
    -- there is no separator in any of the three
    have hwhole : Text.pieces ',' v = [v] ∧ Text.cut? ['.', '.'] v = none ∧ ';' ∉ v := by
      revert v
      decide
    exact passes?_operand hname hwhole.1 hwhole.2.1 hwhole.2.2 c
  have hmarked : ∀ mark, mark = '-' ∨ mark = '!' →
      c.passes? (mark :: name) = .ok (!decide (c.Has (.ofName name))) := by
    intro mark hmark
    rw [passes?_marked_name hname hmark, hany]
    rfl
  refine ⟨?_, ?_⟩
  · rw [List.forall_mem_cons, List.forall_mem_singleton]
    refine ⟨?_, (hoperand "any".toList (by decide)).trans hany⟩
    rw [passes?_name hname hne, hany]
  · rw [List.forall_mem_cons, List.forall_mem_cons, List.forall_mem_cons,
      List.forall_mem_singleton]
    refine ⟨?_, ?_, hmarked '-' (.inl rfl), hmarked '!' (.inr rfl)⟩
    · exact (hoperand "none".toList (by decide)).trans (hnone _ rfl)
    · exact (hoperand ['-'] (by decide)).trans (hnone _ rfl)

theorem Candidate.passes?_presence_completed :
    let c : Candidate := ⟨Task.parse "x 2020-03-01 pay rent @bank".toList none, 1,
      ⟨2020, 3, 15, by decide⟩, .regex⟩
    (∀ s ∈ ["completed".toList, "completed=any".toList],
      c.passes? s = .ok (decide (c.Has (.ofName "completed".toList)))) ∧
    ∀ s ∈ ["completed=none".toList, "completed=-".toList, "-completed".toList,
        "!completed".toList],
      c.passes? s = .ok (!decide (c.Has (.ofName "completed".toList))) := by
  intro c
  exact Candidate.passes?_presence c "completed".toList (by decide) (by decide) (by decide)
    (by decide) ⟨by decide, by decide⟩

end Agenda
