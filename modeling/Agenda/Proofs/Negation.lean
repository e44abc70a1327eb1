import Agenda.Proofs.Fields

/-!
# Negated operands

An operand with a mark in front, `-` or `!`, asks for the opposite: if the field is there, exactly
one of the two conditions is met, and if it is missing the negated one is not
(`Candidate.meets_mark_of_has`, `Candidate.meets_mark_of_not_has`). Nothing depends on which of the
marks it is.

## Where there is no opposite

A condition on the priority compares two letters. An operand that is no letter is compared with
nothing, so it does not match, and for the same reason it does not match with a mark in front: the
opposite of a comparison that cannot be made is not made either. The reserved operands are no
letters, but they do have opposites.

The operand `none` is asked for before any mark is taken off. Behind a mark it is left to the fields
what becomes of it, and the laws leave it out where it is met by a missing priority or is not the
opposite of `none` for a day.

An operand that is a pattern without an answer has none with a mark either, so the law is an
equation of outcomes, and that there is an answer is said apart.
-/

namespace Agenda

/-- The fields for which a mark in front of an operand means the opposite. -/
def Field.IsNegatable : Field → Prop
  | .id | .priority | .subject | .created | .completed | .tag _ => True
  | _ => False

/-- The fields of which some operands are held against a text as patterns. -/
def Field.TakesPatterns : Field → Prop
  | .subject | .contexts | .projects | .hashtags | .tag _ => True
  | _ => False

/-- The operand can be held against a priority: it is a letter or reserved. -/
def ReadsPriority (v : Text) : Prop :=
  v = "none".toList ∨ v = "any".toList ∨ ∃ wanted, Priority.ofText? v = .ok (some wanted)

variable {v name : Text} {mark : Char} {c : Candidate}

/-! ## Marks -/

section Marks

variable (hmark : mark = '-' ∨ mark = '!')

include hmark

theorem splitNegation_mark (v : Text) : splitNegation (mark :: v) = (true, v) := by
  rcases hmark with rfl | rfl
  · rfl
  · rfl

theorem isAny_mark (v : Text) : isAny (mark :: v) = false := by
  rcases hmark with rfl | rfl
  · rfl
  · rfl

/-- Only a lone minus asks for a missing value, whatever follows the mark. -/
theorem isNone_mark (hne : v ≠ []) : isNone (mark :: v) = false := by
  have hnone : ¬ mark :: v = "none".toList := by
    rcases hmark with rfl | rfl
    · exact fun h ↦ absurd (List.cons.inj h).1 (by decide)
    · exact fun h ↦ absurd (List.cons.inj h).1 (by decide)
  have hminus : ¬ mark :: v = ['-'] := fun h ↦ hne (List.cons.inj h).2
  rw [isNone, beq_false_of_ne hnone, beq_false_of_ne hminus]
  rfl

theorem star_mem_mark (v : Text) : '*' ∈ mark :: v ↔ '*' ∈ v := by
  have hstar : '*' ≠ mark := by
    rcases hmark with rfl | rfl
    · decide
    · decide
  rw [List.mem_cons, or_iff_right hstar]

end Marks

theorem isNegated_cons {c : Char} (hc : (isLatin c || isDigit c) = true) (s : Text) :
    isNegated (c :: s) = false := by
  have hmark : ∀ mark : Char, (isLatin mark || isDigit mark) = false → c ≠ mark := by
    rintro mark hmark rfl
    exact Bool.false_ne_true (hmark.symm.trans hc)
  simp [isNegated, hmark '-' (by decide), hmark '!' (by decide)]

theorem splitNegation_of_not_isNegated (hplain : isNegated v = false) :
    splitNegation v = (false, v) := by
  rw [splitNegation, hplain]
  rfl

theorem isNone_of_not_isNegated (hplain : isNegated v = false) :
    isNone v = (v == "none".toList) := by
  have hminus : v ≠ ['-'] := by
    rintro rfl
    cases hplain
  rw [isNone, beq_false_of_ne hminus, Bool.or_false]

/-! ## Single values -/

theorem map_bne_true {ε : Type} (x : Except ε Bool) :
    x.map (· != true) = (x.map (· != false)).map (!·) := by
  rcases x with _ | _ | _ <;> rfl

theorem map_mapError {ε ε' α β : Type} (f : ε → ε') (g : α → β) (x : Except ε α) :
    (x.map g).mapError f = (x.mapError f).map g := by
  cases x <;> rfl

namespace One

variable (hmark : mark = '-' ∨ mark = '!') (hne : v ≠ [])

include hmark

theorem matchesSubject_mark (hplain : isNegated v = false) (style : PatternStyle)
    (subject : Text) :
    matchesSubject (mark :: v) style subject = (matchesSubject v style subject).map (!·) := by
  rw [matchesSubject, matchesSubject, splitNegation_mark hmark,
    splitNegation_of_not_isNegated hplain]
  dsimp only
  rw [map_bne_true]

include hne

theorem matchesId_mark (hplain : isNegated v = false) (id : Nat) :
    matchesId (mark :: v) id = !matchesId v id := by
  rw [matchesId, matchesId, splitNegation_mark hmark, splitNegation_of_not_isNegated hplain,
    isNone_mark hmark hne, isNone_of_not_isNegated hplain]
  dsimp only
  by_cases hnone : v = "none".toList
  · rw [hnone]
    rfl
  rw [beq_false_of_ne hnone]
  by_cases hany : isAny v = true
  · simp [hany]
  · simp [hany]

/-- With a mark, a day is compared with what follows it, and `none` there counts as equal. -/
theorem matchesDate_mark (base : Date) (date : Option Date) :
    matchesDate (mark :: v) base date =
      date.any fun d ↦ !(isAny v || isOpen v || readDate? base v == some d) := by
  cases date with
  | none => exact isNone_mark hmark hne
  | some d =>
    rw [matchesDate, splitNegation_mark hmark]
    simp [isNone_mark hmark hne, isAny_mark hmark]

theorem matchesTag_mark_none (kind : ValueKind) (c : Candidate) :
    matchesTag (mark :: v) kind c none = .ok false :=
  congrArg _ (isNone_mark hmark hne)

theorem matchesTag_mark (hplain : isNegated v = false) (kind : ValueKind) (c : Candidate)
    (actual : Text) : matchesTag (mark :: v) kind c (some actual) =
      (matchesTag v kind c (some actual)).map (!·) := by
  have hminus : (mark :: v == ['-']) = false :=
    beq_false_of_ne fun h ↦ hne (List.cons.inj h).2
  have hminus' : (v == ['-']) = false := by
    refine beq_false_of_ne ?_
    rintro rfl
    cases hplain
  have hempty : v.isEmpty = false := by
    rw [List.isEmpty_eq_false_iff]
    exact hne
  -- the operand is neither empty nor a lone minus, so the test is the same for both
  simp only [matchesTag, splitNegation_mark hmark, splitNegation_of_not_isNegated hplain,
    star_mem_mark hmark, hminus, hminus', hempty, Bool.false_eq_true, if_false]
  by_cases hnone : v = "none".toList
  · rw [hnone]
    rfl
  rw [beq_false_of_ne hnone]
  by_cases hany : isAny v = true
  · simp [hany, Except.map]
  · simp only [hany, Bool.false_eq_true, if_false]
    rw [map_bne_true]

theorem matchesPriority_mark (priority : Option Priority) :
    matchesPriority (mark :: v) priority =
      if isAny v then .ok false
      else if v == "none".toList then .ok true
      else
        match Priority.ofText? v with
        | .error fault => .error fault
        | .ok wanted =>
          match wanted, priority with
          | some wanted, some actual => .ok (wanted != actual)
          | _, _ => .ok false := by
  rw [matchesPriority, splitNegation_mark hmark, isNone_mark hmark hne, isAny_mark hmark]
  simp only [Bool.false_eq_true, if_false, Bool.not_true, Bool.bne_true]
  rfl

end One

/-! ## Fields that are there -/

namespace One

variable (hmark : mark = '-' ∨ mark = '!') (hne : v ≠ [])

theorem matchesDate_of_ne_none (hne : v ≠ []) (hplain : isNegated v = false)
    (hnone : v ≠ "none".toList) (base d : Date) : matchesDate v base (some d) =
      (isAny v || isOpen v || readDate? base v == some d) := by
  have hopen : isOpen v = false := by
    rw [isOpen, isNone_of_not_isNegated hplain, beq_false_of_ne hnone, Bool.false_or,
      List.isEmpty_eq_false_iff]
    exact hne
  have hempty : v.isEmpty = false := (Bool.or_eq_false_iff.mp hopen).2
  have hasks : isNone v = false := (Bool.or_eq_false_iff.mp hopen).1
  rw [matchesDate, splitNegation_of_not_isNegated hplain]
  simp only [hasks, hempty, hopen, Bool.or_false, Bool.false_eq_true, if_false, Bool.bne_false]
  cases isAny v <;> rfl

theorem matchesPriority_of_not_isNegated (hplain : isNegated v = false)
    (priority : Option Priority) : matchesPriority v priority =
      if v == "none".toList then .ok priority.isNone
      else if isAny v then .ok priority.isSome
      else
        match Priority.ofText? v with
        | .error fault => .error fault
        | .ok wanted =>
          match wanted, priority with
          | some wanted, some actual => .ok (wanted == actual)
          | _, _ => .ok false := by
  rw [matchesPriority, splitNegation_of_not_isNegated hplain, isNone_of_not_isNegated hplain]
  simp only [Bool.not_false, Bool.bne_false]
  by_cases hnone : v = "none".toList
  · rw [hnone]
    rfl
  rw [beq_false_of_ne hnone]
  cases isAny v with
  | true => rfl
  | false => rfl

include hmark hne

theorem exists_matchesPriority_mark (hplain : isNegated v = false) (hreads : ReadsPriority v)
    (actual : Priority) : ∃ answer, matchesPriority v (some actual) = .ok answer ∧
      matchesPriority (mark :: v) (some actual) = .ok !answer := by
  rw [matchesPriority_of_not_isNegated hplain, matchesPriority_mark hmark hne]
  rcases hreads with rfl | rfl | ⟨wanted, hwanted⟩
  · exact ⟨false, rfl, rfl⟩
  · exact ⟨true, rfl, rfl⟩
  · have hnone : v ≠ "none".toList := by
      rintro rfl
      cases hwanted
    have hany : isAny v = false := by
      refine beq_false_of_ne ?_
      rintro rfl
      cases hwanted
    rw [beq_false_of_ne hnone, hany, hwanted]
    exact ⟨wanted == actual, rfl, rfl⟩

/-- An operand that is no letter and not reserved matches no priority, with a mark or without. -/
theorem matchesPriority_of_not_readsPriority (hplain : isNegated v = false)
    (hreads : ¬ ReadsPriority v) (hletter : Priority.ofText? v = .ok none)
    (priority : Option Priority) :
    matchesPriority v priority = .ok false ∧ matchesPriority (mark :: v) priority = .ok false := by
  have hnone : v ≠ "none".toList := fun h ↦ hreads (.inl h)
  have hany : isAny v = false := beq_false_of_ne fun h ↦ hreads (.inr (.inl h))
  rw [matchesPriority_of_not_isNegated hplain, matchesPriority_mark hmark hne,
    beq_false_of_ne hnone, hany, hletter]
  exact ⟨rfl, rfl⟩

theorem matchesPriority_mark_none (hnone : v ≠ "none".toList) (hletter : wideLetter? v = none) :
    matchesPriority (mark :: v) none = .ok false := by
  rw [matchesPriority_mark hmark hne, beq_false_of_ne hnone]
  obtain ⟨wanted, hwanted⟩ := exists_ofText?_of_wideLetter? hletter
  simp [hwanted]

end One

/-! ## All fields -/

theorem Field.takesPatterns_of_pattern? {condition : Condition} {field : Field} {kind : ValueKind}
    {pattern : Text} (h : condition.pattern? field kind c = some pattern) :
    field.TakesPatterns := by
  cases field with
  | subject | contexts | projects | hashtags | tag => trivial
  | id | priority | finished | created | completed => cases condition <;> cases h

variable (hfield : (Field.ofName name).IsNegatable) (hne : v ≠ []) (hplain : isNegated v = false)

include hfield hne

theorem Candidate.meets_bang (hplain : isNegated v = false) :
    c.meets? name (.one ('!' :: v)) = c.meets? name (.one ('-' :: v)) := by
  have hbang : '!' = '-' ∨ '!' = '!' := .inr rfl
  have hminus : '-' = '-' ∨ '-' = '!' := .inl rfl
  rw [meets?, meets?]
  cases hname : Field.ofName name with
  | id =>
    rw [Condition.matches?, Condition.matches?, One.matchesId_mark hbang hne hplain,
      One.matchesId_mark hminus hne hplain]
  | priority =>
    rw [Condition.matches?, Condition.matches?, One.matchesPriority_mark hbang hne,
      One.matchesPriority_mark hminus hne]
  | subject =>
    rw [Condition.matches?, Condition.matches?, One.matchesSubject_mark hbang hplain,
      One.matchesSubject_mark hminus hplain]
  | created | completed =>
    rw [Condition.matches?, Condition.matches?, One.matchesDate_mark hbang hne,
      One.matchesDate_mark hminus hne]
  | tag tag =>
    rw [Condition.matches?, Condition.matches?]
    cases c.task.tags.get? tag with
    | none => rw [One.matchesTag_mark_none hbang hne, One.matchesTag_mark_none hminus hne]
    | some actual =>
      rw [One.matchesTag_mark hbang hne hplain, One.matchesTag_mark hminus hne hplain]
  | finished | contexts | projects | hashtags =>
    rw [hname] at hfield
    exact hfield.elim

/-- If the field is there, a mark in front of an operand means the opposite. -/
theorem Candidate.meets_mark_of_has (hplain : isNegated v = false)
    (hmark : mark = '-' ∨ mark = '!') (h : c.Has (.ofName name))
    (hday : Field.ofName name = .created ∨ Field.ofName name = .completed → v ≠ "none".toList)
    (hpriority : Field.ofName name = .priority → ReadsPriority v) :
    c.meets? name (.one (mark :: v)) = (c.meets? name (.one v)).map (!·) := by
  rw [meets?, meets?]
  -- where a field can be missing, the value that is there is put in its place
  cases hname : Field.ofName name with
  | id => exact congrArg _ (One.matchesId_mark hmark hne hplain c.id)
  | priority =>
    rw [hname] at h
    obtain ⟨actual, hactual⟩ := Option.isSome_iff_exists.mp h
    obtain ⟨answer, hplainly, hmarked⟩ :=
      One.exists_matchesPriority_mark hmark hne hplain (hpriority hname) actual
    rw [Condition.matches?, Condition.matches?, hactual, hplainly, hmarked]
    rfl
  | subject =>
    rw [Condition.matches?, Condition.matches?, One.matchesSubject_mark hmark hplain,
      map_mapError]
  | created =>
    rw [hname] at h
    obtain ⟨d, hd⟩ := Option.isSome_iff_exists.mp h
    rw [Condition.matches?, Condition.matches?, hd, One.matchesDate_mark hmark hne,
      Option.any_some, One.matchesDate_of_ne_none hne hplain (hday (.inl hname))]
    rfl
  | completed =>
    rw [hname] at h
    obtain ⟨d, hd⟩ := Option.isSome_iff_exists.mp h
    rw [Condition.matches?, Condition.matches?, hd, One.matchesDate_mark hmark hne,
      Option.any_some, One.matchesDate_of_ne_none hne hplain (hday (.inr hname))]
    rfl
  | tag tag =>
    rw [hname] at h
    obtain ⟨value, hget⟩ := Option.isSome_iff_exists.mp h
    rw [Condition.matches?, Condition.matches?, hget, One.matchesTag_mark hmark hne hplain,
      map_mapError]
  | finished | contexts | projects | hashtags =>
    rw [hname] at hfield
    exact hfield.elim

theorem Candidate.meets_mark_of_not_has (hmark : mark = '-' ∨ mark = '!')
    (h : ¬ c.Has (.ofName name))
    (hpriority : Field.ofName name = .priority → v ≠ "none".toList ∧ wideLetter? v = none) :
    c.meets? name (.one (mark :: v)) = .ok false := by
  rw [meets?]
  cases hname : Field.ofName name with
  | id | subject =>
    rw [hname] at h
    exact absurd trivial h
  | priority =>
    rw [hname] at h
    obtain ⟨hnone, hletter⟩ := hpriority hname
    rw [Condition.matches?, Option.not_isSome_iff_eq_none.mp h,
      One.matchesPriority_mark_none hmark hne hnone hletter]
    rfl
  | created | completed =>
    rw [hname] at h
    rw [Condition.matches?, Option.not_isSome_iff_eq_none.mp h, One.matchesDate_mark hmark hne]
    rfl
  | tag tag =>
    rw [hname] at h
    rw [Condition.matches?, Option.not_isSome_iff_eq_none.mp h,
      One.matchesTag_mark_none hmark hne]
    rfl
  | finished | contexts | projects | hashtags =>
    rw [hname] at hfield
    exact hfield.elim

omit hfield hne

theorem Candidate.exists_meets_of_has (hne : v ≠ []) (hplain : isNegated v = false)
    (h : c.Has (.ofName name)) (hpriority : Field.ofName name = .priority → ReadsPriority v)
    (hpattern : (Field.ofName name).TakesPatterns → c.style.fault? v = none) :
    ∃ answer, c.meets? name (.one v) = .ok answer := by
  rw [meets?]
  by_cases hname : Field.ofName name = .priority
  · rw [hname] at h
    obtain ⟨actual, hactual⟩ := Option.isSome_iff_exists.mp h
    obtain ⟨answer, hanswer, -⟩ :=
      One.exists_matchesPriority_mark (.inl rfl) hne hplain (hpriority hname) actual
    rw [hname, Condition.matches?, hactual, hanswer]
    exact ⟨answer, rfl⟩
  · rw [← failure?_eq_none_iff, failure?_condition_pattern _ _ _ hname, Option.map_eq_none_iff,
      Option.bind_eq_none_iff]
    intro pattern hholds
    obtain ⟨operand, hone, rfl⟩ := Condition.eq_one_of_pattern? hholds
    cases hone
    rw [splitNegation_of_not_isNegated hplain]
    exact hpattern (Field.takesPatterns_of_pattern? hholds)

/-- What cannot be held against a priority is not matched, with a mark or without. -/
theorem Candidate.meets_of_not_readsPriority (hne : v ≠ []) (hplain : isNegated v = false)
    (hmark : mark = '-' ∨ mark = '!') (hname : Field.ofName name = .priority)
    (hreads : ¬ ReadsPriority v) (hletter : wideLetter? v = none) :
    c.meets? name (.one v) = .ok false ∧ c.meets? name (.one (mark :: v)) = .ok false := by
  obtain ⟨wanted, hwanted⟩ := exists_ofText?_of_wideLetter? hletter
  have hnone : wanted = none := by
    rw [← Option.not_isSome_iff_eq_none, Option.isSome_iff_exists]
    rintro ⟨p, rfl⟩
    exact hreads (.inr (.inr ⟨p, hwanted⟩))
  rw [hnone] at hwanted
  obtain ⟨hplainly, hmarked⟩ :=
    One.matchesPriority_of_not_readsPriority hmark hne hplain hreads hwanted c.task.priority
  rw [meets?, meets?, hname, Condition.matches?, Condition.matches?, hplainly, hmarked]
  exact ⟨rfl, rfl⟩

/-- **Negated operands.** A mark in front of an operand makes the opposite condition of it where the
field is there, and one that is not met where it is missing; both marks are the same. There is an
answer unless the operand has none as a pattern. An operand that cannot be held against a priority
has no opposite. -/
theorem Candidate.meets_negated (c : Candidate) (name v : Text)
    (hfield : (Field.ofName name).IsNegatable) (hne : v ≠ []) (hplain : isNegated v = false) :
    c.meets? name (.one ('!' :: v)) = c.meets? name (.one ('-' :: v)) ∧
    (c.Has (.ofName name) →
      (Field.ofName name = .created ∨ Field.ofName name = .completed → v ≠ "none".toList) →
      (Field.ofName name = .priority → ReadsPriority v) →
      c.meets? name (.one ('-' :: v)) = (c.meets? name (.one v)).map (!·) ∧
        (((Field.ofName name).TakesPatterns → c.style.fault? v = none) →
          ∃ answer, c.meets? name (.one v) = .ok answer)) ∧
    (Field.ofName name = .priority → ¬ ReadsPriority v → wideLetter? v = none →
      c.meets? name (.one v) = .ok false ∧ c.meets? name (.one ('-' :: v)) = .ok false) ∧
    (¬ c.Has (.ofName name) →
      (Field.ofName name = .priority → v ≠ "none".toList ∧ wideLetter? v = none) →
      c.meets? name (.one ('-' :: v)) = .ok false) := by
  have hminus : '-' = '-' ∨ '-' = '!' := .inl rfl
  refine ⟨meets_bang hfield hne hplain, ?_, ?_, ?_⟩
  · exact fun h hday hpriority ↦
      ⟨meets_mark_of_has hfield hne hplain hminus h hday hpriority,
        exists_meets_of_has hne hplain h hpriority⟩
  · exact fun hname hreads hletter ↦
      meets_of_not_readsPriority hne hplain hminus hname hreads hletter
  · exact fun h hpriority ↦ meets_mark_of_not_has hfield hne hminus h hpriority

theorem Candidate.meets_negated_due :
    ∃ answer,
      Candidate.meets? ⟨Task.parse "(B) pay rent due:2020-03-20".toList none, 1,
        ⟨2020, 3, 15, by decide⟩, .wildcard⟩ "due".toList (.one "fri".toList) = .ok answer ∧
      Candidate.meets? ⟨Task.parse "(B) pay rent due:2020-03-20".toList none, 1,
        ⟨2020, 3, 15, by decide⟩, .wildcard⟩ "due".toList (.one "-fri".toList) = .ok !answer := by
  have hname : Field.ofName "due".toList = .tag "due".toList := by decide
  have hget : ((Task.parse "(B) pay rent due:2020-03-20".toList none).tags.get?
      "due".toList).isSome = true := by decide
  have hopposite := (Candidate.meets_negated ⟨Task.parse "(B) pay rent due:2020-03-20".toList none,
    1, ⟨2020, 3, 15, by decide⟩, .wildcard⟩ "due".toList "fri".toList
      (by rw [hname]; trivial) (by decide) (by decide)).2.1
  rw [hname] at hopposite
  obtain ⟨hmap, hanswer⟩ := hopposite hget (by rintro (h | h) <;> cases h) (by rintro ⟨⟩)
  obtain ⟨answer, hplain⟩ := hanswer fun _ ↦ rfl
  exact ⟨answer, hplain, hmap.trans (congrArg (Except.map (!·)) hplain)⟩

/-- A figure has no opposite as a priority: it matches none, and neither does it with a mark. -/
theorem Candidate.not_forall_matches_negated :
    ¬ ∀ (c : Candidate) (name v : Text), (Field.ofName name).IsNegatable → v ≠ [] →
      isNegated v = false → c.Has (.ofName name) →
      (c.Matches name (.one ('-' :: v)) ↔ ¬ c.Matches name (.one v)) := by
  intro h
  have hname : Field.ofName "pri".toList = .priority := by decide
  have hreads : ¬ ReadsPriority "5".toList := by
    rintro (hv | hv | ⟨wanted, hv⟩)
    · revert hv
      decide
    · revert hv
      decide
    · cases hv
  let c : Candidate :=
    ⟨Task.parse "(A) pay".toList none, 1, ⟨2020, 3, 15, by decide⟩, .wildcard⟩
  have hhas : (Task.parse "(A) pay".toList none).priority.isSome = true := by decide
  have hiff := h c "pri".toList "5".toList (by rw [hname]; trivial) (by decide) (by decide)
    (by rw [hname]; exact hhas)
  obtain ⟨hplain, hnegated⟩ := Candidate.meets_of_not_readsPriority (c := c)
    (by decide) (by decide) (.inl rfl) hname hreads (by decide)
  rw [Candidate.Matches, Candidate.Matches, hplain, hnegated] at hiff
  simp at hiff

end Agenda
