import Agenda.Filter.Match
import Agenda.Proofs.HugeCounts
import Mathlib.Logic.Basic

/-!
# The ways for a filter to fail

Whatever a filter compares, an operand that makes no sense there is one that does not match. There
are two exceptions. A priority is read off the capital form of a letter, and a few letters have a
capital form of several characters of which the first is one of A to Z, such as the sharp s. Where
such a letter stands alone as the operand of a priority, matching fails. And where operands are
regular expressions, one with a count that is too large fails for every text that it is held
against.

The task has a say in both. Rules and conditions are tried from left to right and no further than
needed, and a regular expression is read only if the field has a text to hold against it
(`Condition.pattern?`). So matching fails if and only if a condition is reached that fails
(`Condition.Fails`, `Filter.Reaches`), and a filter without such letters and counts never does.
-/

namespace Agenda

/-! ## Conditions that fail -/

/-- The code points of the letters whose capital form is several characters, the first of them one
of A to Z. -/
def wideLetterCodes : List Nat := [0xDF, 0x1F0, 0x1E96, 0x1E97, 0x1E98, 0x1E99, 0x1E9A, 0xFB00,
  0xFB01, 0xFB02, 0xFB03, 0xFB04, 0xFB05, 0xFB06]

/-- The letter that an operand consists of, if it has no single capital. -/
def wideLetter? : Text → Option Char
  | [c] => if c.toNat ∈ wideLetterCodes then some c else none
  | _ => none

/-- The letter for which a condition on the priority fails: in a range the lower end comes first. -/
def Condition.wideLetter? : Condition → Option Char
  | one operand => Agenda.wideLetter? (splitNegation operand).2
  | range low high => (Agenda.wideLetter? low).or (Agenda.wideLetter? high)

/-- The pattern that an operand is for a list of words, unless there is nothing to hold it against.
-/
def One.listPattern? (operand : Text) (values : List Text) : Option Text :=
  if isNone operand || isAny operand || values.isEmpty then none
  else some (splitNegation operand).2

/-- The pattern that an operand is for the value of a tag: none if the tag is missing, if the
operand is empty or reserved behind its mark, or if values of the kind are not held against
patterns. -/
def One.tagPattern? (operand : Text) (kind : ValueKind) : Option Text → Option Text
  | none => none
  | some _ =>
    let pattern := (splitNegation operand).2
    if pattern.isEmpty || isAny pattern || pattern == "none".toList then none
    else if '*' ∈ operand ∨ kind = .text ∨ kind = .unknown then some pattern
    else none

/-- The pattern that a condition on a field holds against a text of the candidate, if it does. -/
def Condition.pattern? (condition : Condition) (field : Field) (kind : ValueKind)
    (c : Candidate) : Option Text :=
  match condition, field with
  | .one operand, .subject => some (splitNegation operand).2
  | .one operand, .contexts => One.listPattern? operand c.task.contexts
  | .one operand, .projects => One.listPattern? operand c.task.projects
  | .one operand, .hashtags => One.listPattern? operand c.task.hashtags
  | .one operand, .tag name => One.tagPattern? operand kind (c.task.tags.get? name)
  | _, _ => none

/-- Held against a field of a candidate, a condition fails: for a letter that has no single capital
if the field is the priority, and for a count that is too large if it holds a regular expression
against a text. -/
def Condition.Fails (condition : Condition) (field : Field) (kind : ValueKind) (c : Candidate) :
    OperandFault → Prop
  | .priority (.wideCapital letter) => field = .priority ∧ condition.wideLetter? = some letter
  | .pattern (.hugeCount count) => c.style = .regex ∧
    ∃ pattern, condition.pattern? field kind c = some pattern ∧
      Regex.ofText? pattern = .error (.hugeCount count)

/-- Held against a candidate, a rule comes to a condition that fails. -/
def FilterRule.Reaches (rule : FilterRule) (c : Candidate) (fault : OperandFault) : Prop :=
  let name := (splitNegation rule.tag).2
  let kind := ValueKind.ofTagValue name (c.task.tags.get? name)
  ∃ earlier condition later, rule.conditions = earlier ++ condition :: later ∧
    (∀ other ∈ earlier, other.matches? (.ofName name) kind c = .ok false) ∧
      condition.Fails (.ofName name) kind c fault

/-- Held against a candidate, a filter comes to a condition that fails. -/
def Filter.Reaches (f : Filter) (c : Candidate) (fault : OperandFault) : Prop :=
  ∃ earlier rule later, f.rules = earlier ++ rule :: later ∧
    (∀ other ∈ earlier, other.matches? c = .ok true) ∧ rule.Reaches c fault

variable {s operand low high text pattern : Text} {letter : Char} {fault : OperandFault}

/-! ## Letters -/

theorem mem_wideLetterCodes_iff {c : Char} :
    c.toNat ∈ wideLetterCodes ↔ ∃ capital, latinCapital? c = some (capital, false) := by
  constructor
  · intro hmem
    -- all the codes lie behind z, so the two plain alphabets have none of them
    have hbig : ∀ n ∈ wideLetterCodes, 0x7A < n := by decide
    have hle : ∀ d : Char, d.toNat ≤ 0x7A → ¬ c ≤ d := by
      intro d hd hcd
      have hcd : c.toNat ≤ d.toNat := hcd
      have := hbig _ hmem
      omega
    have hz : ¬ c ≤ 'z' := hle 'z' (by decide)
    have hZ : ¬ c ≤ 'Z' := hle 'Z' (by decide)
    rw [latinCapital?, if_neg (by simp [hz]), if_neg (by simp [hZ])]
    simp only [wideLetterCodes, List.mem_cons, List.not_mem_nil, or_false] at hmem
    rcases hmem with h | h | h | h | h | h | h | h | h | h | h | h | h | h <;> simp [h]
  · rintro ⟨capital, h⟩
    rw [latinCapital?] at h
    split at h
    · cases h
    · split at h
      · cases h
      · split at h <;> simp_all [wideLetterCodes]

theorem wideLetter?_eq_some_iff :
    wideLetter? s = some letter ↔ s = [letter] ∧ letter.toNat ∈ wideLetterCodes := by
  rw [wideLetter?.eq_def]
  constructor
  · intro h
    split at h
    · split at h
      · next hmem =>
        cases h
        exact ⟨rfl, hmem⟩
      · cases h
    · cases h
  · rintro ⟨rfl, hmem⟩
    exact if_pos hmem

/-! ## Failures -/

/-- What a computation fails with, if it does. -/
def failure? {ε α : Type} : Except ε α → Option ε
  | .error error => some error
  | .ok _ => none

theorem failure?_eq_some_iff {ε α : Type} {x : Except ε α} {error : ε} :
    failure? x = some error ↔ x = .error error := by
  cases x with
  | error error' => simp [failure?]
  | ok a => simp [failure?]

theorem failure?_eq_none_iff {ε α : Type} {x : Except ε α} :
    failure? x = none ↔ ∃ a, x = .ok a := by
  cases x with
  | error error => simp [failure?]
  | ok a => simp [failure?]

theorem failure?_map {ε α β : Type} (f : α → β) (x : Except ε α) :
    failure? (x.map f) = failure? x := by
  cases x <;> rfl

theorem mapError_eq_ok_iff {ε ε' α : Type} {f : ε → ε'} {x : Except ε α} {a : α} :
    x.mapError f = .ok a ↔ x = .ok a := by
  cases x <;> simp [Except.mapError]

theorem failure?_mapError {ε ε' α : Type} (f : ε → ε') (x : Except ε α) :
    failure? (x.mapError f) = (failure? x).map f := by
  cases x <;> rfl

theorem failure?_ofText? (s : Text) :
    failure? (Priority.ofText? s) = (wideLetter? s).map .wideCapital := by
  rw [Priority.ofText?.eq_def]
  split
  · next c =>
    rw [wideLetter?]
    by_cases hmem : c.toNat ∈ wideLetterCodes
    · obtain ⟨capital, h⟩ := mem_wideLetterCodes_iff.mp hmem
      rw [if_pos hmem, h]
      rfl
    · rw [if_neg hmem]
      split
      · rfl
      · next capital h => exact absurd (mem_wideLetterCodes_iff.mpr ⟨capital, h⟩) hmem
      · rfl
  · next hne =>
    rw [wideLetter?.eq_def]
    split
    · next c => exact absurd rfl (hne c)
    · rfl

theorem exists_ofText?_of_wideLetter? (h : wideLetter? s = none) :
    ∃ wanted, Priority.ofText? s = .ok wanted := by
  rw [← failure?_eq_none_iff, failure?_ofText?, h]
  rfl

/-! ## Operands -/

theorem failure?_ofText?_of_isOpen (h : isOpen s = true) :
    failure? (Priority.ofText? s) = none := by
  rw [isOpen, isNone, Bool.or_eq_true, Bool.or_eq_true, beq_iff_eq, beq_iff_eq,
    List.isEmpty_iff] at h
  rcases h with (rfl | rfl) | rfl <;> decide

theorem wideLetter?_of_reserved (h : isNone s = true ∨ isAny s = true) :
    wideLetter? (splitNegation s).2 = none := by
  rw [isNone, isAny, Bool.or_eq_true, beq_iff_eq, beq_iff_eq, beq_iff_eq] at h
  rcases h with (rfl | rfl) | rfl <;> decide

theorem failure?_matchesPriority_one (operand : Text) (priority : Option Priority) :
    failure? (One.matchesPriority operand priority) =
      (wideLetter? (splitNegation operand).2).map .wideCapital := by
  rw [One.matchesPriority]
  dsimp only
  split
  · next h =>
    rw [wideLetter?_of_reserved (.inl h)]
    rfl
  · split
    · next h =>
      rw [wideLetter?_of_reserved (.inr h)]
      rfl
    · split
      · next h =>
        rw [isAny, beq_iff_eq] at h
        rw [h]
        rfl
      · split
        · next h =>
          rw [beq_iff_eq] at h
          rw [h]
          rfl
        -- what is left is no reserved operand, so it is read as a letter
        · rw [← failure?_ofText?]
          cases Priority.ofText? (splitNegation operand).2 with
          | error fault => rfl
          | ok wanted => cases wanted <;> cases priority <;> rfl

theorem failure?_matchesPriority_range (low high : Text) (priority : Option Priority) :
    failure? (Range.matchesPriority low high priority) =
      ((wideLetter? low).or (wideLetter? high)).map .wideCapital := by
  rw [Option.map_or, ← failure?_ofText?, ← failure?_ofText?, Range.matchesPriority]
  dsimp only
  split
  · next h =>
    rw [Bool.and_eq_true] at h
    rw [failure?_ofText?_of_isOpen (by rw [isOpen, h.1]; rfl),
      failure?_ofText?_of_isOpen (by rw [isOpen, h.2]; rfl)]
    rfl
  · split
    · next h =>
      rw [Bool.and_eq_true, List.isEmpty_iff, List.isEmpty_iff] at h
      rw [h.1, h.2]
      rfl
    · split
      · next h =>
        rw [failure?_ofText?_of_isOpen h, Option.none_or]
        cases Priority.ofText? high <;> rfl
      · split
        · next h =>
          rw [failure?_ofText?_of_isOpen h, Option.or_none]
          cases Priority.ofText? low <;> rfl
        · cases Priority.ofText? low <;> cases Priority.ofText? high <;> rfl

/-! ## Patterns -/

/-- Why a pattern has no answer, whatever text it is held against. -/
def PatternStyle.fault? (style : PatternStyle) (pattern : Text) : Option PatternFault :=
  match style with
  | wildcard => none
  | regex =>
    match Regex.ofText? pattern with
    | .error (.hugeCount count) => some (.hugeCount count)
    | _ => none

theorem PatternStyle.fault?_eq_some_iff {style : PatternStyle} {count : Nat} :
    style.fault? pattern = some (.hugeCount count) ↔
      style = .regex ∧ Regex.ofText? pattern = .error (.hugeCount count) := by
  cases style with
  | wildcard => simp [fault?]
  | regex =>
    rw [fault?]
    rcases Regex.ofText? pattern with (_ | count') | r <;> simp

theorem PatternStyle.failure?_matches? (style : PatternStyle) (pattern s : Text) :
    failure? (style.matches? pattern s) = style.fault? pattern := by
  cases style with
  | wildcard => rfl
  | regex =>
    rw [matches?, fault?]
    rcases Regex.ofText? pattern with (_ | count) | r <;> rfl

/-- Tests that all fail for the same reason, or not at all, fail so together. -/
theorem failure?_allOf {ε α : Type} {test : α → Except ε Bool} {as : List α} {failure : Option ε}
    (h : ∀ a ∈ as, failure? (test a) = failure) (hne : as ≠ []) :
    failure? (allOf test as) = failure := by
  induction as with
  | nil => exact absurd rfl hne
  | cons a as ih =>
    obtain ⟨ha, has⟩ := List.forall_mem_cons.mp h
    rw [allOf]
    split
    · next htrue =>
      cases as with
      | nil =>
        rw [htrue] at ha
        exact ha
      | cons b as => exact ih has (List.cons_ne_nil b as)
    · exact ha

theorem One.failure?_matchesSubject (operand : Text) (style : PatternStyle) (subject : Text) :
    failure? (matchesSubject operand style subject) =
      style.fault? (splitNegation operand).2 := by
  rw [matchesSubject]
  dsimp only
  rw [failure?_map, PatternStyle.failure?_matches?]
  cases style <;> rfl

theorem One.failure?_matchesList (operand : Text) (style : PatternStyle) (values : List Text) :
    failure? (matchesList operand style values) =
      (listPattern? operand values).bind style.fault? := by
  rw [matchesList, listPattern?]
  dsimp only
  by_cases hnone : isNone operand = true
  · simp [hnone, failure?]
  by_cases hany : isAny operand = true
  · simp [hnone, hany, failure?]
  by_cases hempty : values.isEmpty = true
  · simp [hnone, hany, hempty, failure?]
  · simp only [hnone, hany, hempty, Bool.or_false, Bool.false_eq_true, if_false, Option.bind_some]
    refine failure?_allOf (fun value _ ↦ ?_) (mt List.isEmpty_iff.mpr hempty)
    rw [failure?_map, PatternStyle.failure?_matches?]

theorem failure?_valuesEqual (kind : ValueKind) (base : Date) (style : PatternStyle)
    (value operand : Text) : failure? (valuesEqual kind base style value operand) =
      if kind = .text ∨ kind = .unknown then style.fault? operand else none := by
  unfold valuesEqual
  split
  · rfl
  · exact PatternStyle.failure?_matches? style operand value
  · exact PatternStyle.failure?_matches? style operand value
  · next htext hunknown =>
    rw [if_neg (not_or.mpr ⟨htext, hunknown⟩)]
    split <;> rfl

theorem One.failure?_matchesTag (operand : Text) (kind : ValueKind) (c : Candidate)
    (value : Option Text) : failure? (matchesTag operand kind c value) =
      (tagPattern? operand kind value).bind c.style.fault? := by
  cases value with
  | none => rfl
  | some actual =>
    rw [matchesTag]
    dsimp only
    -- a reserved operand is answered before any pattern is looked at
    by_cases hreserved : ((splitNegation operand).2.isEmpty || isAny (splitNegation operand).2 ||
        (splitNegation operand).2 == "none".toList) = true
    · have hpattern : tagPattern? operand kind (some actual) = none := if_pos hreserved
      rw [hpattern]
      split
      · rfl
      split
      · rfl
      split
      · rfl
      split
      · rfl
      · simp_all
    · have hpattern : tagPattern? operand kind (some actual) =
          if '*' ∈ operand ∨ kind = .text ∨ kind = .unknown then some (splitNegation operand).2
          else none := if_neg hreserved
      simp only [Bool.or_eq_true, not_or] at hreserved
      obtain ⟨⟨hempty, hany⟩, hnone⟩ := hreserved
      have hminus : ¬ (operand == ['-']) = true := by
        rw [beq_iff_eq]
        rintro rfl
        exact hempty rfl
      rw [if_neg hminus, if_neg hempty, if_neg hany, if_neg hnone, hpattern, failure?_map,
        failure?_valuesEqual]
      by_cases hstar : '*' ∈ operand
      · simp [hstar]
      · simp only [hstar, if_false, false_or]
        split <;> rfl

/-! ## Conditions, rules and filters -/

theorem failure?_condition_priority (condition : Condition) (kind : ValueKind) (c : Candidate) :
    failure? (condition.matches? .priority kind c) =
      condition.wideLetter?.map fun letter ↦ .priority (.wideCapital letter) := by
  cases condition with
  | one operand =>
    rw [Condition.matches?, failure?_mapError, failure?_matchesPriority_one, Option.map_map]
    rfl
  | range low high =>
    rw [Condition.matches?, failure?_mapError, failure?_matchesPriority_range, Option.map_map]
    rfl

theorem failure?_condition_pattern (condition : Condition) {field : Field} (kind : ValueKind)
    (c : Candidate) (hfield : field ≠ .priority) : failure? (condition.matches? field kind c) =
      ((condition.pattern? field kind c).bind c.style.fault?).map .pattern := by
  cases condition with
  | range low high =>
    cases field with
    | priority => exact absurd rfl hfield
    | _ => rfl
  | one operand =>
    cases field with
    | priority => exact absurd rfl hfield
    | subject =>
      rw [Condition.matches?, failure?_mapError, One.failure?_matchesSubject]
      rfl
    | contexts | projects | hashtags =>
      rw [Condition.matches?, failure?_mapError, One.failure?_matchesList]
      rfl
    | tag name =>
      rw [Condition.matches?, failure?_mapError, One.failure?_matchesTag]
      rfl
    | id | finished | created | completed => rfl

theorem Condition.pattern?_priority (condition : Condition) (kind : ValueKind) (c : Candidate) :
    condition.pattern? .priority kind c = none := by
  cases condition <;> rfl

theorem Condition.matches?_eq_error_iff {condition : Condition} {field : Field} {kind : ValueKind}
    {c : Candidate} : condition.matches? field kind c = .error fault ↔
      condition.Fails field kind c fault := by
  rw [← failure?_eq_some_iff]
  by_cases hfield : field = .priority
  · subst hfield
    rw [failure?_condition_priority, Option.map_eq_some_iff]
    rcases fault with ⟨⟨letter⟩⟩ | ⟨⟨count⟩⟩
    · simp [Fails]
    · simp [Fails, pattern?_priority]
  · rw [failure?_condition_pattern condition kind c hfield, Option.map_eq_some_iff]
    rcases fault with ⟨⟨letter⟩⟩ | ⟨⟨count⟩⟩
    · simp [Fails, hfield]
    · simp only [OperandFault.pattern.injEq, exists_eq_right, Option.bind_eq_some_iff,
        PatternStyle.fault?_eq_some_iff, Fails]
      exact ⟨fun ⟨pattern, hpattern, hstyle, hread⟩ ↦ ⟨hstyle, pattern, hpattern, hread⟩,
        fun ⟨hstyle, pattern, hpattern, hread⟩ ↦ ⟨pattern, hpattern, hstyle, hread⟩⟩

section Order

variable {ε α : Type} {test : α → Except ε Bool} {as : List α} {error : ε}

/-- A test fails in turn if no test before it decides the matter. -/
theorem anyOf_eq_error_iff : anyOf test as = .error error ↔ ∃ earlier a later,
    as = earlier ++ a :: later ∧ (∀ b ∈ earlier, test b = .ok false) ∧
      test a = .error error := by
  induction as with
  | nil => simp [anyOf]
  | cons a as ih =>
    rw [anyOf]
    constructor
    · intro h
      split at h
      · next ha =>
        obtain ⟨earlier, b, later, rfl, hearlier, hb⟩ := ih.mp h
        exact ⟨a :: earlier, b, later, rfl, List.forall_mem_cons.mpr ⟨ha, hearlier⟩, hb⟩
      · exact ⟨[], a, as, rfl, by simp, h⟩
    · rintro ⟨earlier, b, later, hsplit, hearlier, hb⟩
      cases earlier with
      | nil =>
        obtain ⟨rfl, rfl⟩ := List.cons.inj hsplit
        rw [hb]
      | cons a' earlier =>
        obtain ⟨rfl, rfl⟩ := List.cons.inj hsplit
        obtain ⟨ha, hearlier⟩ := List.forall_mem_cons.mp hearlier
        rw [ha]
        exact ih.mpr ⟨earlier, b, later, rfl, hearlier, hb⟩

/-- That all tests succeed is that none is refuted. -/
theorem allOf_eq_anyOf (test : α → Except ε Bool) (as : List α) :
    allOf test as = (anyOf (fun a ↦ (test a).map (!·)) as).map (!·) := by
  induction as with
  | nil => rfl
  | cons a as ih =>
    rw [allOf, anyOf]
    rcases test a with error | _ | _
    · rfl
    · rfl
    · exact ih

theorem allOf_eq_error_iff : allOf test as = .error error ↔ ∃ earlier a later,
    as = earlier ++ a :: later ∧ (∀ b ∈ earlier, test b = .ok true) ∧
      test a = .error error := by
  have hmap : ∀ x : Except ε Bool, x.map (!·) = .error error ↔ x = .error error := by
    intro x
    rw [← failure?_eq_some_iff, failure?_map, failure?_eq_some_iff]
  have htrue : ∀ x : Except ε Bool, x.map (!·) = .ok false ↔ x = .ok true := by
    rintro (_ | _ | _) <;> simp [Except.map]
  -- the first test that fails is the first one whose opposite fails
  rw [allOf_eq_anyOf, hmap, anyOf_eq_error_iff]
  simp only [hmap, htrue]

end Order

theorem FilterRule.matches?_eq_error_iff {rule : FilterRule} {c : Candidate} :
    rule.matches? c = .error fault ↔ rule.Reaches c fault := by
  rw [FilterRule.matches?, ← failure?_eq_some_iff, failure?_map, failure?_eq_some_iff,
    anyOf_eq_error_iff]
  simp only [Condition.matches?_eq_error_iff]
  rfl

theorem Filter.matches?_eq_error_iff {f : Filter} {task : Task} {id : Nat} {base : Date} :
    f.matches? task id base = .error fault ↔ f.Reaches ⟨task, id, base, f.style⟩ fault := by
  rw [Filter.matches?, allOf_eq_error_iff]
  simp only [FilterRule.matches?_eq_error_iff]
  rfl

/-! ## The operands of a text -/

theorem Text.infix_join {sep piece : Text} {pieces : List Text} (h : piece ∈ pieces) :
    piece <:+: join sep pieces := by
  induction pieces with
  | nil => cases h
  | cons first pieces ih =>
    cases pieces with
    | nil => exact List.mem_singleton.mp h ▸ List.infix_refl first
    | cons next pieces =>
      rw [join]
      rcases List.mem_cons.mp h with rfl | h
      · rw [List.append_assoc]
        exact (List.prefix_append _ _).isInfix
      · exact (ih h).trans (List.suffix_append _ _).isInfix

theorem Text.infix_of_mem_splitOn {sep : Char} {piece : Text} (h : piece ∈ splitOn sep s) :
    piece <:+: s := by
  have hjoin : piece <:+: join [sep] (splitOn sep s) := infix_join h
  rw [join_splitOn] at hjoin
  exact hjoin

theorem splitNegation_suffix (s : Text) : (splitNegation s).2 <:+ s := by
  rw [splitNegation]
  split
  · exact List.drop_suffix 1 s
  · exact List.suffix_refl s

theorem FilterRule.infix_of_mem_conditions {condition : Condition}
    (h : condition ∈ (FilterRule.ofText s).conditions) :
    condition = .one "any".toList ∨ ∃ u, u <:+: s ∧ condition = .ofText u := by
  rw [FilterRule.ofText] at h
  split at h
  · next tag values hcut =>
    obtain ⟨piece, hpiece, rfl⟩ := List.mem_map.mp h
    have hvalues : values <:+: s := by
      rw [Text.eq_of_cut? hcut]
      exact (List.suffix_append _ _).isInfix
    exact .inr ⟨piece, (Text.infix_of_mem_splitOn (List.mem_filter.mp hpiece).1).trans hvalues, rfl⟩
  · exact .inl (List.mem_singleton.mp h)

theorem Condition.mem_of_wideLetter? (h : (Condition.ofText s).wideLetter? = some letter) :
    letter ∈ s ∧ letter.toNat ∈ wideLetterCodes := by
  rw [Condition.ofText] at h
  split at h
  · next low high hcut =>
    have hs := Text.eq_of_cut? hcut
    rw [Condition.wideLetter?, Option.or_eq_some_iff] at h
    rcases h with h | ⟨-, h⟩
    · obtain ⟨rfl, hmem⟩ := wideLetter?_eq_some_iff.mp h
      exact ⟨by simp [hs], hmem⟩
    · obtain ⟨rfl, hmem⟩ := wideLetter?_eq_some_iff.mp h
      exact ⟨by simp [hs], hmem⟩
  · obtain ⟨hvalue, hmem⟩ := wideLetter?_eq_some_iff.mp h
    exact ⟨(splitNegation_suffix s).subset (by rw [hvalue]; exact List.mem_cons_self), hmem⟩

theorem Condition.eq_one_of_pattern? {condition : Condition} {field : Field} {kind : ValueKind}
    {c : Candidate} (h : condition.pattern? field kind c = some pattern) :
    ∃ operand, condition = .one operand ∧ pattern = (splitNegation operand).2 := by
  cases condition with
  | range low high => cases h
  | one operand =>
    have hlist : ∀ {values : List Text}, One.listPattern? operand values = some pattern →
        pattern = (splitNegation operand).2 := by
      intro values h
      rw [One.listPattern?] at h
      split at h <;> cases h
      rfl
    cases field with
    | subject =>
      cases h
      exact ⟨operand, rfl, rfl⟩
    | contexts | projects | hashtags => exact ⟨operand, rfl, hlist h⟩
    | tag name =>
      refine ⟨operand, rfl, ?_⟩
      rw [Condition.pattern?] at h
      cases hvalue : c.task.tags.get? name with
      | none =>
        rw [hvalue] at h
        cases h
      | some value =>
        rw [hvalue, One.tagPattern?] at h
        split at h
        · cases h
        · split at h <;> cases h
          rfl
    | id | priority | finished | created | completed => cases h

theorem Condition.mem_statedCounts {field : Field} {kind : ValueKind} {c : Candidate} {count : Nat}
    (h : (Condition.ofText s).Fails field kind c (.pattern (.hugeCount count))) :
    count ∈ statedCounts s ∧ Regex.countLimit ≤ count := by
  obtain ⟨-, pattern, hpattern, hread⟩ := h
  obtain ⟨operand, hone, rfl⟩ := Condition.eq_one_of_pattern? hpattern
  obtain ⟨hlimit, hmem⟩ := Regex.hugeCount_mem_statedCounts hread
  rw [Condition.ofText] at hone
  split at hone <;> cases hone
  exact ⟨statedCounts_subset_of_suffix (splitNegation_suffix s) hmem, hlimit⟩

theorem Condition.not_fails_any {field : Field} {kind : ValueKind} {c : Candidate} :
    ¬ Condition.Fails (.one "any".toList) field kind c fault := by
  intro h
  rcases fault with ⟨⟨letter⟩⟩ | ⟨⟨count⟩⟩
  · cases h.2
  -- the text of the condition states no count
  · have hone : Condition.ofText "any".toList = .one "any".toList := by decide
    rw [← hone] at h
    cases (Condition.mem_statedCounts h).1

/-- A filter that a text states fails only for a letter or a count that stands in the text. -/
theorem Filter.stated_of_reaches {c : Candidate}
    (h : (Filter.ofText text c.style).Reaches c fault) :
    (∃ letter ∈ text, letter.toNat ∈ wideLetterCodes) ∨
      c.style = .regex ∧ ∃ count ∈ statedCounts text, Regex.countLimit ≤ count := by
  obtain ⟨_, rule, _, hrules, -, _, condition, _, hconditions, -, hfails⟩ := h
  have hrule : rule ∈ (Filter.ofText text c.style).rules := by simp [hrules]
  obtain ⟨piece, hpiece, rfl⟩ := List.mem_map.mp hrule
  have hpiece := Text.infix_of_mem_splitOn (List.mem_filter.mp hpiece).1
  have hcondition : condition ∈ (FilterRule.ofText piece).conditions := by simp [hconditions]
  rcases FilterRule.infix_of_mem_conditions hcondition with rfl | ⟨u, hu, rfl⟩
  · exact absurd hfails Condition.not_fails_any
  · rcases fault with ⟨⟨letter⟩⟩ | ⟨⟨count⟩⟩
    · obtain ⟨hmem, hwide⟩ := Condition.mem_of_wideLetter? hfails.2
      exact .inl ⟨letter, (hu.trans hpiece).subset hmem, hwide⟩
    · obtain ⟨hmem, hlimit⟩ := Condition.mem_statedCounts hfails
      exact .inr ⟨hfails.1, count, statedCounts_subset_of_infix (hu.trans hpiece) hmem, hlimit⟩

/-- **The ways to fail.** Holding a task against the filter that a text states fails if and only if
it comes to a condition that fails, and for the same reason: on the priority a letter without a
single capital, elsewhere a regular expression with a count that is too large. If no such letter
stands in the text and, where operands are regular expressions, no such count, there is an
answer. -/
theorem Filter.failure_ofText_iff (text : Text) (style : PatternStyle) (task : Task) (id : Nat)
    (base : Date) :
    (∀ fault, (Filter.ofText text style).matches? task id base = .error fault ↔
      (Filter.ofText text style).Reaches ⟨task, id, base, style⟩ fault) ∧
    ((∀ c ∈ text, c.toNat ∉ wideLetterCodes) →
      (style = .regex → ∀ count ∈ statedCounts text, count < Regex.countLimit) →
      ∃ answer, (Filter.ofText text style).matches? task id base = .ok answer) := by
  refine ⟨fun fault ↦ Filter.matches?_eq_error_iff, fun hletters hcounts ↦ ?_⟩
  cases hanswer : (Filter.ofText text style).matches? task id base with
  | ok answer => exact ⟨answer, rfl⟩
  | error fault =>
    have hreaches := Filter.matches?_eq_error_iff.mp hanswer
    rcases Filter.stated_of_reaches hreaches with
      ⟨letter, hmem, hwide⟩ | ⟨hstyle, count, hmem, hlimit⟩
    · exact absurd hwide (hletters letter hmem)
    · exact absurd hlimit (Nat.not_le_of_lt (hcounts hstyle count hmem))

theorem Filter.answer_ofText_pri :
    ∃ answer, (Filter.ofText "pri=A..C;subj=re{1,2}nt;due=..fri".toList .regex).matches?
      (Task.parse "(B) pay rent due:2020-03-20".toList none) 1 ⟨2020, 3, 15, by decide⟩ =
        .ok answer := by
  have hletters :
      "pri=A..C;subj=re{1,2}nt;due=..fri".toList.all (·.toNat ∉ wideLetterCodes) = true := by decide
  have hcounts : (statedCounts "pri=A..C;subj=re{1,2}nt;due=..fri".toList).all
      (· < Regex.countLimit) = true := by decide
  refine (Filter.failure_ofText_iff _ _ _ _ _).2 (fun c hc ↦ ?_) fun _ count hcount ↦ ?_
  · exact of_decide_eq_true (List.all_eq_true.mp hletters c hc)
  · exact of_decide_eq_true (List.all_eq_true.mp hcounts count hcount)

/-- The sharp s is such a letter: a filter can fail. -/
theorem Filter.not_forall_answer :
    ¬ ∀ (text : Text) (style : PatternStyle) (line : Text) (today : Option Date) (id : Nat)
      (base : Date), ∃ answer,
        (Filter.ofText text style).matches? (Task.parse line today) id base = .ok answer := by
  intro h
  obtain ⟨answer, hanswer⟩ :=
    h "pri=ß".toList .wildcard "(A) pay".toList none 1 ⟨2020, 3, 15, by decide⟩
  have hfails : failure? ((Filter.ofText "pri=ß".toList .wildcard).matches?
      (Task.parse "(A) pay".toList none) 1 ⟨2020, 3, 15, by decide⟩) =
        some (.priority (.wideCapital 'ß')) := by decide
  rw [hanswer] at hfails
  cases hfails

/-- A count that is too large is the other way. -/
example : failure? ((Filter.ofText "subj=a{4294967295}".toList .regex).matches?
    (Task.parse "(A) pay".toList none) 1 ⟨2020, 3, 15, by decide⟩) =
      some (.pattern (.hugeCount 4294967295)) := by decide +kernel

end Agenda
