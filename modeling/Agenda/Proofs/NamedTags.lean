import Agenda.Proofs.MainTags

/-!
# Which tags a name reaches

A word of letters is looked up in small letters, and keys are kept as they are written. A key in
small letters is reached by its name, and answers what its value answers with one nested evaluation
less, whatever else the word may mean (`evaluate_key`). A key with a capital letter is not reached
at all, neither by its name as it is written nor by any other. The lookup finds the tag that is
written in small letters, and if there is none then the word is a date word or none: `Due` is
refused beside `Due:fri`, and `Last` is the end of the month beside `Last:2020-01-01`
(`not_forall_evaluate_key`).
-/

namespace Agenda

open Expression (IsBase)

variable {base : Date} {soonDays : Int} {tags : TagTable} {text name value s : Text} {c : Char}
  {n : Nat}

/-! ## A name as an expression -/

theorem parse_of_latin (hne : name ≠ []) (h : ∀ c ∈ name, isLatin c = true) :
    Expression.parse name = .ok ⟨name, []⟩ ∧ referenceName? name = some (Text.lower name) :=
  ⟨Expression.parse_of_isBase (.word hne h), referenceName?_eq_some_iff.mpr ⟨⟨hne, h⟩, rfl⟩⟩

theorem TagTable.reference?_of_latin (hne : name ≠ []) (h : ∀ c ∈ name, isLatin c = true)
    (hvalue : tags.value? (Text.lower name) = some (.raw value)) :
    tags.reference? name = some ⟨Text.lower name, value, []⟩ := by
  obtain ⟨hparse, hname⟩ := parse_of_latin hne h
  exact reference?_eq_some_iff.mpr ⟨⟨name, []⟩, hparse, hname, hvalue, rfl⟩

/-- A name that the table has as a text answers what the text answers, one evaluation deeper. -/
theorem evaluateWithin_of_name (hne : name ≠ []) (h : ∀ c ∈ name, isLatin c = true)
    (hvalue : tags.value? (Text.lower name) = some (.raw value)) :
    (evaluateWithin base soonDays (n + 1) tags name).1 =
      (evaluateWithin base soonDays n tags value).1 := by
  rw [evaluateWithin_of_some n (TagTable.reference?_of_latin hne h hvalue)]
  exact bind_applyOffsets_nil _

theorem evaluateWithin_of_unknown (hne : name ≠ []) (h : ∀ c ∈ name, isLatin c = true)
    (hvalue : tags.value? (Text.lower name) = none) :
    (evaluateWithin base soonDays (n + 1) tags name).1 = literalDate base soonDays name := by
  obtain ⟨hparse, hname⟩ := parse_of_latin hne h
  have href : tags.reference? name = none := by
    by_contra hsome
    obtain ⟨r, hr⟩ := Option.ne_none_iff_exists'.mp hsome
    obtain ⟨e, he, hname', hvalue', -⟩ := TagTable.reference?_eq_some_iff.mp hr
    cases hparse.symm.trans he
    rw [← Option.some.inj (hname.symm.trans hname'), hvalue] at hvalue'
    cases hvalue'
  rw [evaluateWithin_of_none n href, TagTable.directDate_of_parse hparse, bind_applyOffsets_nil,
    hname, Option.bind_some, hvalue]

/-! ## The tags of a text -/

/-- **Tags by their names.** A key of a text that is a word of letters, with no other key like it
but for case, is reached by its name if it is in small letters: the answer is that of its value with
one nested evaluation less. If it has a capital letter, then the answer is that of the day of
creation, where that is what the word says, and else that of the word without a tag. -/
theorem evaluate_key (base : Date) (soonDays : Int) (text key value : Text)
    (hget : (extractTags text).get? key = some value) (hkey : ∀ c ∈ key, isLatin c = true)
    (hunique : ∀ key' value', (extractTags text).get? key' = some value' →
      Text.lower key' = Text.lower key → key' = key) :
    (Text.lower key = key → (evaluate base soonDays (.ofText text base) key).1 =
      (evaluateWithin base soonDays (nestingLimit - 1) (.ofText text base) value).1) ∧
    (Text.lower key ≠ key → (evaluate base soonDays (.ofText text base) key).1 =
      if Text.lower key = "created".toList then
        (evaluateWithin base soonDays (nestingLimit - 1) (.ofText text base) base.toText).1
      else literalDate base soonDays key) := by
  have hne := (isTag_of_get? hget).1.key_ne_nil
  have hvalue := TagTable.value?_ofText text base (Text.lower key)
  constructor
  · intro hsmall
    refine evaluateWithin_of_name hne hkey ?_
    rw [hvalue, hsmall, hget]
    rfl
  · intro hcapital
    -- the key in small letters would be another key like it
    have hnone : (extractTags text).get? (Text.lower key) = none := by
      by_contra hsome
      obtain ⟨value', hget'⟩ := Option.ne_none_iff_exists'.mp hsome
      exact hcapital (hunique _ _ hget' (lower_lower hkey))
    rw [hnone, Option.none_or] at hvalue
    by_cases hcreated : Text.lower key = "created".toList
    · rw [if_pos hcreated] at hvalue ⊢
      exact evaluateWithin_of_name hne hkey hvalue
    · rw [if_neg hcreated] at hvalue ⊢
      exact evaluateWithin_of_unknown hne hkey hvalue

/-- No key is written like another one but for case: a check. -/
theorem unique_of_all {key : Text}
    (h : (extractTags text).all fun entry ↦
      Text.lower entry.1 != Text.lower key || entry.1 == key) :
    ∀ key' value', (extractTags text).get? key' = some value' →
      Text.lower key' = Text.lower key → key' = key := by
  intro key' value' hget hlower
  by_contra hne
  have hother : ∀ entry ∈ extractTags text, entry.1 ≠ key' := by
    rintro entry hentry rfl
    have hcheck := List.all_eq_true.mp h entry hentry
    simp [hlower, hne] at hcheck
  rw [Dictionary.get?_eq_none hother] at hget
  cases hget

theorem evaluate_key_rent : (evaluate ⟨2020, 7, 9, by decide⟩ 7
    (.ofText "pay rent sun:fri t:sun-2d".toList ⟨2020, 7, 9, by decide⟩) "sun".toList).1 =
      .ok ⟨2020, 7, 10, by decide⟩ := by
  refine ((evaluate_key ⟨2020, 7, 9, by decide⟩ 7 "pay rent sun:fri t:sun-2d".toList
    "sun".toList "fri".toList (by decide) (List.all_eq_true.mp (by decide))
    (unique_of_all (by decide))).1 (by decide)).trans ?_
  exact eq_ok_of_toOption (by decide)

/-- A key with a capital letter is not reached by its name. -/
theorem not_forall_evaluate_key : ¬ ∀ (base : Date) (soonDays : Int) (text key value : Text),
    (extractTags text).get? key = some value → (∀ c ∈ key, isLatin c = true) →
    (∀ key' value', (extractTags text).get? key' = some value' →
      Text.lower key' = Text.lower key → key' = key) →
    ∀ d, (evaluate base soonDays (.ofText text base) key).1 = .ok d ↔
      (evaluateWithin base soonDays (nestingLimit - 1) (.ofText text base) value).1 = .ok d := by
  intro h
  have hfriday : (evaluateWithin ⟨2020, 3, 15, by decide⟩ 7 (nestingLimit - 1)
      (.ofText "Due:fri".toList ⟨2020, 3, 15, by decide⟩) "fri".toList).1 =
        .ok ⟨2020, 3, 20, by decide⟩ := eq_ok_of_toOption (by decide)
  have hdue := (h ⟨2020, 3, 15, by decide⟩ 7 "Due:fri".toList "Due".toList "fri".toList
    (by decide) (List.all_eq_true.mp (by decide)) (unique_of_all (by decide))
    _).mpr hfriday
  have hanswer := congrArg Except.toOption hdue
  revert hanswer
  decide

end Agenda
