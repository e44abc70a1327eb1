import Agenda.Proofs.MainTags

/-!
# The table of a task and the table of its line

The tags of a task can be had in two ways: from the task, once its line has been read, or from the
line as it stands. Both tables give every expression the same answer, if only the day of creation is
not asked for (`evaluate_ofTask_parse`). Two things set them apart.

## The tags

Reading a task takes marks and days off the front of its line, and its tags are those of the
subject that is left. No tag is lost, since no word that is taken off has a colon
(`Task.tags_parse`).

## The days

The table of a task knows the days of `due` and `t` where the line has them as texts. A text that
is read as a day has no sign behind its base and begins with a digit. So it refers to no tag, and it
stands for the very day that was read. Where the table of the line follows a reference to such a
text, the table of the task stops one step earlier with the same answer. The two evaluations
differ in no other way, and that of the task is never the deeper one. The step is taken for
evaluation without memory (`denotes_ofTask`), to which the budget is added at the end.
-/

namespace Agenda

/-! ## What an expression asks a table for -/

/-- The name that an expression asks the table for: its base, if that is a word. -/
def consultedName? (expr : Text) : Option Text :=
  match Expression.parse expr with
  | .ok e => referenceName? e.base
  | .error _ => none

/-- An expression asks the table for the name, or one does that it leads to. -/
def TagTable.Consults (tags : TagTable) (expr name : Text) : Prop :=
  ∃ text, Relation.ReflTransGen tags.RefersTo expr text ∧ consultedName? text = some name

variable {base today d : Date} {soonDays : Int} {tags : TagTable} {expr name line s t w : Text}
  {c : Char}

theorem name_ne_of_consultedName? {e : Expression} {key : Text} (h : consultedName? expr ≠ some key)
    (he : Expression.parse expr = .ok e) (hname : referenceName? e.base = some name) :
    name ≠ key := by
  rintro rfl
  rw [consultedName?, he] at h
  exact h hname

theorem TagTable.consults_iff : tags.Consults expr name ↔
    consultedName? expr = some name ∨
      ∃ r, tags.reference? expr = some r ∧ tags.Consults r.text name := by
  constructor
  · rintro ⟨text, hpath, hname⟩
    rcases Relation.ReflTransGen.cases_head hpath with rfl | ⟨next, hnext, hrest⟩
    · exact .inl hname
    · obtain ⟨r, hr, rfl⟩ := refersTo_iff.mp hnext
      exact .inr ⟨r, hr, text, hrest, hname⟩
  · rintro (hname | ⟨r, hr, text, hpath, hname⟩)
    · exact ⟨expr, .refl, hname⟩
    · exact ⟨text, .head (refersTo_iff.mpr ⟨r, hr, rfl⟩) hpath, hname⟩

/-! ## The tags of a task -/

/-- The keys and values of the tags in some pieces of a line. -/
def tagBindings (pieces : List Text) : List (Text × Text) :=
  (pieces.flatMap Text.words).filterMap tagOfWord?

theorem tagOfWord?_of_not_mem (h : ':' ∉ w) : tagOfWord? w = none := by
  rw [tagOfWord?, Text.cut?_singleton_eq_none_iff.mpr h]

theorem tagBindings_cons_of_not_mem (h : ':' ∉ s) (pieces : List Text) :
    tagBindings (s :: pieces) = tagBindings pieces := by
  have hnone : (Text.words s).filterMap tagOfWord? = [] := by
    refine List.filterMap_eq_nil_iff.mpr fun w hw ↦ ?_
    exact tagOfWord?_of_not_mem fun hmem ↦ h (Text.mem_of_mem_words hw hmem)
  rw [tagBindings, List.flatMap_cons, List.filterMap_append, hnone, List.nil_append, tagBindings]

theorem tagBindings_takeWord {α : Type} {read : Text → Option α}
    (hread : ∀ s a, read s = some a → ':' ∉ s) (pieces : List Text) :
    tagBindings (Task.takeWord read pieces).2 = tagBindings pieces := by
  rw [Task.takeWord.eq_def]
  split
  · rfl
  · next piece pieces =>
    split
    · next a ha => exact (tagBindings_cons_of_not_mem (hread piece a ha) pieces).symm
    · rfl

theorem not_mem_of_ofMark? {p : Priority} (h : Priority.ofMark? s = some p) : ':' ∉ s := by
  rw [← Text.mem_chomp_iff (by decide)]
  rw [Priority.ofMark?] at h
  split at h
  · next c hs =>
    rw [hs]
    split at h
    · next hletter =>
      have hc : ':' ≠ c := by
        rintro rfl
        revert hletter
        decide
      simp [hc]
    · cases h
  · cases h

theorem not_mem_of_ofText? (h : Date.ofText? s = some d) : ':' ∉ s := by
  intro hmem
  rcases Date.mem_of_ofText? h hmem with hmem | hmem | hmem <;> revert hmem <;> decide

/-- **The tags of a task.** A task has the tags of its whole line. -/
theorem Task.tags_parse (line : Text) (today : Option Date) :
    (Task.parse line today).tags = extractTags line := by
  have hmark : ∀ s a, (if s == ['x'] then some () else none) = some a → ':' ∉ s := by
    intro s a h
    split at h
    · next hs =>
      rw [eq_of_beq hs]
      decide
    · cases h
  have hpieces : tagBindings (Text.splitOn ' ' (Text.strip line)) =
      (Text.words line).filterMap tagOfWord? := by
    rw [tagBindings, ← Text.words_join, Text.join_splitOn, Text.words_strip]
  have hsubject : ∀ pieces, extractTags (Text.join [' '] pieces) =
      Dictionary.ofBindings (tagBindings pieces) := by
    intro pieces
    rw [extractTags, Text.words_join, tagBindings]
  have hdate : ∀ s d, Date.ofText? s = some d → ':' ∉ s := fun _ _ ↦ not_mem_of_ofText?
  have hpriority : ∀ s p, Priority.ofMark? s = some p → ':' ∉ s := fun _ _ ↦ not_mem_of_ofMark?
  rw [Task.tags, Task.parse]
  dsimp only
  rw [hsubject, tagBindings_takeWord hdate, extractTags, ← hpieces]
  congr 1
  -- only a finished task has a second day
  split
  · rw [tagBindings_takeWord hdate, tagBindings_takeWord hpriority, tagBindings_takeWord hmark]
  · rw [tagBindings_takeWord hpriority, tagBindings_takeWord hmark]

/-! ## The two tables -/

theorem find?_ofDate (key : String) (date : Option Date) (name : Text) :
    (TagTable.ofDate key date).find? (·.name == name) =
      if key.toList = name then date.map fun d ↦ ⟨key.toList, none, some d⟩ else none := by
  cases date with
  | none => exact (ite_self none).symm
  | some d =>
    by_cases hname : key.toList = name
    · simp [TagTable.ofDate, hname]
    · simp [TagTable.ofDate, hname]

/-- A text, or the day it is read as. -/
def readValue (text : Text) : TagValue := (Date.ofText? text).elim (.raw text) .date

/-- An entry with the day of a text hides the entry with the text. -/
theorem value?_of_day (name : Text) (text : Option Text) :
    (((text.bind Date.ofText?).map fun d ↦ (⟨name, none, some d⟩ : TagEntry)).or
      (text.map fun value ↦ ⟨name, some value, none⟩)).bind TagEntry.value? =
      text.map readValue := by
  cases text with
  | none => rfl
  | some text =>
    rw [Option.bind_some, Option.map_some, Option.map_some, readValue]
    cases Date.ofText? text with
    | none => rfl
    | some d => rfl

/-- The table of a task says of a name what the tags say, but of a main tag the day if it has
one. -/
theorem value?_ofTask (hname : name ≠ "created".toList) (task : Task) :
    (TagTable.ofTask task).value? name =
      (task.tags.get? name).map (if name ∈ mainTags then readValue else .raw) := by
  have hcreated : ¬ "created".toList = name := Ne.symm hname
  rw [TagTable.value?, TagTable.find?, TagTable.ofTask]
  simp only [List.find?_append, find?_ofDate, TagTable.find?_ofTags, if_neg hcreated,
    Option.or_none]
  by_cases hdue : "due".toList = name
  · subst hdue
    rw [if_pos rfl, if_neg (by decide), Option.or_none, if_pos (by decide)]
    exact value?_of_day _ _
  by_cases ht : "t".toList = name
  · subst ht
    rw [if_neg (by decide), Option.none_or, if_pos rfl, if_pos (by decide)]
    exact value?_of_day _ _
  · have hmain : name ∉ mainTags := by
      rw [mainTags, List.mem_cons, List.mem_singleton, not_or]
      exact ⟨Ne.symm hdue, Ne.symm ht⟩
    rw [if_neg hdue, if_neg ht, if_neg hmain, Option.none_or]
    cases task.tags.get? name <;> rfl

theorem value?_ofTask_parse (hname : name ≠ "created".toList) (line : Text) (today : Date) :
    (TagTable.ofTask (Task.parse line (some today))).value? name =
        (TagTable.ofText line today).value? name ∨
      ∃ text d, (TagTable.ofText line today).value? name = some (.raw text) ∧
        (TagTable.ofTask (Task.parse line (some today))).value? name = some (.date d) ∧
        Date.ofText? text = some d ∧ ' ' ∉ text := by
  rw [value?_ofTask hname, Task.tags_parse, TagTable.value?_ofText, if_neg hname, Option.or_none]
  cases hget : (extractTags line).get? name with
  | none => exact .inl rfl
  | some text =>
    by_cases hmain : name ∈ mainTags
    · rw [if_pos hmain, Option.map_some, Option.map_some, readValue]
      cases hread : Date.ofText? text with
      | none => exact .inl rfl
      | some d =>
        -- the value of a tag is part of a word
        refine .inr ⟨text, d, rfl, rfl, hread, fun hspace ↦ ?_⟩
        have hblank := (isTag_of_get? hget).2.2 ' ' (List.mem_append_right _ hspace)
        cases hblank
    · rw [if_neg hmain]
      exact .inl rfl

/-! ## Evaluation over the two tables -/

theorem denotes_of_ofText? (h : Date.ofText? s = some d) (hspace : ' ' ∉ s) :
    Denotes base soonDays tags s (.ok d) := by
  obtain ⟨year, month, day, hy, hm, hd, hs⟩ := Date.isDigits_of_ofText? h hspace
  obtain ⟨c, t, rfl⟩ := List.exists_cons_of_length_eq_add_one hy.1
  rw [List.cons_append] at hs
  subst hs
  have hc : isDigit c = true := hy.2 c List.mem_cons_self
  have hdirect : tags.directDate base soonDays (c :: (t ++ '-' :: (month ++ '-' :: day))) =
      .ok d := by
    rw [TagTable.directDate_of_isBase hc (Date.isBase_of_ofText? h hspace),
      literalDate_of_ofText? h hspace]
  rw [← hdirect]
  exact .direct (TagTable.reference?_of_digit hc)

theorem reference?_ofText_of_ofTask {r : Reference}
    (hname : consultedName? expr ≠ some "created".toList)
    (hr : (TagTable.ofTask (Task.parse line (some today))).reference? expr = some r) :
    (TagTable.ofText line today).reference? expr = some r := by
  obtain ⟨e, he, hbase, hvalue, hoffsets⟩ := TagTable.reference?_eq_some_iff.mp hr
  have hne := name_ne_of_consultedName? hname he hbase
  refine TagTable.reference?_eq_some_iff.mpr ⟨e, he, hbase, ?_, hoffsets⟩
  rcases value?_ofTask_parse hne line today with heq | ⟨_, _, -, hdate, -⟩
  · rw [← heq, hvalue]
  · rw [hvalue] at hdate
    cases hdate

theorem follow_ofText_of_ofTask {n : Nat} {last : Text}
    (hconsults : ¬ (TagTable.ofText line today).Consults expr "created".toList)
    (h : (TagTable.ofTask (Task.parse line (some today))).follow n expr = some last) :
    (TagTable.ofText line today).follow n expr = some last := by
  induction n generalizing expr with
  | zero => exact h
  | succ n ih =>
    rw [TagTable.consults_iff, not_or, not_exists] at hconsults
    obtain ⟨hname, hnext⟩ := hconsults
    obtain ⟨r, hr, hlast⟩ := Option.bind_eq_some_iff.mp h
    have hr' := reference?_ofText_of_ofTask hname hr
    rw [TagTable.follow, hr', Option.bind_some]
    exact ih (fun hrest ↦ hnext r ⟨hr', hrest⟩) hlast

theorem denotes_ofTask_of_none (hname : consultedName? expr ≠ some "created".toList)
    (h : (TagTable.ofText line today).reference? expr = none) :
    Denotes base soonDays (.ofTask (Task.parse line (some today))) expr
      ((TagTable.ofText line today).directDate base soonDays expr) := by
  -- what the base names is the same in both tables, or is a text in neither
  have hvalue : ∀ e, Expression.parse expr = .ok e →
      (referenceName? e.base).bind (TagTable.ofText line today).value? =
        (referenceName? e.base).bind (TagTable.ofTask (Task.parse line (some today))).value? := by
    intro e he
    cases hbase : referenceName? e.base with
    | none => rw [Option.bind_none, Option.bind_none]
    | some name =>
      have hne := name_ne_of_consultedName? hname he hbase
      rw [Option.bind_some, Option.bind_some]
      rcases value?_ofTask_parse hne line today with heq | ⟨_, _, hraw, -⟩
      · exact heq.symm
      · exact absurd hraw (TagTable.value?_ne_raw_of_none h he hbase)
  have hnone : (TagTable.ofTask (Task.parse line (some today))).reference? expr = none := by
    rw [Option.eq_none_iff_forall_ne_some]
    intro r hr
    rw [reference?_ofText_of_ofTask hname hr] at h
    cases h
  rw [TagTable.directDate_congr base soonDays hvalue]
  exact .direct hnone

/-- Without memory, an expression that does not ask for the day of creation has the same answer over
both tables. -/
theorem denotes_ofTask {answer : Except DateError Date}
    (hconsults : ¬ (TagTable.ofText line today).Consults expr "created".toList)
    (h : Denotes base soonDays (.ofText line today) expr answer) :
    Denotes base soonDays (.ofTask (Task.parse line (some today))) expr answer := by
  induction h with
  | direct h =>
    rw [TagTable.consults_iff, not_or] at hconsults
    exact denotes_ofTask_of_none hconsults.1 h
  | @reference expr r answer hr hnested ih =>
    rw [TagTable.consults_iff, not_or, not_exists] at hconsults
    obtain ⟨hname, hnext⟩ := hconsults
    obtain ⟨e, he, hbase, hvalue, hoffsets⟩ := TagTable.reference?_eq_some_iff.mp hr
    have hne := name_ne_of_consultedName? hname he hbase
    rcases value?_ofTask_parse hne line today with heq | ⟨text, d, hraw, hdate, hread, hspace⟩
    · -- the task refers to the same text
      have hr' := TagTable.reference?_eq_some_iff.mpr ⟨e, he, hbase, heq.trans hvalue, hoffsets⟩
      exact .reference hr' (ih fun hrest ↦ hnext r ⟨hr, hrest⟩)
    · -- the task has the day of the text
      rw [hvalue] at hraw
      cases hraw
      have hanswer : answer = .ok d := hnested.unique (denotes_of_ofText? hread hspace)
      have hnone : (TagTable.ofTask (Task.parse line (some today))).reference? expr = none := by
        simp only [TagTable.reference?, he, hbase, Option.bind_some, hdate]
      have hdirect : (TagTable.ofTask (Task.parse line (some today))).directDate base soonDays
          expr = answer.bind (applyOffsets · r.offsets) := by
        rw [TagTable.directDate_of_date he hbase hdate, hanswer, hoffsets]
        rfl
      rw [← hdirect]
      exact .direct hnone

/-- **One answer.** An expression that does not come to ask for the day of creation has the same
answer over the table of a task and over the table of its line, unless it is too deep for that of
the line; and if it is too deep for that of the task, it is so for that of the line. -/
theorem evaluate_ofTask_parse (line : Text) (base : Date) (soonDays : Int) (expr : Text)
    (hconsults : ¬ (TagTable.ofText line base).Consults expr "created".toList) :
    (evaluate base soonDays (.ofTask (Task.parse line (some base))) expr).1 =
        (evaluate base soonDays (.ofText line base) expr).1 ∨
      IsTooDeep (evaluate base soonDays (.ofText line base) expr).1 := by
  by_cases hdeep : IsTooDeep (evaluate base soonDays (.ofText line base) expr).1
  · exact .inr hdeep
  have hshallow : ¬ IsTooDeep (evaluate base soonDays
      (.ofTask (Task.parse line (some base))) expr).1 := by
    rw [evaluate, isTooDeep_iff_follow] at hdeep ⊢
    rintro ⟨last, hlast⟩
    exact hdeep ⟨last, follow_ofText_of_ofTask hconsults hlast⟩
  have hline : Denotes base soonDays (.ofText line base) expr _ :=
    (evaluateWithin_sound (.refl _ _) nestingLimit expr).2 hdeep
  have htask : Denotes base soonDays (.ofTask (Task.parse line (some base))) expr _ :=
    (evaluateWithin_sound (.refl _ _) nestingLimit expr).2 hshallow
  exact .inl (htask.unique (denotes_ofTask hconsults hline))

theorem evaluate_ofTask_parse_rent :
    (evaluate ⟨2020, 3, 15, by decide⟩ 7 (.ofTask (Task.parse
        "2020-01-05 pay rent due:2020-03-20".toList (some ⟨2020, 3, 15, by decide⟩)))
        "due+1w".toList).1 =
      (evaluate ⟨2020, 3, 15, by decide⟩ 7 (.ofText
        "2020-01-05 pay rent due:2020-03-20".toList ⟨2020, 3, 15, by decide⟩)
        "due+1w".toList).1 := by
  have hok : (evaluate ⟨2020, 3, 15, by decide⟩ 7 (.ofText
      "2020-01-05 pay rent due:2020-03-20".toList ⟨2020, 3, 15, by decide⟩)
      "due+1w".toList).1 = .ok ⟨2020, 3, 27, by decide⟩ := eq_ok_of_toOption (by decide +kernel)
  refine (evaluate_ofTask_parse _ _ _ _ fun hconsults ↦ ?_).resolve_right ?_
  · -- the path is the expression and the text of the one tag
    obtain hname | ⟨r, hr, hconsults⟩ := TagTable.consults_iff.mp hconsults
    · revert hname
      decide +kernel
    have htext : ((TagTable.ofText "2020-01-05 pay rent due:2020-03-20".toList
        ⟨2020, 3, 15, by decide⟩).reference? "due+1w".toList).map Reference.text =
        some "2020-03-20".toList := by decide +kernel
    rw [hr, Option.map_some, Option.some_inj] at htext
    rw [htext] at hconsults
    obtain hname | ⟨r', hr', -⟩ := TagTable.consults_iff.mp hconsults
    · revert hname
      decide +kernel
    · have hnone : (TagTable.ofText "2020-01-05 pay rent due:2020-03-20".toList
          ⟨2020, 3, 15, by decide⟩).reference? "2020-03-20".toList = none :=
        TagTable.reference?_of_digit (by decide)
      cases hnone.symm.trans hr'
  · rw [hok]
    exact not_isTooDeep_ok

end Agenda
