import Agenda.Proofs.OffsetChain

/-!
# Units without a count

An expression may have a unit alone for an offset, and no such offset makes a step. So evaluation
can fail over a step, and this is the only way: every other offset has a count, and the two readers
of steps take the same count and the same unit from it.

## When the missing count is noticed

Nothing is wrong with such an expression until the offset is applied. By then the whole expression
has been taken apart, its base has a day, and the offsets in front of the unit have led on from
there, each within the calendar; if one of them leaves it, the missing count stays unnoticed. The
base may be a tag. Then its text is evaluated first, and what that fails over the expression fails
over too. `LacksCount` says this without the errors of the evaluator, and evaluation fails over a
step exactly as it says (`stepReaders_agree`).

A base is evaluated by itself before any offset is looked at, so an expression has the answer of its
base with the offsets applied (`evaluateWithin_of_parse`). This is what "its base has a day" means
below, whether the base is a tag, a date word or an absolute day.
-/

namespace Agenda

open Expression (IsBareUnit IsCount IsToken)

variable {base : Date} {soonDays : Int} {tags : TagTable} {expr : Text} {e : Expression}
  {budget : Nat} {error : DateError}

/-! ## The base alone -/

theorem Expression.parse_base (he : parse expr = .ok e) : parse e.base = .ok ⟨e.base, []⟩ :=
  parse_of_isBase (isReading_of_parse he).2.base

namespace TagTable

theorem reference?_base (tags : TagTable) (he : Expression.parse expr = .ok e) :
    tags.reference? e.base = (tags.reference? expr).map fun r ↦ ⟨r.name, r.text, []⟩ := by
  simp only [reference?, he, Expression.parse_base he]
  cases referenceName? e.base with
  | none => rfl
  | some name =>
    rcases hvalue : tags.value? name with _ | _ | _ <;> simp [hvalue]

end TagTable

theorem evaluateWithin_of_parse (he : Expression.parse expr = .ok e) :
    (evaluateWithin base soonDays (budget + 1) tags expr).1 =
      (evaluateWithin base soonDays (budget + 1) tags e.base).1.bind (applyOffsets · e.offsets) := by
  have href := tags.reference?_base he
  cases hr : tags.reference? expr with
  | none =>
    rw [hr, Option.map_none] at href
    rw [evaluateWithin_of_none _ hr, evaluateWithin_of_none _ href, TagTable.directDate_of_parse he,
      TagTable.directDate_of_parse (Expression.parse_base he), bind_applyOffsets_nil]
  | some r =>
    rw [hr, Option.map_some] at href
    obtain ⟨e', he', -, -, hoffsets⟩ := TagTable.reference?_eq_some_iff.mp hr
    cases he.symm.trans he'
    simp only [evaluateWithin_of_some _ hr, evaluateWithin_of_some _ href, bind_applyOffsets_nil,
      hoffsets]

theorem exists_parse_of_step
    (h : (evaluateWithin base soonDays (budget + 1) tags expr).1 = .error error)
    (hkind : error.kind = .step) : ∃ e, Expression.parse expr = .ok e := by
  cases he : Expression.parse expr with
  | ok e => exact ⟨e, rfl⟩
  | error parseError =>
    have href : tags.reference? expr = none := by simp only [TagTable.reference?, he]
    rw [evaluateWithin_of_none _ href, TagTable.directDate, he] at h
    split at h
    · cases h
      cases hkind
    · cases h
      rw [Expression.kind_of_parse he] at hkind
      split at hkind <;> cases hkind

/-- The base alone does not fail over a step, unless the text that it refers to does. -/
theorem exists_reference_of_step (he : Expression.parse expr = .ok e)
    (hbase : (evaluateWithin base soonDays (budget + 1) tags e.base).1 = .error error)
    (hkind : error.kind = .step) : ∃ r, tags.reference? expr = some r ∧
      (evaluateWithin base soonDays budget tags r.text).1 = .error error := by
  have href := tags.reference?_base he
  cases hr : tags.reference? expr with
  | none =>
    rw [hr, Option.map_none] at href
    rw [evaluateWithin_of_none _ href, TagTable.directDate_of_parse (Expression.parse_base he),
      bind_applyOffsets_nil] at hbase
    -- no word is refused over a step
    split at hbase
    · cases hbase
    · exact absurd hkind (ne_of_mem_of_not_mem (kind_of_literalDate hbase) (by decide))
  | some r =>
    rw [hr, Option.map_some] at href
    simp only [evaluateWithin_of_some _ href, bind_applyOffsets_nil] at hbase
    exact ⟨r, rfl, hbase⟩

/-! ## Missing counts -/

/-- With so many nested evaluations left, an expression lacks a count: its base has a day, and the
offsets in front of a unit alone lead on from there within the calendar; or it refers to a text that
lacks a count with one evaluation less. The error names the unit. -/
inductive LacksCount (base : Date) (soonDays : Int) (tags : TagTable) :
    Nat → Text → DateError → Prop
  | offset {budget : Nat} {expr : Text} {e : Expression} {d r : Date} {before after : List Offset}
      {o : Offset} (he : Expression.parse expr = .ok e)
      (hbase : (evaluateWithin base soonDays (budget + 1) tags e.base).1 = .ok d)
      (hoffsets : e.offsets = before ++ o :: after) (hbefore : d.Reaches before r)
      (hbare : IsBareUnit o.token) :
      LacksCount base soonDays tags (budget + 1) expr (.countExpected o.token)
  | tag {budget : Nat} {expr text : Text} {error : DateError} (href : tags.RefersTo expr text)
      (htext : LacksCount base soonDays tags budget text error) :
      LacksCount base soonDays tags (budget + 1) expr error

theorem LacksCount.exists_countExpected (h : LacksCount base soonDays tags budget expr error) :
    ∃ token, IsBareUnit token ∧ error = .countExpected token := by
  induction h with
  | offset _ _ _ _ hbare => exact ⟨_, hbare, rfl⟩
  | tag _ _ ih => exact ih

theorem evaluateWithin_of_lacksCount (h : LacksCount base soonDays tags budget expr error) :
    (evaluateWithin base soonDays budget tags expr).1 = .error error := by
  induction h with
  | @offset budget expr e d r before after o he hbase hoffsets hbefore hbare =>
    rw [evaluateWithin_of_parse he, hbase]
    exact (applyOffsets_eq_error_iff_fails (Expression.isReading_of_parse he).2.token).mpr
      ⟨before, o, after, r, hoffsets, hbefore, .noCount hbare⟩
  | tag href _ ih =>
    obtain ⟨r, hr, rfl⟩ := TagTable.refersTo_iff.mp href
    rw [evaluateWithin_of_some _ hr, ih]
    rfl

theorem lacksCount_of_evaluateWithin
    (h : (evaluateWithin base soonDays budget tags expr).1 = .error error)
    (hkind : error.kind = .step) : LacksCount base soonDays tags budget expr error := by
  induction budget generalizing expr with
  | zero =>
    rw [evaluateWithin] at h
    cases h
    cases hkind
  | succ budget ih =>
    obtain ⟨e, he⟩ := exists_parse_of_step h hkind
    rw [evaluateWithin_of_parse he] at h
    rcases error_of_bind h with hbase | ⟨d, hbase, happly⟩
    · obtain ⟨r, hr, htext⟩ := exists_reference_of_step he hbase hkind
      exact .tag (TagTable.refersTo_iff.mpr ⟨r, hr, rfl⟩) (ih htext)
    · obtain ⟨before, o, after, r, hoffsets, hbefore, hfails⟩ :=
        (applyOffsets_eq_error_iff_fails (Expression.isReading_of_parse he).2.token).mp happly
      cases hfails with
      | noCount hbare => exact .offset he hbase hoffsets hbefore hbare
      | outside _ => cases hkind

/-! ## The two readers -/

/-- **Readers of steps.** An offset is a unit alone, which is refused for its missing count, or it
is a step of the number and the unit that it consists of, days if there is no unit. No other text
is such a step, but for a line feed at the end. So evaluation fails over a step exactly if a count
is missing. -/
theorem stepReaders_agree (base : Date) (soonDays : Int) (tags : TagTable) :
    (∀ s token, Expression.offset? s = some token →
      IsBareUnit token ∧ Recurrence.parse token = .error (.countExpected token) ∨
        ∃ digits, Text.isNumber digits = true ∧
          (token = digits ∧
              Recurrence.parse (token ++ ['d']) = .ok ⟨.day, Text.toNat digits, false⟩ ∨
            ∃ c unit, token = digits ++ [c] ∧ Text.lower [c] = [unit.letter] ∧
              Recurrence.parse token = .ok ⟨unit, Text.toNat digits, false⟩)) ∧
    (∀ token, Expression.offset? token = some token ↔ IsBareUnit token ∨
      ∃ unit n, Expression.step token = .ok ⟨unit, n, false⟩ ∧ '\n' ∉ token) ∧
    ∀ budget expr error, (evaluateWithin base soonDays budget tags expr).1 = .error error ∧
      error.kind = .step ↔ LacksCount base soonDays tags budget expr error := by
  refine ⟨fun s token h ↦ ?_, fun token ↦ ?_, fun budget expr error ↦ ⟨?_, fun h ↦ ?_⟩⟩
  · have htoken : IsToken token := (Expression.offset?_eq_some_iff.mp h).1
    rcases Expression.isToken_iff_bareUnit_or_count.mp htoken with hbare | ⟨unit, n, hcount⟩
    · exact .inl ⟨hbare, hbare.parse⟩
    · refine .inr ?_
      cases hcount with
      | days hs hn => exact ⟨token, hs, .inl ⟨rfl, Recurrence.parse_append_letter hs rfl⟩⟩
      | units hs hn hc =>
        exact ⟨_, hs, .inr ⟨_, _, rfl, TimeUnit.lower_of_ofAnyLetter? hc,
          Recurrence.parse_append_letter hs hc⟩⟩
  · simp only [Expression.step_eq_ok_iff, ← Expression.isToken_iff_bareUnit_or_count,
      Expression.offset?_eq_some_iff, and_iff_left_iff_imp]
    exact fun _ ↦ ⟨[], (List.append_nil token).symm, .done⟩
  · rintro ⟨hanswer, hkind⟩
    exact lacksCount_of_evaluateWithin hanswer hkind
  · obtain ⟨token, -, rfl⟩ := h.exists_countExpected
    exact ⟨evaluateWithin_of_lacksCount h, rfl⟩

theorem stepReaders_agree_weeks :
    let base : Date := ⟨2020, 3, 15, by decide⟩
    let tags : TagTable := ⟨[⟨"due".toList, some "2020-04-08-1m+w".toList, none⟩]⟩
    (Expression.offset? "12W-1d".toList = some "12W".toList ∧
      Recurrence.parse "12W".toList = .ok ⟨.week, 12, false⟩) ∧
    LacksCount base 7 tags nestingLimit "DUE+1d".toList (.countExpected "w".toList) ∧
    (evaluate base 7 tags "DUE+1d".toList).1 = .error (.countExpected "w".toList) := by
  intro base tags
  obtain ⟨hreaders, -, hcounts⟩ := stepReaders_agree base 7 tags
  have hoffset : Expression.offset? "12W-1d".toList = some "12W".toList := by decide
  have hweeks : Recurrence.parse "12W".toList = .ok ⟨.week, 12, false⟩ := by
    rcases hreaders _ _ hoffset with ⟨⟨c, -, hbare⟩, -⟩ | ⟨digits, hs, ⟨hdays, -⟩ | hunits⟩
    · cases hbare
    · rw [← hdays] at hs
      cases hs
    · obtain ⟨c, unit, htoken, hlower, hparse⟩ := hunits
      have hends : "12".toList ++ ['W'] = digits ++ [c] := htoken
      obtain ⟨rfl, hc⟩ := List.append_inj' hends rfl
      cases hc
      have hunit : ['w'] = [unit.letter] := hlower
      cases unit with
      | week => exact hparse
      | day | month | year => cases hunit
  have htext : LacksCount base 7 tags 10 "2020-04-08-1m+w".toList (.countExpected "w".toList) := by
    have hparse : Expression.parse "2020-04-08-1m+w".toList =
      .ok ⟨"2020-04-08".toList, [⟨.minus, "1m".toList⟩] ++ [⟨.plus, "w".toList⟩]⟩ := rfl
    have hbase : (evaluateWithin base 7 10 tags "2020-04-08".toList).1 =
      .ok ⟨2020, 4, 8, by decide⟩ := eq_ok_of_toOption (by decide +kernel)
    have hcount : IsCount .month 1 (['1'] ++ ['m']) := .units rfl rfl rfl
    have hmove : Offset.Moves ⟨.minus, "1m".toList⟩ ⟨2020, 4, 8, by decide⟩
      ⟨2020, 3, 8, by decide⟩ := ⟨.month, 1, hcount, eq_ok_of_toOption (by decide)⟩
    exact .offset hparse hbase rfl (.move hmove .here) ⟨'w', by decide, rfl⟩
  have hname : tags.RefersTo "DUE+1d".toList "2020-04-08-1m+w".toList := by
    refine ⟨⟨"DUE".toList, [⟨.plus, "1d".toList⟩]⟩, rfl,
      ⟨List.cons_ne_nil _ _, List.all_eq_true.mp (by decide)⟩, ?_⟩
    exact ⟨⟨"due".toList, some "2020-04-08-1m+w".toList, none⟩, by decide, rfl, rfl⟩
  exact ⟨⟨hoffset, hweeks⟩, .tag hname htext, ((hcounts _ _ _).mpr (.tag hname htext)).1⟩

end Agenda
