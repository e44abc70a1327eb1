import Agenda.Proofs.Ranges
import Agenda.Proofs.WrittenDays

/-!
# The order of typed values

Whole numbers, sizes, durations, times of day and days are held against each other through one
integer for each, the *measure* of a value (`ValueKind.measure?`). A text that cannot be read has
none, and is neither at most nor at least anything. So what two comparisons have to do with each
other is read off the integers (`valuesCompare_iff`).

## Days are compared as written

To ask whether two days are equal is not to compare what was read: the operand is resolved and
written out, and the value of the task has to be that very text. An operand without a meaning is
taken as it stands. This agrees with the order for a value that is itself the written form of a day
from the year 1000 on. It is read as that day, no other day is written so, and an operand that is
the same text has a meaning.
-/

namespace Agenda

variable {kind : ValueKind} {base d e : Date} {style : PatternStyle} {bound : Bound}
  {value operand v : Text}

/-- The kinds of whole numbers. -/
def wholeKinds : List ValueKind := [.integer, .size, .duration, .time]

/-- The values that equality and order agree on: all of the kinds of whole numbers, and the days
from the year 1000 on as they are written. -/
def ValueKind.IsOrdered (kind : ValueKind) (value : Text) : Prop :=
  kind ∈ wholeKinds ∨ kind = date ∧ ∃ d : Date, 1000 ≤ d.year ∧ value = d.toPaddedText

/-! ## Measures -/

/-- The integer by which a reading is held against others of its kind. -/
def Reading.measure? : Reading → Option Int
  | number n => some n
  | date d => some d.count
  | double _ | text _ => none

/-- The integer by which a text is held against others as a value of a kind. -/
def ValueKind.measure? (kind : ValueKind) (base : Date) (value : Text) : Option Int :=
  (kind.read? base value).bind Reading.measure?

theorem exists_number_of_read? {a : Reading} (hkind : kind ∈ wholeKinds)
    (h : kind.read? base v = some a) : ∃ n, a = .number n := by
  simp only [wholeKinds, List.mem_cons, List.not_mem_nil, or_false] at hkind
  rcases hkind with rfl | rfl | rfl | rfl
  all_goals
    obtain ⟨n, -, rfl⟩ := Option.map_eq_some_iff.mp h
    exact ⟨_, rfl⟩

theorem exists_date_of_read? {a : Reading} (h : ValueKind.date.read? base v = some a) :
    ∃ d, a = .date d := by
  obtain ⟨d, -, rfl⟩ := Option.map_eq_some_iff.mp h
  exact ⟨d, rfl⟩

theorem exists_measures (bound : Bound) {a b : Reading} (hkind : kind ∈ wholeKinds ∨ kind = .date)
    (ha : kind.read? base value = some a) (hb : kind.read? base operand = some b) :
    ∃ m n, a.measure? = some m ∧ b.measure? = some n ∧
      (bound.Holds (fun a b ↦ a.le b = true) a b ↔ bound.Holds (· ≤ ·) m n) := by
  rcases hkind with hkind | rfl
  · obtain ⟨m, rfl⟩ := exists_number_of_read? hkind ha
    obtain ⟨n, rfl⟩ := exists_number_of_read? hkind hb
    refine ⟨m, n, rfl, rfl, ?_⟩
    cases bound with
    | atMost => exact decide_eq_true_iff
    | atLeast => exact decide_eq_true_iff
  · obtain ⟨d, rfl⟩ := exists_date_of_read? ha
    obtain ⟨e, rfl⟩ := exists_date_of_read? hb
    refine ⟨d.count, e.count, rfl, rfl, ?_⟩
    cases bound with
    | atMost => exact Date.le_iff_count_le.trans Int.ofNat_le.symm
    | atLeast => exact Date.le_iff_count_le.trans Int.ofNat_le.symm

theorem isSome_read?_iff (hkind : kind ∈ wholeKinds ∨ kind = .date) :
    (kind.read? base v).isSome = true ↔ ∃ n, kind.measure? base v = some n := by
  rw [ValueKind.measure?]
  cases ha : kind.read? base v with
  | none => simp
  | some a =>
    obtain ⟨m, -, hm, -⟩ := exists_measures .atMost hkind ha ha
    simp [hm]

/-! ## Comparison -/

/-- One value keeps to another as a bound if both have measures that do. -/
theorem valuesCompare_iff (hkind : kind ∈ wholeKinds ∨ kind = .date) :
    valuesCompare kind base bound value operand = true ↔ ∃ m n,
      kind.measure? base value = some m ∧ kind.measure? base operand = some n ∧
        bound.Holds (· ≤ ·) m n := by
  rw [ValueKind.measure?, ValueKind.measure?]
  unfold valuesCompare
  split
  · simp [wholeKinds] at hkind
  · cases ha : kind.read? base value with
    | none => simp
    | some a =>
      cases hb : kind.read? base operand with
      | none => simp
      | some b =>
        obtain ⟨m, n, hm, hn, hholds⟩ := exists_measures bound hkind ha hb
        simp only [Option.bind_some, hm, hn, Option.some.injEq, exists_and_left, exists_eq_left']
        rw [← hholds]
        cases bound with
        | atMost => rfl
        | atLeast => rfl

/-- Two values of a kind of whole numbers are equal if they have the same measure. -/
theorem valuesEqual_iff (hkind : kind ∈ wholeKinds) :
    valuesEqual kind base style value operand = .ok true ↔ ∃ n,
      kind.measure? base value = some n ∧ kind.measure? base operand = some n := by
  rw [ValueKind.measure?, ValueKind.measure?]
  unfold valuesEqual
  split
  · simp [wholeKinds] at hkind
  · simp [wholeKinds] at hkind
  · simp [wholeKinds] at hkind
  · cases ha : kind.read? base value with
    | none => simp
    | some a =>
      obtain ⟨m, rfl⟩ := exists_number_of_read? hkind ha
      cases hb : kind.read? base operand with
      | none => simp
      | some b =>
        obtain ⟨n, rfl⟩ := exists_number_of_read? hkind hb
        simp [Reading.measure?, Reading.eq, eq_comm]

/-- Only texts are held against patterns, which may have no answer. -/
theorem exists_valuesEqual (hkind : kind ∈ wholeKinds ∨ kind = .date) :
    ∃ answer, valuesEqual kind base style value operand = .ok answer := by
  unfold valuesEqual
  split
  · exact ⟨_, rfl⟩
  · simp [wholeKinds] at hkind
  · simp [wholeKinds] at hkind
  · split
    · exact ⟨_, rfl⟩
    · exact ⟨_, rfl⟩

/-! ## Days -/

theorem readDate?_toText (base : Date) (h : 1000 ≤ d.year) : readDate? base d.toText = some d := by
  rw [readDate?, Date.resolve_toText, Date.ofText?_toText h]

theorem Date.toText_inj (h : 1000 ≤ d.year) : d.toText = e.toText ↔ d = e := by
  refine ⟨fun heq ↦ ?_, congrArg toText⟩
  have he : 1000 ≤ e.year := by
    rw [← length_toText_eq_iff, ← heq, length_toText_eq_iff]
    exact h
  have hread := ofText?_toText he
  rw [← heq, ofText?_toText h] at hread
  exact Option.some.inj hread

theorem valuesEqual_toText_iff (h : 1000 ≤ d.year) :
    valuesEqual .date base style d.toText operand = .ok true ↔ readDate? base operand = some d := by
  rw [valuesEqual, Except.ok.injEq, decide_eq_true_iff]
  cases hoperand : readDate? base operand with
  | none =>
    -- an operand that is the same text would have been read
    simp only [Option.map_none, Option.getD_none, reduceCtorEq, iff_false]
    rintro rfl
    rw [readDate?_toText base h] at hoperand
    cases hoperand
  | some e =>
    rw [Option.map_some, Option.getD_some, Date.toText_inj h, Option.some_inj]
    exact eq_comm

theorem measure?_date_eq_some_iff {n : Int} : ValueKind.date.measure? base v = some n ↔
    ∃ d, readDate? base v = some d ∧ (d.count : Int) = n := by
  rw [ValueKind.measure?, ValueKind.read?]
  cases readDate? base v with
  | none => simp
  | some d => simp [Reading.measure?]

/-! ## The order -/

theorem ValueKind.IsOrdered.valuesEqual_iff (h : kind.IsOrdered value) :
    valuesEqual kind base style value operand = .ok true ↔ ∃ n,
      kind.measure? base value = some n ∧ kind.measure? base operand = some n := by
  rcases h with hkind | ⟨rfl, d, hyear, rfl⟩
  · exact Agenda.valuesEqual_iff hkind
  · rw [Date.toPaddedText_eq_toText hyear, valuesEqual_toText_iff hyear]
    have hvalue : ∀ {n : Int}, date.measure? base d.toText = some n ↔ (d.count : Int) = n := by
      intro n
      rw [measure?_date_eq_some_iff, readDate?_toText base hyear]
      simp
    constructor
    · intro hd
      exact ⟨d.count, hvalue.mpr rfl, measure?_date_eq_some_iff.mpr ⟨d, hd, rfl⟩⟩
    · rintro ⟨n, hn, hoperand⟩
      obtain ⟨e, he, hcount⟩ := measure?_date_eq_some_iff.mp hoperand
      have heq : e.count = d.count := Int.ofNat_inj.mp (hcount.trans (hvalue.mp hn).symm)
      rw [he, Date.count_inj.mp heq]

theorem ValueKind.IsOrdered.valuesEqual_eq (h : kind.IsOrdered value) :
    valuesEqual kind base style value operand = .ok
      (valuesCompare kind base .atMost value operand &&
        valuesCompare kind base .atLeast value operand) := by
  have hkind : kind ∈ wholeKinds ∨ kind = .date := h.imp_right And.left
  have hiff : valuesEqual kind base style value operand = .ok true ↔
      valuesCompare kind base .atMost value operand = true ∧
        valuesCompare kind base .atLeast value operand = true := by
    rw [h.valuesEqual_iff, valuesCompare_iff hkind, valuesCompare_iff hkind]
    constructor
    · rintro ⟨n, hvalue, hoperand⟩
      exact ⟨⟨n, n, hvalue, hoperand, le_rfl⟩, n, n, hvalue, hoperand, le_rfl⟩
    · rintro ⟨⟨m, n, hvalue, hoperand, hle⟩, m', n', hvalue', hoperand', hge⟩
      rw [hvalue, Option.some_inj] at hvalue'
      rw [hoperand, Option.some_inj] at hoperand'
      subst hvalue' hoperand'
      have heq : m = n := le_antisymm hle hge
      exact ⟨m, hvalue, heq ▸ hoperand⟩
  obtain ⟨answer, hanswer⟩ : ∃ answer, valuesEqual kind base style value operand = .ok answer :=
    exists_valuesEqual hkind
  rw [hanswer, Except.ok.injEq, ← Bool.and_eq_true] at hiff
  rw [hanswer, Bool.eq_iff_iff.mpr hiff]

/-- **The order of typed values.** A value equals an operand if it is both at most and at least the
operand, and it is one of the two if both can be read. To be at least is to be at most the other way
round, and to be at most is transitive. -/
theorem valuesCompare_total_preorder (base : Date) (style : PatternStyle) {kind : ValueKind}
    {value : Text} (h : kind.IsOrdered value) (operand : Text) :
    valuesEqual kind base style value operand = .ok
      (valuesCompare kind base .atMost value operand &&
        valuesCompare kind base .atLeast value operand) ∧
    ((∃ bound, valuesCompare kind base bound value operand = true) ↔
      (kind.read? base value).isSome = true ∧ (kind.read? base operand).isSome = true) ∧
    valuesCompare kind base .atLeast value operand =
      valuesCompare kind base .atMost operand value ∧
    ∀ upper, valuesCompare kind base .atMost value operand = true →
      valuesCompare kind base .atMost operand upper = true →
      valuesCompare kind base .atMost value upper = true := by
  have hkind : kind ∈ wholeKinds ∨ kind = .date := h.imp_right And.left
  refine ⟨h.valuesEqual_eq, ?_, ?_, fun upper hle hle' ↦ ?_⟩
  · rw [isSome_read?_iff hkind, isSome_read?_iff hkind]
    constructor
    · rintro ⟨bound, hbound⟩
      obtain ⟨m, n, hvalue, hoperand, -⟩ := (valuesCompare_iff hkind).mp hbound
      exact ⟨⟨m, hvalue⟩, n, hoperand⟩
    · rintro ⟨⟨m, hvalue⟩, n, hoperand⟩
      rcases le_total m n with hle | hle
      · exact ⟨.atMost, (valuesCompare_iff hkind).mpr ⟨m, n, hvalue, hoperand, hle⟩⟩
      · exact ⟨.atLeast, (valuesCompare_iff hkind).mpr ⟨m, n, hvalue, hoperand, hle⟩⟩
  · rw [Bool.eq_iff_iff, valuesCompare_iff hkind, valuesCompare_iff hkind]
    constructor
    · rintro ⟨m, n, hvalue, hoperand, hle⟩
      exact ⟨n, m, hoperand, hvalue, hle⟩
    · rintro ⟨n, m, hoperand, hvalue, hle⟩
      exact ⟨m, n, hvalue, hoperand, hle⟩
  · obtain ⟨m, n, hvalue, hoperand, hmn⟩ := (valuesCompare_iff hkind).mp hle
    obtain ⟨n', k, hoperand', hupper, hnk⟩ := (valuesCompare_iff hkind).mp hle'
    rw [hoperand, Option.some_inj] at hoperand'
    subst hoperand'
    exact (valuesCompare_iff hkind).mpr ⟨m, k, hvalue, hupper, le_trans hmn hnk⟩

theorem valuesCompare_total_preorder_tomorrow :
    let today : Date := ⟨2020, 7, 9, by decide⟩
    ValueKind.date.IsOrdered "2020-07-10".toList ∧
    (∀ bound, valuesCompare .date today bound "2020-07-10".toList "tomorrow".toList = true) ∧
    valuesCompare .date today .atMost "2020-07-10".toList "2w".toList = true := by
  intro today
  have h : ValueKind.date.IsOrdered "2020-07-10".toList :=
    .inr ⟨rfl, ⟨2020, 7, 10, by decide⟩, by decide, by decide⟩
  have hequal : valuesEqual .date today .wildcard "2020-07-10".toList "tomorrow".toList =
      .ok true := by decide +kernel
  rw [(valuesCompare_total_preorder today .wildcard h "tomorrow".toList).1, Except.ok.injEq,
    Bool.and_eq_true] at hequal
  obtain ⟨hle, hge⟩ := hequal
  refine ⟨h, ?_, ?_⟩
  · rintro (_ | _)
    · exact hle
    · exact hge
  · exact (valuesCompare_total_preorder today .wildcard h "tomorrow".toList).2.2.2 "2w".toList
      hle (by decide +kernel)

end Agenda
