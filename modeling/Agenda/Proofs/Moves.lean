import Agenda.Calendar.Unit
import Agenda.Proofs.MonthMoves

/-!
# Moves by units

A week is seven days and a year is twelve months, so every unit is a number of days or a number of
months (`TimeUnit.exists_factor`), and what holds of all moves is shown in two cases. For days it is
arithmetic on the numbers of the days. For months the index of the month comes first, and only where
two months are the same does the day of the month decide.

Three laws follow. Moves keep the order of days although they merge some (`Date.add_le_add`); a
move by a positive count goes forwards (`Date.lt_add`); and a move that is taken back leads to the
day it started on, unless the day of the month was clamped on the way (`Date.add_neg_of_days`,
`Date.exists_add_neg_of_months`).
-/

namespace Agenda

theorem TimeUnit.exists_factor (unit : TimeUnit) : ∃ k : Int, 0 < k ∧
    ((unit = .day ∨ unit = .week) ∧
      (∀ (d : Date) (n : Int) (anchored : Bool), d.add unit n anchored = d.addDays (k * n)) ∨
    (unit = .month ∨ unit = .year) ∧
      ∀ (d : Date) (n : Int) (anchored : Bool),
        d.add unit n anchored = d.addMonths (k * n) anchored) := by
  cases unit with
  | day => exact ⟨1, by decide, .inl ⟨.inl rfl, fun d n _ ↦ by rw [Int.one_mul]; rfl⟩⟩
  | week => exact ⟨7, by decide, .inl ⟨.inr rfl, fun _ _ _ ↦ rfl⟩⟩
  | month => exact ⟨1, by decide, .inr ⟨.inl rfl, fun d n _ ↦ by rw [Int.one_mul]; rfl⟩⟩
  | year => exact ⟨12, by decide, .inr ⟨.inr rfl, fun d n _ ↦ Date.addYears_eq_addMonths d n _⟩⟩

theorem TimeUnit.not_months_of_days {unit : TimeUnit} (h : unit = .day ∨ unit = .week) :
    ¬ (unit = .month ∨ unit = .year) := by
  rcases h with rfl | rfl <;> simp

namespace Date

variable {a b d r ra rb : Date} {n : Int} {length : Nat} {unit : TimeUnit} {anchored : Bool}
  {fault : CalendarFault}

/-! ## Days -/

theorem addDays_eq_ok_iff : d.addDays n = .ok r ↔ (r.count : Int) = d.count + n := by
  have hfound : (if d.count + n < 0 then none else ofCount? (d.count + n).toNat) = some r ↔
      (r.count : Int) = d.count + n := by
    split
    · next hneg => exact iff_of_false (by simp) (by omega)
    · next hpos =>
      rw [ofCount?_eq_some_iff]
      omega
  rw [← hfound, addDays]
  split
  · next h => rw [h, Except.ok.injEq, Option.some_inj]
  · next h => simp [h]

theorem addDays_eq_error_iff : d.addDays n = .error fault ↔
    fault = .dayOutside ∧ ¬ (1 ≤ d.count + n ∧ d.count + n ≤ dayTotal) := by
  have hnone : (if d.count + n < 0 then none else ofCount? (d.count + n).toNat) = none ↔
      ¬ (1 ≤ d.count + n ∧ d.count + n ≤ dayTotal) := by
    split
    · next hneg => exact iff_of_true rfl (by omega)
    · next hpos =>
      rw [ofCount?_eq_none_iff]
      omega
  rw [← hnone, addDays]
  split
  · next h => simp [h]
  · next h =>
    simp only [h, Except.error.injEq, and_true]
    exact eq_comm

/-! ## Months -/

theorem le_iff_monthIndex : a.le b = true ↔
    a.monthIndex < b.monthIndex ∨ a.monthIndex = b.monthIndex ∧ a.day ≤ b.day := by
  have ha := a.valid.2.1
  have hb := b.valid.2.1
  rw [le_iff, monthIndex, monthIndex]
  omega

theorem lt_of_monthIndex_lt (h : a.monthIndex < b.monthIndex) : a.lt b = true := by
  rw [lt_iff, le_iff_monthIndex]
  omega

/-- Within a month, the last day has none after it. So an anchored move keeps the order too. -/
theorem keptDay_mono (hmonth : a.monthIndex = b.monthIndex) (hday : a.day ≤ b.day) :
    a.keptDay anchored length ≤ b.keptDay anchored length := by
  have hdays : a.monthDays = b.monthDays := monthDays_congr hmonth
  have hlast : b.day ≤ b.monthDays := b.day_le_monthDays
  by_cases hb : anchored = true ∧ b.day = b.monthDays
  · rw [keptDay.eq_def b, if_pos hb]
    exact keptDay_le
  · have ha : ¬ (anchored = true ∧ a.day = a.monthDays) := by
      rintro ⟨hanchored, hend⟩
      exact hb ⟨hanchored, by omega⟩
    rw [keptDay, keptDay, if_neg ha, if_neg hb]
    omega

theorem keptDay_false : d.keptDay false length = min d.day length := by
  rw [keptDay, if_neg (by simp)]

/-! ## Units -/

/-- A move leads out of the calendar: past its first or last day, or into a year that it does not
have. -/
def Leaves (d : Date) : TimeUnit → Int → Prop
  | .day, n => ¬ (1 ≤ d.count + n ∧ d.count + n ≤ dayTotal)
  | .week, n => ¬ (1 ≤ d.count + 7 * n ∧ d.count + 7 * n ≤ dayTotal)
  | .month, n => ¬ (1 ≤ (d.monthIndex + n) / 12 ∧ (d.monthIndex + n) / 12 ≤ 9999)
  | .year, n => ¬ (1 ≤ d.year + n ∧ d.year + n ≤ 9999)

instance (d : Date) : (unit : TimeUnit) → (n : Int) → Decidable (d.Leaves unit n)
  | .day, _ => inferInstanceAs (Decidable (¬ (_ ∧ _)))
  | .week, _ => inferInstanceAs (Decidable (¬ (_ ∧ _)))
  | .month, _ => inferInstanceAs (Decidable (¬ (_ ∧ _)))
  | .year, _ => inferInstanceAs (Decidable (¬ (_ ∧ _)))

/-- A move fails exactly if it leads out of the calendar. -/
theorem exists_add_eq_error_iff :
    (∃ fault, d.add unit n anchored = .error fault) ↔ d.Leaves unit n := by
  cases unit with
  | day => simp only [add, addDays_eq_error_iff, exists_eq_left, Leaves]
  | week => simp only [add, addDays_eq_error_iff, exists_eq_left, Leaves]
  | month => simp only [add, addMonths_eq_error_iff, exists_eq_left, Leaves]
  | year => simp only [add, addYears, moveTo_eq_error_iff d.valid.2.1, exists_eq_left, Leaves]

/-! ## Order -/

theorem add_le_add (hle : a.le b = true) (ha : a.add unit n anchored = .ok ra)
    (hb : b.add unit n anchored = .ok rb) : ra.le rb = true := by
  obtain ⟨k, -, ⟨-, hadd⟩ | ⟨-, hadd⟩⟩ := unit.exists_factor
  · rw [hadd, addDays_eq_ok_iff] at ha hb
    rw [le_iff_count_le] at hle ⊢
    omega
  · rw [hadd, addMonths_eq_ok_iff] at ha hb
    rw [le_iff_monthIndex] at hle ⊢
    rcases hle with hmonth | ⟨hmonth, hday⟩
    · left
      omega
    · have hindex : ra.monthIndex = rb.monthIndex := by omega
      refine .inr ⟨hindex, ?_⟩
      rw [ha.2, hb.2, monthDays_congr hindex]
      exact keptDay_mono hmonth hday

theorem add_zero (d : Date) (unit : TimeUnit) (anchored : Bool) :
    d.add unit 0 anchored = .ok d := by
  obtain ⟨k, -, ⟨-, hadd⟩ | ⟨-, hadd⟩⟩ := unit.exists_factor
  · rw [hadd, addDays_eq_ok_iff, Int.mul_zero, Int.add_zero]
  · rw [hadd, addMonths_eq_ok_iff, Int.mul_zero, Int.add_zero, keptDay_self]
    exact ⟨rfl, rfl⟩

theorem lt_add (hn : 0 < n) (h : d.add unit n anchored = .ok r) : d.lt r = true := by
  obtain ⟨k, hk, hadd⟩ := unit.exists_factor
  have hpos : 0 < k * n := Int.mul_pos hk hn
  rcases hadd with ⟨-, hadd⟩ | ⟨-, hadd⟩
  · rw [hadd, addDays_eq_ok_iff] at h
    rw [lt_iff_count_lt]
    omega
  · rw [hadd, addMonths_eq_ok_iff] at h
    exact lt_of_monthIndex_lt (by omega)

theorem le_add (hn : 0 ≤ n) (h : d.add unit n anchored = .ok r) : d.le r = true := by
  rcases hn.eq_or_lt with rfl | hpos
  · rw [add_zero] at h
    cases h
    exact d.le_refl
  · have hlt := lt_add hpos h
    rw [lt_iff_count_lt] at hlt
    exact le_iff_count_le.mpr hlt.le

/-! ## There and back -/

theorem add_neg_of_days (hunit : unit = .day ∨ unit = .week) (h : d.add unit n anchored = .ok r) :
    r.add unit (-n) anchored = .ok d := by
  obtain ⟨k, -, ⟨-, hadd⟩ | ⟨hmonths, -⟩⟩ := unit.exists_factor
  · rw [hadd, addDays_eq_ok_iff] at h ⊢
    rw [Int.mul_neg]
    omega
  · exact absurd hmonths (TimeUnit.not_months_of_days hunit)

/-- The opposite of a move by months or years leads back to the month, and to the day of the month
as far as the month on the way has one. -/
theorem exists_add_neg_of_months (hunit : unit = .month ∨ unit = .year)
    (h : d.add unit n false = .ok r) : ∃ back : Date, r.add unit (-n) false = .ok back ∧
      (back.year = d.year ∧ back.month = d.month) ∧ back.day = min d.day r.monthDays := by
  obtain ⟨k, -, ⟨hdays, -⟩ | ⟨-, hadd⟩⟩ := unit.exists_factor
  · exact absurd hunit (TimeUnit.not_months_of_days hdays)
  · rw [hadd, addMonths_eq_ok_iff, keptDay_false] at h
    have hday : d.day ≤ d.monthDays := d.day_le_monthDays
    have hvalid : IsDate d.year d.month (min d.day r.monthDays) :=
      ⟨d.valid.1, d.valid.2.1, h.2 ▸ r.valid.2.2.1, (Nat.min_le_left _ _).trans hday⟩
    obtain ⟨back, hmonth, hback⟩ : ∃ back : Date,
        (back.year = d.year ∧ back.month = d.month) ∧ back.day = min d.day r.monthDays :=
      ⟨⟨d.year, d.month, _, hvalid⟩, ⟨rfl, rfl⟩, rfl⟩
    -- the month of the start is long enough for the day that is left of the start
    have hindex : back.monthIndex = d.monthIndex := monthIndex_inj.mpr hmonth
    refine ⟨back, ?_, hmonth, hback⟩
    rw [hadd, addMonths_eq_ok_iff, keptDay_false, monthDays_congr hindex, Int.mul_neg]
    omega

end Date

end Agenda
