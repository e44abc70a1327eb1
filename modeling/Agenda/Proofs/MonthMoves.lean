import Agenda.Proofs.DayCount

/-!
# Moves by months and years

A move by months has two parts that do not depend on each other. The month that it reaches is fixed
by the index of the month alone, and it is in the calendar if its year is; the day of the month is
then kept as well as the length of that month allows. So one equation for the index and one for the
day say all about a move that succeeds (`Date.addMonths_eq_ok_iff`), and the year alone says whether
it does (`Date.addMonths_eq_error_iff`).

Years are moved by on a way of their own, without the index. That comes to the same, faults
included, as moving by twelve times as many months (`Date.addMonths_spec`).
-/

namespace Agenda.Date

variable {a b d r : Date} {year n : Int} {month length : Nat} {anchored : Bool}
  {fault : CalendarFault}

/-! ## The day of the month -/

theorem isMonthEnd_iff : d.isMonthEnd = true ↔ d.day = d.monthDays := beq_iff_eq

theorem day_le_monthDays (d : Date) : d.day ≤ d.monthDays := d.valid.2.2.2

/-- The day of the month after a move into a month of the given length. -/
def keptDay (d : Date) (anchored : Bool) (length : Nat) : Nat :=
  if anchored = true ∧ d.day = d.monthDays then length else min d.day length

theorem keptDay_eq : (if anchored && d.isMonthEnd then length else min d.day length) =
    d.keptDay anchored length := by
  simp only [keptDay, Bool.and_eq_true, isMonthEnd_iff]

theorem keptDay_le : d.keptDay anchored length ≤ length := by
  rw [keptDay]
  split
  · exact le_refl _
  · exact Nat.min_le_right _ _

theorem keptDay_pos (h : 1 ≤ length) : 1 ≤ d.keptDay anchored length := by
  rw [keptDay]
  split
  · exact h
  · exact Nat.le_min.mpr ⟨d.valid.2.2.1, h⟩

theorem keptDay_self (d : Date) (anchored : Bool) : d.keptDay anchored d.monthDays = d.day := by
  rw [keptDay]
  split
  · next h => exact h.2.symm
  · exact Nat.min_eq_left d.day_le_monthDays

/-! ## Into a given month -/

theorem isDate_keptDay (hyear : 1 ≤ year ∧ year ≤ 9999) (hmonth : 1 ≤ month ∧ month ≤ 12) :
    IsDate year.toNat month (d.keptDay anchored (monthLength (isLeap year) month)) := by
  have hcast : (year.toNat : Int) = year := Int.toNat_of_nonneg (by omega)
  have hlength : 28 ≤ monthLength (isLeap year) month := le_monthLength _ hmonth.1 hmonth.2
  refine ⟨by omega, hmonth, keptDay_pos (by omega), ?_⟩
  rw [hcast]
  exact keptDay_le

theorem moveTo_eq (d : Date) (year : Int) (month : Nat) (anchored : Bool) :
    d.moveTo year month anchored =
      match ofParts? year.toNat month (d.keptDay anchored (monthLength (isLeap year) month)) with
      | some r => .ok r
      | none => .error (.yearOutside year) := by
  rw [← keptDay_eq]
  rfl

theorem moveTo_eq_ok_iff :
    d.moveTo year month anchored = .ok r ↔
      (r.year = year ∧ r.month = month) ∧ r.day = d.keptDay anchored r.monthDays := by
  have hparts : d.moveTo year month anchored = .ok r ↔
      ofParts? year.toNat month (d.keptDay anchored (monthLength (isLeap year) month)) =
        some r := by
    rw [moveTo_eq]
    split
    · next h => rw [h, Except.ok.injEq, Option.some_inj]
    · next h => simp [h]
  have hpos : 1 ≤ r.year := r.valid.1.1
  rw [hparts, ofParts?_eq_some_iff, monthDays]
  constructor
  · rintro ⟨hyear, hmonth, hday⟩
    have hcast : (r.year : Int) = year := by omega
    exact ⟨⟨hcast, hmonth⟩, by rw [hcast, hmonth, hday]⟩
  · rintro ⟨⟨hyear, hmonth⟩, hday⟩
    exact ⟨by omega, hmonth, by rw [hday, hyear, hmonth]⟩

theorem moveTo_eq_error_iff (hmonth : 1 ≤ month ∧ month ≤ 12) :
    d.moveTo year month anchored = .error fault ↔
      fault = .yearOutside year ∧ ¬ (1 ≤ year ∧ year ≤ 9999) := by
  by_cases hyear : 1 ≤ year ∧ year ≤ 9999
  · rw [moveTo_eq, ofParts?, dif_pos (isDate_keptDay hyear hmonth)]
    simp [hyear]
  · have hparts : ofParts? year.toNat month
        (d.keptDay anchored (monthLength (isLeap year) month)) = none :=
      dif_neg fun hdate ↦ hyear (by have := hdate.1; omega)
    rw [moveTo_eq, hparts]
    simp only [Except.error.injEq, hyear, not_false_eq_true, and_true]
    exact eq_comm

/-! ## By months -/

theorem monthIndex_inj : a.monthIndex = b.monthIndex ↔ a.year = b.year ∧ a.month = b.month := by
  have ha := a.valid.2.1
  have hb := b.valid.2.1
  rw [monthIndex, monthIndex]
  omega

theorem monthDays_congr (h : a.monthIndex = b.monthIndex) : a.monthDays = b.monthDays := by
  obtain ⟨hyear, hmonth⟩ := monthIndex_inj.mp h
  rw [monthDays, monthDays, hyear, hmonth]

theorem addMonths_eq_ok_iff : d.addMonths n anchored = .ok r ↔
    r.monthIndex = d.monthIndex + n ∧ r.day = d.keptDay anchored r.monthDays := by
  have hmonth := r.valid.2.1
  have hindex : (r.year = (d.monthIndex + n) / 12 ∧
      r.month = ((d.monthIndex + n) % 12).toNat + 1) ↔ r.monthIndex = d.monthIndex + n := by
    rw [monthIndex.eq_def r]
    omega
  rw [addMonths, moveTo_eq_ok_iff, hindex]

theorem addMonths_eq_error_iff : d.addMonths n anchored = .error fault ↔
    fault = .yearOutside ((d.monthIndex + n) / 12) ∧
      ¬ (1 ≤ (d.monthIndex + n) / 12 ∧ (d.monthIndex + n) / 12 ≤ 9999) := by
  rw [addMonths, moveTo_eq_error_iff (by omega)]

/-- **Moves by months and years.** With the months of all years numbered through, a move by months
goes forwards or backwards by so many of these numbers, to the last day of the month if the move is
anchored and starts on one, and otherwise to the same day of the month as far as the month has one.
It fails exactly if the year that it leads to is not in the calendar. A move by years is a move by
twelve times as many months, failures included. -/
theorem addMonths_spec (d : Date) (n : Int) (backwards anchored : Bool) :
    let signed : Int → Int := fun k ↦ if backwards then -k else k
    let year : Int := (12 * d.year + d.month + signed n - 1) / 12
    (∀ r : Date, d.addMonths (signed n) anchored = .ok r ↔
      12 * (r.year : Int) + r.month = 12 * d.year + d.month + signed n ∧
        r.day = if anchored = true ∧ d.day = d.monthDays then r.monthDays
          else min d.day r.monthDays) ∧
    (∀ fault, d.addMonths (signed n) anchored = .error fault ↔
      fault = .yearOutside year ∧ ¬ (1 ≤ year ∧ year ≤ 9999)) ∧
    d.addYears (signed n) anchored = d.addMonths (signed (12 * n)) anchored := by
  intro signed year
  -- the year is the quotient of the index of the month
  have hyear : year = (d.monthIndex + signed n) / 12 := by
    rw [monthIndex]
    omega
  refine ⟨fun r ↦ ?_, fun fault ↦ ?_, ?_⟩
  · rw [addMonths_eq_ok_iff, monthIndex, monthIndex, keptDay]
    exact and_congr_left fun _ ↦ by omega
  · rw [addMonths_eq_error_iff, hyear]
  · have hsigned : signed (12 * n) = 12 * signed n := by
      cases backwards
      · rfl
      · exact (Int.mul_neg 12 n).symm
    rw [addYears_eq_addMonths, hsigned]

example : (⟨2020, 1, 31, by decide⟩ : Date).addMonths 1 false = .ok ⟨2020, 2, 29, by decide⟩ := rfl

end Agenda.Date
