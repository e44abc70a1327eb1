import Agenda.Calendar.Shift
import Mathlib.Algebra.Order.Group.Nat
import Mathlib.Order.Monotone.Basic
import Mathlib.Tactic.Common

/-!
# The number of a day

The days of the calendar are numbered from 1 to `dayTotal` in their order, without a gap. So the
number is a complete view of a day: two days are the same if their numbers are
(`Date.count_inj`), the order of days is the order of the numbers (`Date.le_iff_count_le`), and a
number belongs to a day exactly if it is in range (`Date.exists_count_eq_iff`).

## From the number to the day

`Date.ofCount?` goes back from a number to its day. It estimates the year by the average length of
a year and corrects the estimate by at most one year, then it takes off the months of that year one
by one. What the estimate may be off by does not enter into anything else: a year is the year of a
number if the number lies between the first of January of that year and of the next
(`yearOfCount_eq`), and that fixes the year.
-/

namespace Agenda

/-! ## Years -/

theorem isLeap_iff {year : Nat} :
    isLeap year = true ↔ 4 ∣ year ∧ (¬ 100 ∣ year ∨ 400 ∣ year) := by
  simp only [isLeap, Bool.and_eq_true, Bool.or_eq_true, beq_iff_eq, bne_iff_ne]
  omega

theorem daysBeforeMonth_mono (leap : Bool) : Monotone (daysBeforeMonth leap) :=
  monotone_nat_of_le_succ fun _ ↦ Nat.le_add_right _ _

theorem daysBeforeMonth_thirteen (leap : Bool) :
    daysBeforeMonth leap 13 = if leap then 366 else 365 := by
  cases leap <;> rfl

theorem daysBeforeYear_succ {year : Nat} (h : 1 ≤ year) :
    daysBeforeYear (year + 1) = daysBeforeYear year + daysBeforeMonth (isLeap year) 13 := by
  obtain ⟨before, rfl⟩ := Nat.exists_eq_add_of_le' h
  -- the leap day is what the fourth, hundredth and four-hundredth years add up to
  have hlength : (if isLeap (before + 1 : Nat) = true then 366 else 365) +
      (if 100 ∣ before + 1 then 1 else 0) =
        365 + (if 4 ∣ before + 1 then 1 else 0) + (if 400 ∣ before + 1 then 1 else 0) := by
    simp only [isLeap_iff]
    split_ifs <;> omega
  have hle : ∀ n, n / 100 ≤ n / 4 := fun n ↦ Nat.div_le_div_left (by decide) (by decide)
  have hbefore := hle before
  have hafter := hle (before + 1)
  rw [daysBeforeMonth_thirteen, daysBeforeYear, daysBeforeYear, Nat.add_sub_cancel,
    Nat.add_sub_cancel]
  rw [Nat.succ_div, Nat.succ_div] at hafter ⊢
  rw [Nat.succ_div]
  omega

theorem daysBeforeYear_mono : Monotone daysBeforeYear := by
  refine monotone_nat_of_le_succ fun year ↦ ?_
  rcases Nat.eq_zero_or_pos year with rfl | hpos
  · rfl
  · rw [daysBeforeYear_succ hpos]
    exact Nat.le_add_right _ _

theorem daysBeforeYear_calendarEnd : daysBeforeYear 10000 = dayTotal := rfl

/-- The estimate is corrected to the year in which the day falls. -/
theorem yearOfCount_spec {count : Nat} (h : 1 ≤ count) : 1 ≤ yearOfCount count ∧
    daysBeforeYear (yearOfCount count) < count ∧
    count ≤ daysBeforeYear (yearOfCount count + 1) := by
  simp only [yearOfCount]
  split
  · simp only [daysBeforeYear] at *
    omega
  · split
    · simp only [daysBeforeYear] at *
      omega
    · omega

theorem yearOfCount_eq {count year : Nat} (hlo : daysBeforeYear year < count)
    (hhi : count ≤ daysBeforeYear (year + 1)) : yearOfCount count = year := by
  obtain ⟨-, hlo', hhi'⟩ := yearOfCount_spec (Nat.one_le_of_lt hlo)
  have hle : ∀ {a b : Nat}, daysBeforeYear a < count → count ≤ daysBeforeYear (b + 1) → a ≤ b := by
    intro a b ha hb
    by_contra hba
    have hmono : daysBeforeYear (b + 1) ≤ daysBeforeYear a :=
      daysBeforeYear_mono (Nat.succ_le_of_lt (Nat.not_le.mp hba))
    omega
  exact Nat.le_antisymm (hle hlo' hhi) (hle hlo hhi')

/-! ## Months -/

/-- The months passed over are days passed over. -/
theorem daysBeforeMonth_monthDayFrom (leap : Bool) (fuel month day : Nat) :
    daysBeforeMonth leap (monthDayFrom leap fuel month day).1 + (monthDayFrom leap fuel month day).2
      = daysBeforeMonth leap month + day := by
  induction fuel generalizing month day with
  | zero => rfl
  | succ fuel ih =>
    rw [monthDayFrom]
    split
    · rfl
    · rw [ih, daysBeforeMonth]
      omega

theorem monthDayFrom_eq {leap : Bool} {fuel month k day n : Nat} (hfuel : k ≤ fuel)
    (hpos : 1 ≤ day) (hle : day ≤ monthLength leap (month + k))
    (hn : daysBeforeMonth leap month + n = daysBeforeMonth leap (month + k) + day) :
    monthDayFrom leap fuel month n = (month + k, day) := by
  induction fuel generalizing month k n with
  | zero =>
    obtain rfl : k = 0 := Nat.le_zero.mp hfuel
    obtain rfl : n = day := Nat.add_left_cancel hn
    rfl
  | succ fuel ih =>
    rw [monthDayFrom]
    cases k with
    | zero =>
      obtain rfl : n = day := Nat.add_left_cancel hn
      exact if_pos hle
    | succ k =>
      have hpassed : daysBeforeMonth leap (month + 1) ≤ daysBeforeMonth leap (month + (k + 1)) :=
        daysBeforeMonth_mono leap (by omega)
      rw [daysBeforeMonth] at hpassed
      have hshift : month + 1 + k = month + (k + 1) := by omega
      rw [if_neg (by omega), ih (Nat.le_of_succ_le_succ hfuel) (by rwa [hshift])
        (by rw [hshift, daysBeforeMonth]; omega), hshift]

theorem exists_month_of_le {leap : Bool} {n : Nat} (months : Nat) (hpos : 1 ≤ n)
    (hle : n ≤ daysBeforeMonth leap (months + 1)) :
    ∃ month day, (1 ≤ month ∧ month ≤ months) ∧ (1 ≤ day ∧ day ≤ monthLength leap month) ∧
      daysBeforeMonth leap month + day = n := by
  induction months with
  | zero =>
    have hzero : daysBeforeMonth leap (0 + 1) = 0 := rfl
    omega
  | succ months ih =>
    rcases Nat.lt_or_ge (daysBeforeMonth leap (months + 1)) n with hlast | hearlier
    · obtain ⟨day, rfl⟩ := Nat.exists_eq_add_of_le hlast.le
      have hday : day ≤ monthLength leap (months + 1) := Nat.le_of_add_le_add_left hle
      exact ⟨months + 1, day, by omega, by omega, rfl⟩
    · obtain ⟨month, day, hmonth, hday, hn⟩ := ih hearlier
      exact ⟨month, day, by omega, hday, hn⟩

namespace Date

variable {a b d : Date} {n : Nat}

/-! ## Days -/

theorem ext_parts (hy : a.year = b.year) (hm : a.month = b.month) (hd : a.day = b.day) : a = b := by
  obtain ⟨y, m, n, h⟩ := a
  obtain ⟨y', m', n', h'⟩ := b
  cases hy
  cases hm
  cases hd
  rfl

/-- The number of a day within its year. -/
def dayOfYear (d : Date) : Nat := daysBeforeMonth (isLeap d.year) d.month + d.day

theorem count_eq (d : Date) : d.count = daysBeforeYear d.year + d.dayOfYear := Nat.add_assoc ..

theorem dayOfYear_le (d : Date) :
    d.dayOfYear ≤ daysBeforeMonth (isLeap d.year) (d.month + 1) :=
  Nat.add_le_add_left d.valid.2.2.2 _

theorem dayOfYear_pos (d : Date) : 1 ≤ d.dayOfYear := d.valid.2.2.1.trans (Nat.le_add_left _ _)

theorem count_le_daysBeforeYear (d : Date) : d.count ≤ daysBeforeYear (d.year + 1) := by
  rw [count_eq, daysBeforeYear_succ d.valid.1.1]
  refine Nat.add_le_add_left (d.dayOfYear_le.trans ?_) _
  exact daysBeforeMonth_mono _ (Nat.succ_le_succ d.valid.2.1.2)

theorem daysBeforeYear_lt_count (d : Date) : daysBeforeYear d.year < d.count := by
  rw [count_eq]
  exact Nat.lt_add_of_pos_right d.dayOfYear_pos

theorem count_pos (d : Date) : 1 ≤ d.count := Nat.one_le_of_lt d.daysBeforeYear_lt_count

theorem count_le (d : Date) : d.count ≤ dayTotal :=
  d.count_le_daysBeforeYear.trans (daysBeforeYear_mono (Nat.succ_le_succ d.valid.1.2))

/-! ## The order of the numbers -/

theorem count_lt_of_year_lt (h : a.year < b.year) : a.count < b.count :=
  calc a.count
      ≤ daysBeforeYear (a.year + 1) := a.count_le_daysBeforeYear
    _ ≤ daysBeforeYear b.year := daysBeforeYear_mono h
    _ < b.count := b.daysBeforeYear_lt_count

theorem count_lt_of_month_lt (hyear : a.year = b.year) (h : a.month < b.month) :
    a.count < b.count := by
  rw [count_eq, count_eq, hyear]
  refine Nat.add_lt_add_left ?_ _
  calc a.dayOfYear
      ≤ daysBeforeMonth (isLeap a.year) (a.month + 1) := a.dayOfYear_le
    _ ≤ daysBeforeMonth (isLeap a.year) b.month := daysBeforeMonth_mono _ h
    _ < daysBeforeMonth (isLeap a.year) b.month + b.day := Nat.lt_add_of_pos_right b.valid.2.2.1
    _ = b.dayOfYear := by rw [dayOfYear, hyear]

/-- Days come in the order of their numbers. -/
theorem le_iff_count_le : a.le b = true ↔ a.count ≤ b.count := by
  have hsame : ∀ {a b : Date}, a.year = b.year → a.month = b.month →
      (a.count ≤ b.count ↔ a.day ≤ b.day) := by
    intro a b hyear hmonth
    rw [count_eq, count_eq, dayOfYear, dayOfYear, hyear, hmonth]
    omega
  rw [le_iff]
  rcases Nat.lt_trichotomy a.year b.year with hyear | hyear | hyear
  · exact iff_of_true (.inl hyear) (count_lt_of_year_lt hyear).le
  · rcases Nat.lt_trichotomy a.month b.month with hmonth | hmonth | hmonth
    · exact iff_of_true (.inr ⟨hyear, .inl hmonth⟩) (count_lt_of_month_lt hyear hmonth).le
    · rw [hsame hyear hmonth]
      omega
    · refine iff_of_false (by omega) (Nat.not_le.mpr (count_lt_of_month_lt hyear.symm hmonth))
  · exact iff_of_false (by omega) (Nat.not_le.mpr (count_lt_of_year_lt hyear))

theorem lt_iff_count_lt : a.lt b = true ↔ a.count < b.count := by
  rw [lt_iff, le_iff_count_le, Nat.not_le]

protected theorem le_refl (d : Date) : d.le d = true := le_iff_count_le.mpr (Nat.le_refl _)

protected theorem lt_irrefl (d : Date) : ¬ d.lt d = true := by
  rw [lt_iff_count_lt]
  exact Nat.lt_irrefl _

protected theorem le_trans (hab : a.le b = true) (hbd : b.le d = true) : a.le d = true := by
  rw [le_iff_count_le] at hab hbd ⊢
  exact Nat.le_trans hab hbd

theorem count_inj : a.count = b.count ↔ a = b := by
  constructor
  · intro h
    have hab := le_iff.mp (le_iff_count_le.mpr h.le)
    have hba := le_iff.mp (le_iff_count_le.mpr h.ge)
    exact ext_parts (by omega) (by omega) (by omega)
  · rintro rfl
    rfl

/-! ## From numbers to days -/

/-- The numbers in range are those of the days. -/
theorem exists_count_eq_iff : (∃ d : Date, d.count = n) ↔ 1 ≤ n ∧ n ≤ dayTotal := by
  constructor
  · rintro ⟨d, rfl⟩
    exact ⟨d.count_pos, d.count_le⟩
  · rintro ⟨hpos, hle⟩
    obtain ⟨hyear, hlo, hhi⟩ := yearOfCount_spec hpos
    -- the number lies within a year of the calendar and so within a month of that year
    have hlast : yearOfCount n ≤ 9999 := by
      by_contra hlate
      have hmono : daysBeforeYear 10000 ≤ daysBeforeYear (yearOfCount n) :=
        daysBeforeYear_mono (Nat.succ_le_of_lt (Nat.not_le.mp hlate))
      rw [daysBeforeYear_calendarEnd] at hmono
      omega
    rw [daysBeforeYear_succ hyear] at hhi
    obtain ⟨inYear, hinYear⟩ := Nat.exists_eq_add_of_le hlo.le
    have hlength : inYear ≤ daysBeforeMonth (isLeap (yearOfCount n)) 13 := by omega
    obtain ⟨month, day, hmonth, hday, hparts⟩ := exists_month_of_le 12 (by omega) hlength
    refine ⟨⟨yearOfCount n, month, day, ⟨hyear, hlast⟩, hmonth, hday⟩, ?_⟩
    rw [count_eq, dayOfYear, hparts, ← hinYear]

theorem ofCount?_count (d : Date) : ofCount? d.count = some d := by
  have hyear : yearOfCount d.count = d.year :=
    yearOfCount_eq d.daysBeforeYear_lt_count d.count_le_daysBeforeYear
  obtain ⟨k, hk⟩ := Nat.exists_eq_add_of_le d.valid.2.1.1
  have hmonth : monthDayFrom (isLeap d.year) 11 1 (d.count - daysBeforeYear d.year) =
      (d.month, d.day) := by
    have hlast := d.valid.2.1.2
    have hlength := d.valid.2.2.2
    rw [count_eq, Nat.add_sub_cancel_left, hk]
    refine monthDayFrom_eq (by omega) d.valid.2.2.1 (hk ▸ hlength) ?_
    rw [dayOfYear, hk]
    exact Nat.zero_add _
  simp only [ofCount?, hyear, hmonth, ofParts?_self]

/-- The day found is the one with that number. -/
theorem ofCount?_eq_some_iff : ofCount? n = some d ↔ d.count = n := by
  constructor
  · intro h
    simp only [ofCount?] at h
    obtain ⟨hyear, hmonth, hday⟩ := ofParts?_eq_some_iff.mp h
    have hparts := daysBeforeMonth_monthDayFrom (isLeap (yearOfCount n)) 11 1
      (n - daysBeforeYear (yearOfCount n))
    have hzero : daysBeforeMonth (isLeap (yearOfCount n)) 1 = 0 := rfl
    rw [← hmonth, ← hday, ← hyear, ← dayOfYear] at hparts
    rw [← hyear] at hzero
    have hpos := d.dayOfYear_pos
    rw [count_eq]
    omega
  · rintro rfl
    exact ofCount?_count d

theorem ofCount?_eq_none_iff : ofCount? n = none ↔ ¬ (1 ≤ n ∧ n ≤ dayTotal) := by
  rw [← exists_count_eq_iff, Option.eq_none_iff_forall_ne_some, not_exists]
  exact forall_congr' fun d ↦ not_congr ofCount?_eq_some_iff

end Date

end Agenda
