/-!
# Days of the calendar

The calendar is the Gregorian one from the year 1 to the year 9999, continued backwards over its own
introduction. A day is its year, month and day of the month together with the proof that such a day
exists, so every function that returns a day stays in the calendar.

Days are counted from 1 on the first of January of the year 1. The count makes arithmetic in days
and weeks plain addition; `ofCount?` goes back from the count to the day.
-/

namespace Agenda

/-! ## Years and months -/

/-- A leap year is divisible by 4, and by 400 if it is divisible by 100. -/
def isLeap (year : Int) : Bool := year % 4 == 0 && (year % 100 != 0 || year % 400 == 0)

/-- The number of days of a month, zero for a number that is no month. -/
def monthLength (leap : Bool) : Nat → Nat
  | 1 | 3 | 5 | 7 | 8 | 10 | 12 => 31
  | 4 | 6 | 9 | 11 => 30
  | 2 => if leap then 29 else 28
  | _ => 0

theorem monthLength_le (leap : Bool) (month : Nat) : monthLength leap month ≤ 31 := by
  unfold monthLength; split <;> (try split) <;> omega

theorem le_monthLength (leap : Bool) {month : Nat} (h₁ : 1 ≤ month) (h₂ : month ≤ 12) :
    28 ≤ monthLength leap month := by
  have : month = 1 ∨ month = 2 ∨ month = 3 ∨ month = 4 ∨ month = 5 ∨ month = 6 ∨ month = 7 ∨
    month = 8 ∨ month = 9 ∨ month = 10 ∨ month = 11 ∨ month = 12 := by omega
  rcases this with rfl | rfl | rfl | rfl | rfl | rfl | rfl | rfl | rfl | rfl | rfl | rfl <;>
    cases leap <;> decide

/-- Is there such a day? -/
def IsDate (year month day : Nat) : Prop :=
  (1 ≤ year ∧ year ≤ 9999) ∧ (1 ≤ month ∧ month ≤ 12) ∧
    1 ≤ day ∧ day ≤ monthLength (isLeap year) month

instance (year month day : Nat) : Decidable (IsDate year month day) := by
  unfold IsDate; infer_instance

/-- A day of the calendar. -/
structure Date where
  /-- The year, from 1 to 9999. -/
  year : Nat
  /-- The month, from 1 to 12. -/
  month : Nat
  /-- The day of the month, from 1. -/
  day : Nat
  /-- The day exists. -/
  valid : IsDate year month day
  deriving DecidableEq

/-- Why a calculation leaves the calendar. -/
inductive CalendarFault where
  /-- There is no month of this number. -/
  | noMonth (month : Int)
  /-- A month or year was reached that lies outside the years 1 to 9999. -/
  | yearOutside (year : Int)
  /-- A day was reached that lies before the first or after the last day. -/
  | dayOutside
  deriving DecidableEq

namespace Date

/-- The day with these parts, if there is one. -/
def ofParts? (year month day : Nat) : Option Date :=
  if h : IsDate year month day then some ⟨year, month, day, h⟩ else none

theorem ofParts?_self (d : Date) : ofParts? d.year d.month d.day = some d := by
  simp [ofParts?, d.valid]

theorem ofParts?_eq_some_iff {year month day : Nat} {d : Date} :
    ofParts? year month day = some d ↔ d.year = year ∧ d.month = month ∧ d.day = day := by
  constructor
  · intro h
    rw [ofParts?, Option.dite_none_right_eq_some] at h
    obtain ⟨hvalid, hd⟩ := h
    cases hd
    exact ⟨rfl, rfl, rfl⟩
  · rintro ⟨rfl, rfl, rfl⟩
    exact ofParts?_self d

/-- The number of days of the month of a day. -/
def monthDays (d : Date) : Nat := monthLength (isLeap d.year) d.month

/-- Is this the last day of its month? -/
def isMonthEnd (d : Date) : Bool := d.day == d.monthDays

/-! ## The count of days -/

end Date

/-- The number of days before the first of January. -/
def daysBeforeYear (year : Nat) : Nat :=
  365 * (year - 1) + (year - 1) / 4 - (year - 1) / 100 + (year - 1) / 400

/-- The number of days of a year before a month. -/
def daysBeforeMonth (leap : Bool) : Nat → Nat
  | 0 => 0
  | month + 1 => daysBeforeMonth leap month + monthLength leap month

/-- The number of days in the calendar. -/
def dayTotal : Nat := 3652059

/-- The year in which the day with the given count falls. The quotient is the average year; it can
be one year off on either side. -/
def yearOfCount (count : Nat) : Nat :=
  let year := (count - 1) * 400 / 146097 + 1
  if count ≤ daysBeforeYear year then year - 1
  else if daysBeforeYear (year + 1) < count then year + 1
  else year

/-- The month and day of the month at a distance of days from the start of a month, with a bound on
the number of months ahead. -/
def monthDayFrom (leap : Bool) : Nat → Nat → Nat → Nat × Nat
  | 0, month, day => (month, day)
  | fuel + 1, month, day =>
    if day ≤ monthLength leap month then (month, day)
    else monthDayFrom leap fuel (month + 1) (day - monthLength leap month)

namespace Date

/-- The number of a day, counted from 1 on the first day of the year 1. -/
def count (d : Date) : Nat :=
  daysBeforeYear d.year + daysBeforeMonth (isLeap d.year) d.month + d.day

/-- The day with the given number. -/
def ofCount? (count : Nat) : Option Date :=
  let year := yearOfCount count
  let (month, day) := monthDayFrom (isLeap year) 11 1 (count - daysBeforeYear year)
  ofParts? year month day

/-! ## Order -/

/-- The day comes before the other one or is the same. -/
def le (a b : Date) : Bool :=
  a.year < b.year ||
    (a.year == b.year && (a.month < b.month || (a.month == b.month && a.day ≤ b.day)))

/-- The day comes before the other one. -/
def lt (a b : Date) : Bool := !le b a

theorem le_iff {a b : Date} : a.le b = true ↔ a.year < b.year ∨
    a.year = b.year ∧ (a.month < b.month ∨ a.month = b.month ∧ a.day ≤ b.day) := by
  simp [le]

theorem lt_iff {a b : Date} : a.lt b = true ↔ ¬ b.le a = true := by
  simp [lt]

end Date

end Agenda
