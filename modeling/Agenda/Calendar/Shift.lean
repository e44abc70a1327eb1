import Agenda.Calendar.Date

/-!
# Moving through the calendar

Three ways to move: by days, by months and by years. A move by months or years keeps the day of the
month where it can and clamps it to the last day of a shorter month, so the last of January moved by
one month is the end of February and never a day in March. A move may also be anchored at the end of
the month: then the last day of a month goes to the last day of a month.

A move fails only by leaving the calendar, and the fault tells the two cases apart: a year outside
1 to 9999 that was computed, or a count of days beyond either end.
-/

namespace Agenda.Date

/-! ## Days -/

/-- The day so many days later, or earlier if the number is negative. -/
def addDays (d : Date) (n : Int) : Except CalendarFault Date :=
  match if d.count + n < 0 then none else ofCount? (d.count + n).toNat with
  | some r => .ok r
  | none => .error .dayOutside

/-! ## Months and years -/

/-- The day in the given month with the same day of the month, clamped to the length of that month.
An anchored move takes the last day of a month to the last day. -/
def moveTo (d : Date) (year : Int) (month : Nat) (anchored : Bool) : Except CalendarFault Date :=
  let last := monthLength (isLeap year) month
  match ofParts? year.toNat month (if anchored && d.isMonthEnd then last else min d.day last) with
  | some r => .ok r
  | none => .error (.yearOutside year)

/-- The number of a month: twelve for each year, and the months of the year from zero. -/
def monthIndex (d : Date) : Int := 12 * d.year + (d.month - 1)

/-- The day so many months later, or earlier if the number is negative. -/
def addMonths (d : Date) (n : Int) (anchored : Bool) : Except CalendarFault Date :=
  let index := d.monthIndex + n
  d.moveTo (index / 12) ((index % 12).toNat + 1) anchored

/-- The day so many years later, or earlier if the number is negative. -/
def addYears (d : Date) (n : Int) (anchored : Bool) : Except CalendarFault Date :=
  d.moveTo (d.year + n) d.month anchored

theorem addYears_eq_addMonths (d : Date) (n : Int) (anchored : Bool) :
    d.addYears n anchored = d.addMonths (12 * n) anchored := by
  have hm := d.valid.2.1
  have hdiv : (d.monthIndex + 12 * n) / 12 = d.year + n := by unfold monthIndex; omega
  have hmod : ((d.monthIndex + 12 * n) % 12).toNat + 1 = d.month := by unfold monthIndex; omega
  rw [addYears, addMonths, hdiv, hmod]

/-- The first day of the following month. -/
def firstOfNextMonth (d : Date) : Except CalendarFault Date :=
  let index := d.monthIndex + 1
  match ofParts? (index / 12).toNat ((index % 12).toNat + 1) 1 with
  | some r => .ok r
  | none => .error (.yearOutside (index / 12))

/-- The last day of the same month. -/
def lastOfMonth (d : Date) : Date where
  year := d.year
  month := d.month
  day := d.monthDays
  valid := ⟨d.valid.1, d.valid.2.1,
    Nat.le_trans (by decide) (le_monthLength _ d.valid.2.1.1 d.valid.2.1.2), Nat.le_refl _⟩

/-! ## Weekdays -/

/-- The day of the week, Monday being 1 and Sunday 7. -/
def weekday (d : Date) : Nat := (d.count + 6) % 7 + 1

/-- The nearest day with the given weekday after the given one, and so many weeks on. The day itself
is never the answer. -/
def closestWeekday (d : Date) (weekday weeks : Int) : Except CalendarFault Date :=
  let ahead := weekday - d.weekday
  d.addDays (7 * weeks + if 0 < ahead then ahead else 7 + ahead)

/-- The day with the given weekday in the week after the nearest one. -/
def nextWeekday (d : Date) (weekday : Int) : Except CalendarFault Date :=
  d.closestWeekday weekday 1

end Agenda.Date
