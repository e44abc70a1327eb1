import Agenda.Calendar.Shift
import Agenda.Text.Basic

/-!
# Units of time

The four units in which an offset is measured, each written as one letter. A count of one unit moves
a day; weeks are seven days, and years twelve months.
-/

namespace Agenda

/-- A unit of time. -/
inductive TimeUnit where
  | day
  | week
  | month
  | year
  deriving DecidableEq, Repr

namespace TimeUnit

/-- The letter of a unit. -/
def letter : TimeUnit → Char
  | day => 'd'
  | week => 'w'
  | month => 'm'
  | year => 'y'

/-- The unit with the given small letter. -/
def ofLetter? : Char → Option TimeUnit
  | 'd' => some day
  | 'w' => some week
  | 'm' => some month
  | 'y' => some year
  | _ => none

/-- The unit with the given letter, small or capital. -/
def ofAnyLetter? : Char → Option TimeUnit
  | 'D' => some day
  | 'W' => some week
  | 'M' => some month
  | 'Y' => some year
  | c => ofLetter? c

@[simp] theorem ofLetter?_letter (u : TimeUnit) : ofLetter? u.letter = some u := by
  cases u <;> rfl

theorem ofLetter?_eq_some_iff {c : Char} {u : TimeUnit} : ofLetter? c = some u ↔ c = u.letter := by
  constructor
  · intro h
    unfold ofLetter? at h
    split at h <;> simp_all [letter] <;> subst h <;> rfl
  · rintro rfl
    exact ofLetter?_letter u

end TimeUnit

namespace Date

/-- The day so many units later, or earlier if the number is negative. Anchoring concerns months and
years only. -/
def add (d : Date) (unit : TimeUnit) (n : Int) (anchored : Bool) : Except CalendarFault Date :=
  match unit with
  | .day => d.addDays n
  | .week => d.addDays (7 * n)
  | .month => d.addMonths n anchored
  | .year => d.addYears n anchored

end Date

end Agenda
