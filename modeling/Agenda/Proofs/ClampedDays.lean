import Agenda.DateWord
import Agenda.Proofs.DayCount

/-!
# Days put into a month

A number can be asked of a month that is too short for it, and then it stands for the last day of
that month. So the day of the month depends on the length of the month, which in turn depends on the
year. Seen from the day that comes out, this is no circle: its month has a length, and its day of
the month is what the number becomes in a month of that length
(`Date.ofParts?_monthLength_eq_some_iff`). Every month takes every number in this way, and only the
year can be out of range.
-/

namespace Agenda

variable {a b r : Date} {year month m n : Nat}

namespace Date

theorem ofParts?_monthLength_eq_some_iff {f : Nat → Nat} :
    ofParts? year month (f (monthLength (isLeap year) month)) = some r ↔
      (r.year = year ∧ r.month = month) ∧ r.day = f r.monthDays := by
  rw [ofParts?_eq_some_iff, ← and_assoc, monthDays]
  refine and_congr_right fun h ↦ ?_
  rw [h.1, h.2]

theorem ofParts?_monthLength_eq_none_iff {f : Nat → Nat} (hmonth : 1 ≤ month ∧ month ≤ 12)
    (hf : ∀ length, 28 ≤ length → 1 ≤ f length ∧ f length ≤ length) :
    ofParts? year month (f (monthLength (isLeap year) month)) = none ↔
      ¬ (1 ≤ year ∧ year ≤ 9999) := by
  have hday := hf _ (le_monthLength (isLeap year) hmonth.1 hmonth.2)
  rw [ofParts?, dite_eq_right_iff]
  simp only [reduceCtorEq, imp_false, IsDate, hmonth, hday, and_self, and_true]

end Date

namespace DateWord

/-- The day is the given one of the given month, or the last of that month if it is too short. -/
def FallsOn (m n : Nat) (d : Date) : Prop := d.month = m ∧ d.day = min n d.monthDays

/-- There is one such day a year. -/
theorem FallsOn.le (ha : FallsOn m n a) (hb : FallsOn m n b) (h : a.year ≤ b.year) :
    a.le b = true := by
  rw [Date.le_iff]
  rcases h.lt_or_eq with hyear | hyear
  · exact .inl hyear
  · have hmonth : a.month = b.month := ha.1.trans hb.1.symm
    have hlength : a.monthDays = b.monthDays := by
      rw [Date.monthDays, Date.monthDays, hyear, hmonth]
    exact .inr ⟨hyear, .inr ⟨hmonth, by rw [ha.2, hb.2, hlength]⟩⟩

theorem clampedDay?_eq_some_iff :
    clampedDay? year m n = some r ↔ r.year = year ∧ FallsOn m n r := by
  rw [FallsOn, ← and_assoc]
  exact Date.ofParts?_monthLength_eq_some_iff

theorem clampedDay?_eq_none_iff (hm : 1 ≤ m ∧ m ≤ 12) (hn : 1 ≤ n) :
    clampedDay? year m n = none ↔ ¬ (1 ≤ year ∧ year ≤ 9999) :=
  Date.ofParts?_monthLength_eq_none_iff hm fun _ _ ↦ ⟨by omega, Nat.min_le_right _ _⟩

theorem exists_clampedDay? (base : Date) (hm : 1 ≤ m ∧ m ≤ 12) (hn : 1 ≤ n) :
    ∃ d, clampedDay? base.year m n = some d :=
  Option.ne_none_iff_exists'.mp fun hnone ↦ (clampedDay?_eq_none_iff hm hn).mp hnone base.valid.1

end DateWord

end Agenda
