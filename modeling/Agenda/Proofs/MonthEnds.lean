import Agenda.Proofs.OffsetParts

/-!
# From month end to month end

A day at the end of its month is fixed by the month alone, and an offset is anchored: from such a
day, a part that counts months or years leads to the end of the month it reaches. So nothing but the
index of the month is carried along a row of such parts, and the indices add up. The lengths of the
months on the way, and leap years among them, have no say.

A move that is not anchored would lose the end of the month at the first short month, and all that
follows would be up to three days early.
-/

namespace Agenda

variable {base d r : Date} {n index : Int}

/-! ## Ends of months -/

namespace Date

theorem eq_of_monthIndex_eq {a b : Date} (ha : a.day = a.monthDays) (hb : b.day = b.monthDays)
    (h : a.monthIndex = b.monthIndex) : a = b := by
  obtain ⟨hyear, hmonth⟩ := monthIndex_inj.mp h
  exact ext_parts hyear hmonth (by rw [ha, hb, monthDays_congr h])

theorem exists_monthEnd (h : 1 ≤ index / 12 ∧ index / 12 ≤ 9999) :
    ∃ d : Date, d.monthIndex = index ∧ d.day = d.monthDays := by
  have hmonth : 1 ≤ (index % 12).toNat + 1 ∧ (index % 12).toNat + 1 ≤ 12 := by omega
  have hlength := le_monthLength (isLeap (index / 12).toNat) hmonth.1 hmonth.2
  let d : Date := ⟨(index / 12).toNat, (index % 12).toNat + 1,
    monthLength (isLeap (index / 12).toNat) ((index % 12).toNat + 1),
    by omega, hmonth, by omega, le_refl _⟩
  refine ⟨d, ?_, rfl⟩
  simp only [d, monthIndex]
  omega

theorem one_le_monthIndex_div (d : Date) : 1 ≤ d.monthIndex / 12 ∧ d.monthIndex / 12 ≤ 9999 := by
  have hyear := d.valid.1
  have hmonth := d.valid.2.1
  rw [monthIndex]
  omega

theorem addMonths_eq_ok_iff_of_monthEnd (hend : d.day = d.monthDays) :
    d.addMonths n true = .ok r ↔ r.monthIndex = d.monthIndex + n ∧ r.day = r.monthDays := by
  rw [addMonths_eq_ok_iff, keptDay, if_pos ⟨rfl, hend⟩]

end Date

namespace DateWord

variable {p : Part} {parts : List Part}

/-! ## Parts that count months -/

/-- The number of months that a part counts, a year being twelve. -/
def Part.months (p : Part) : Nat :=
  match p.unit with
  | .month => p.count
  | .year => 12 * p.count
  | .day | .week => 0

/-- The number of months that a row of parts counts. -/
def months : List Part → Nat
  | [] => 0
  | p :: parts => p.months + months parts

@[simp] theorem months_nil : months [] = 0 := rfl

@[simp] theorem months_cons (p : Part) (parts : List Part) :
    months (p :: parts) = p.months + months parts := rfl

theorem add_part (hp : p.unit = .month ∨ p.unit = .year) (d : Date) :
    d.add p.unit p.count true = d.addMonths p.months true := by
  rcases hp with hunit | hunit
  · rw [Part.months, hunit]
    rfl
  · rw [Part.months, hunit, Date.add, Date.addYears_eq_addMonths]
    rfl

/-- From the end of a month, a row of parts leads to the end of the month that is so many months
later. -/
theorem applyParts_eq_ok_iff_of_monthEnd (hend : d.day = d.monthDays)
    (hparts : ∀ p ∈ parts, p.unit = .month ∨ p.unit = .year) : applyParts d parts = .ok r ↔
      r.monthIndex = d.monthIndex + months parts ∧ r.day = r.monthDays := by
  induction parts generalizing d with
  | nil =>
    rw [applyParts_nil, Except.ok.injEq, months_nil, Int.natCast_zero, Int.add_zero]
    constructor
    · rintro rfl
      exact ⟨rfl, hend⟩
    · rintro ⟨hindex, hr⟩
      exact (Date.eq_of_monthIndex_eq hr hend hindex).symm
  | cons p parts ih =>
    obtain ⟨hp, hparts⟩ := List.forall_mem_cons.mp hparts
    simp only [applyParts_cons_eq_ok_iff, add_part hp, Date.addMonths_eq_ok_iff_of_monthEnd hend,
      months_cons]
    constructor
    · rintro ⟨next, ⟨hindex, hnext⟩, hrest⟩
      obtain ⟨hr, hlast⟩ := (ih hnext hparts).mp hrest
      exact ⟨by omega, hlast⟩
    · rintro ⟨hr, hlast⟩
      -- the month on the way lies between two months of the calendar
      have hfirst := d.one_le_monthIndex_div
      have hreached := r.one_le_monthIndex_div
      obtain ⟨next, hindex, hnext⟩ : ∃ next : Date, next.monthIndex = d.monthIndex + p.months ∧
          next.day = next.monthDays := Date.exists_monthEnd (by omega)
      exact ⟨next, ⟨hindex, hnext⟩, (ih hnext hparts).mpr ⟨by omega, hlast⟩⟩

/-- **Month ends.** From the end of a month, all words of months and years that count the same
number of months stand for one day, whatever the order of their parts and the way the months are
divided among them: the end of the month that is so many months later. -/
theorem resolve_monthEnd (soonDays : Int) {total : Nat} (hend : base.day = base.monthDays)
    (hpos : 0 < total) (hyear : (12 * base.year + (base.month - 1) + total) / 12 ≤ 9999) :
    ∃ r : Date, 12 * r.year + r.month = 12 * base.year + base.month + total ∧
      r.day = r.monthDays ∧
      ∀ parts : List Part, (∀ p ∈ parts, p.unit = .month ∨ p.unit = .year) →
        months parts = total → resolve base soonDays (partsText parts) = .ok r := by
  have hbase := base.valid.2.1
  have hfirst := base.one_le_monthIndex_div
  have hindex : base.monthIndex = ((12 * base.year + (base.month - 1) : Nat) : Int) := by
    rw [Date.monthIndex]
    omega
  obtain ⟨r, hr, hlast⟩ : ∃ r : Date, r.monthIndex = base.monthIndex + total ∧
      r.day = r.monthDays := Date.exists_monthEnd (by omega)
  refine ⟨r, ?_, hlast, fun parts hparts htotal ↦ ?_⟩
  · have hmonth := r.valid.2.1
    rw [Date.monthIndex] at hr
    omega
  · have hne : parts ≠ [] := by
      rintro rfl
      rw [months_nil] at htotal
      omega
    have hahead : base.lt r = true := Date.lt_of_monthIndex_lt (by omega)
    refine (resolve_partsText_eq_ok_iff hne).mpr ⟨?_, hahead⟩
    exact (applyParts_eq_ok_iff_of_monthEnd hend hparts).mpr ⟨by rw [hr, htotal], hlast⟩

theorem resolve_monthEnd_january :
    let x : Date := ⟨2020, 1, 31, by decide⟩
    x.day = x.monthDays ∧ 0 < 13 ∧ (12 * x.year + (x.month - 1) + 13) / 12 ≤ 9999 ∧
      ∀ parts : List Part, (∀ p ∈ parts, p.unit = .month ∨ p.unit = .year) → months parts = 13 →
        resolve x 7 (partsText parts) = .ok ⟨2021, 2, 28, by decide⟩ := by
  intro x
  have hend : x.day = x.monthDays := by decide
  have hpos : 0 < 13 := by decide
  have hyear : (12 * x.year + (x.month - 1) + 13) / 12 ≤ 9999 := by decide
  obtain ⟨r, hr, hlast, hall⟩ := resolve_monthEnd 7 hend hpos hyear
  have hfebruary : r = ⟨2021, 2, 28, by decide⟩ := by
    refine Date.eq_of_monthIndex_eq hlast rfl ?_
    have hmonth : 12 * r.year + r.month = 12 * 2020 + 1 + 13 := hr
    simp only [Date.monthIndex]
    omega
  rw [hfebruary] at hall
  exact ⟨hend, hpos, hyear, hall⟩

end DateWord

end Agenda
