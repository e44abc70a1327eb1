import Agenda.Proofs.Agreement
import Agenda.Proofs.ClampedDays
import Agenda.Proofs.Moves

/-!
# Coming days

Two kinds of date words name a day by its place in the calendar: `15` is a day of the month, and
`07-04` is a day of a month. Both are meant for a day to come, and both have to say what becomes of
a number that the month does not reach. They take these two decisions in a different order.

## What comes first

For a month and day, the day is put into the month first, and the result is compared with the base.
So the word stands for the earliest such day from the base on, which is found in the year of the
base or in the next (`resolve_nearest`).

For a day of the month, the number itself is compared with the base, which settles the month, and
the day is put into that month afterwards. On the last day of a month, a number beyond the end of
the month passes for a later day and then becomes the base itself. On the thirtieth of June, `30`
is the end of July, but `31` is the thirtieth of June. In all other cases the day named is to come
(`resolve_comingDay`).
-/

namespace Agenda

variable {base a b r : Date} {token : Text} {year month m n : Nat}

theorem exists_error_iff_of_ok_iff {ε α : Type} {x : Except ε α} {found : Option α}
    (h : ∀ value, x = .ok value ↔ found = some value) :
    (∃ error, x = .error error) ↔ found = none := by
  rw [Option.eq_none_iff_forall_ne_some, ← forall_congr' fun value ↦ not_congr (h value)]
  cases x with
  | ok value => simp
  | error error => simp

namespace DateWord

/-! ## Days of the month -/

/-- The index of the month in which a day of the month is looked for. -/
def comingMonth (base : Date) (n : Nat) : Int := base.monthIndex + if n ≤ base.day then 1 else 0

/-- The day of the month in a month of the given length. -/
def comingDay (base : Date) (n length : Nat) : Nat :=
  if length ≤ n ∨ base.monthDays ≤ n then length else n

/-- The next day with a number, if the calendar reaches it. -/
def comingDay? (base : Date) (n : Nat) : Option Date :=
  let year := (comingMonth base n / 12).toNat
  let month := (comingMonth base n % 12).toNat + 1
  Date.ofParts? year month (comingDay base n (monthLength (isLeap year) month))

theorem comingDay?_eq_some_iff : comingDay? base n = some r ↔
    r.monthIndex = comingMonth base n ∧ r.day = comingDay base n r.monthDays := by
  have hyear := r.valid.1
  have hmonth := r.valid.2.1
  have hindex : (r.year = (comingMonth base n / 12).toNat ∧
      r.month = (comingMonth base n % 12).toNat + 1) ↔ r.monthIndex = comingMonth base n := by
    rw [Date.monthIndex]
    omega
  rw [← hindex]
  exact Date.ofParts?_monthLength_eq_some_iff

theorem comingDay?_eq_none_iff (hn : 1 ≤ n) :
    comingDay? base n = none ↔ base.year = 9999 ∧ base.month = 12 ∧ n ≤ base.day := by
  have hyear := base.valid.1
  have hmonth := base.valid.2.1
  have hoff : ¬ (1 ≤ (comingMonth base n / 12).toNat ∧ (comingMonth base n / 12).toNat ≤ 9999) ↔
      base.year = 9999 ∧ base.month = 12 ∧ n ≤ base.day := by
    rw [comingMonth, Date.monthIndex]
    split
    · omega
    · omega
  have hday : ∀ length, 28 ≤ length →
      1 ≤ comingDay base n length ∧ comingDay base n length ≤ length := by
    intro length hlength
    rw [comingDay]
    split
    · omega
    · omega
  rw [← hoff]
  exact Date.ofParts?_monthLength_eq_none_iff (by omega) hday

theorem dayOfMonth_eq_ok_iff (hn : Text.toNat (Text.chomp token) = n) :
    dayOfMonth base token = .ok r ↔ (1 ≤ n ∧ n ≤ 31) ∧ comingDay? base n = some r := by
  have hday : ∀ length, (if length ≤ n || base.monthDays ≤ n then length else n) =
      comingDay base n length := by
    intro length
    simp only [comingDay, Bool.or_eq_true, decide_eq_true_eq]
  simp only [dayOfMonth, hn, hday]
  split
  · next hrange =>
    simp only [Bool.or_eq_true, decide_eq_true_eq] at hrange
    exact iff_of_false (by simp) (by omega)
  · next hrange =>
    simp only [Bool.or_eq_true, decide_eq_true_eq] at hrange
    rw [and_iff_right (by omega), comingDay?, comingMonth]
    split
    · next h => rw [h, Except.ok.injEq, Option.some_inj]
    · next h => simp only [h, reduceCtorEq]

/-- On the last day of a month, the number lies beyond the end of the month. -/
def IsBeyond (base : Date) (n : Nat) : Prop := base.day = base.monthDays ∧ base.monthDays < n

/-- The day found is after the base, or the base itself if the number lies beyond it. -/
theorem lt_or_eq_of_coming (hmonth : r.monthIndex = comingMonth base n)
    (hday : r.day = comingDay base n r.monthDays) :
    ¬ IsBeyond base n ∧ base.lt r = true ∨ IsBeyond base n ∧ r = base := by
  have hbase := base.day_le_monthDays
  rw [comingMonth] at hmonth
  by_cases hpassed : n ≤ base.day
  · rw [if_pos hpassed] at hmonth
    refine .inl ⟨fun hbeyond ↦ ?_, Date.lt_of_monthIndex_lt (by omega)⟩
    have := hbeyond.2
    omega
  · rw [if_neg hpassed, Int.add_zero] at hmonth
    -- within one month, the day of the month alone decides
    have hlength : r.monthDays = base.monthDays := Date.monthDays_congr hmonth
    have hsame : r.day = min n base.monthDays := by
      rw [hday, hlength, comingDay]
      split
      · omega
      · omega
    by_cases hbeyond : IsBeyond base n
    · obtain ⟨hyear, hmonth⟩ := Date.monthIndex_inj.mp hmonth
      obtain ⟨hend, hlate⟩ := hbeyond
      exact .inr ⟨⟨hend, hlate⟩, Date.ext_parts hyear hmonth (by omega)⟩
    · refine .inl ⟨hbeyond, ?_⟩
      rw [Date.lt_iff, Date.le_iff_monthIndex]
      rw [IsBeyond] at hbeyond
      omega

/-- **Days of the month.** The day that a number stands for lies in the month of the base or in the
next, and it has that number or is the last of its month. It comes after the base, unless the base
is the last day of a month that the number does not fit into: then it is the base. There is no such
day only if it would lie beyond the last December of the calendar. -/
theorem resolve_comingDay (base : Date) (soonDays : Int) (hs : Text.isNumber token = true)
    (hrange : 1 ≤ Text.toNat token ∧ Text.toNat token ≤ 31) :
    (∀ r, resolve base soonDays token = .ok r →
      (base.lt r = true ↔ ¬ (base.day = base.monthDays ∧ base.monthDays < Text.toNat token)) ∧
      (base.day = base.monthDays ∧ base.monthDays < Text.toNat token → r = base) ∧
      ((r.year = base.year ∧ r.month = base.month) ∨
        12 * r.year + r.month = 12 * base.year + base.month + 1) ∧
      (r.day = Text.toNat token ∨ r.day = r.monthDays)) ∧
    ((∃ error, resolve base soonDays token = .error error) ↔
      base.year = 9999 ∧ base.month = 12 ∧ Text.toNat token ≤ base.day) := by
  have hn : Text.toNat (Text.chomp token) = Text.toNat token := by rw [Text.chomp_of_isNumber hs]
  have hfound : ∀ r, resolve base soonDays token = .ok r ↔
      comingDay? base (Text.toNat token) = some r := by
    intro r
    rw [resolve_of_isNumber hs, dayOfMonth_eq_ok_iff hn, and_iff_right hrange]
  have hnone := exists_error_iff_of_ok_iff hfound
  refine ⟨fun r hr ↦ ?_, hnone.trans (comingDay?_eq_none_iff hrange.1)⟩
  obtain ⟨hmonth, hday⟩ := comingDay?_eq_some_iff.mp ((hfound r).mp hr)
  have horder : (base.lt r = true ↔ ¬ IsBeyond base (Text.toNat token)) ∧
      (IsBeyond base (Text.toNat token) → r = base) := by
    rcases lt_or_eq_of_coming hmonth hday with ⟨hwithin, hlt⟩ | ⟨hbeyond, rfl⟩
    · exact ⟨iff_of_true hlt hwithin, fun hbeyond ↦ absurd hbeyond hwithin⟩
    · exact ⟨iff_of_false r.lt_irrefl (not_not_intro hbeyond), fun _ ↦ rfl⟩
  refine ⟨horder.1, horder.2, ?_, ?_⟩
  · have hb := base.valid.2.1
    have hr := r.valid.2.1
    -- the month is told by its index
    rw [comingMonth, Date.monthIndex, Date.monthIndex] at hmonth
    split at hmonth
    · right
      omega
    · left
      omega
  · rw [comingDay] at hday
    split at hday
    · exact .inr hday
    · exact .inl hday

theorem resolve_comingDay_february :
    let x : Date := ⟨2020, 2, 29, by decide⟩
    let r : Date := ⟨2020, 3, 31, by decide⟩
    (Text.isNumber "29".toList = true ∧ 1 ≤ Text.toNat "29".toList ∧
      Text.toNat "29".toList ≤ 31) ∧
    resolve x 7 "29".toList = .ok r ∧ x.lt r = true ∧
      12 * r.year + r.month = 12 * x.year + x.month + 1 ∧ r.day = r.monthDays := by
  intro x r
  have hs : Text.isNumber "29".toList = true := by decide
  have hrange : 1 ≤ Text.toNat "29".toList ∧ Text.toNat "29".toList ≤ 31 := by decide
  have hr : resolve x 7 "29".toList = .ok r := eq_ok_of_toOption (by decide +kernel)
  obtain ⟨hlt, -, hmonth, hday⟩ := (resolve_comingDay x 7 hs hrange).1 r hr
  refine ⟨⟨hs, hrange⟩, hr, hlt.mpr (by decide), ?_, ?_⟩
  · exact hmonth.resolve_left (by decide)
  · exact hday.resolve_left (by decide)

/-- On the thirtieth of June, `31` is the thirtieth of June. -/
theorem not_forall_coming : ¬ ∀ (base : Date) (soonDays : Int) (token : Text) (r : Date),
    Text.isNumber token = true → 1 ≤ Text.toNat token ∧ Text.toNat token ≤ 31 →
    resolve base soonDays token = .ok r →
    base.lt r = true ∧
      ((r.year = base.year ∧ r.month = base.month) ∨
        12 * r.year + r.month = 12 * base.year + base.month + 1) ∧
      (r.day = Text.toNat token ∨ r.day = r.monthDays) := by
  intro h
  have hsame : resolve ⟨2020, 6, 30, by decide⟩ 7 "31".toList = .ok ⟨2020, 6, 30, by decide⟩ :=
    eq_ok_of_toOption (by decide +kernel)
  exact absurd (h _ _ _ _ (by decide) (by decide) hsame).1 (by decide)

/-! ## Months and days -/

theorem year_le_of_le (h : a.le b = true) : a.year ≤ b.year := by
  rw [Date.le_iff] at h
  omega

/-- The first such day from the base on. -/
def IsNearest (base : Date) (m n : Nat) (r : Date) : Prop :=
  (FallsOn m n r ∧ base.le r = true) ∧ ∀ x, FallsOn m n x → base.le x = true → r.le x = true

theorem IsNearest.eq (ha : IsNearest base m n a) (hb : IsNearest base m n b) : a = b := by
  have hab := ha.2 b hb.1.1 hb.1.2
  have hba := hb.2 a ha.1.1 ha.1.2
  rw [Date.le_iff_count_le] at hab hba
  exact Date.count_inj.mp (Nat.le_antisymm hab hba)

theorem isNearest_of_year (hr : FallsOn m n r) (hle : base.le r = true)
    (hfirst : ∀ x, FallsOn m n x → base.le x = true → r.year ≤ x.year) : IsNearest base m n r :=
  ⟨⟨hr, hle⟩, fun x hx hx' ↦ hr.le hx (hfirst x hx hx')⟩

theorem year_lt_of_passed (ha : FallsOn m n a) (hyear : a.year = base.year)
    (hpassed : ¬ base.le a = true) (hb : FallsOn m n b) (hle : base.le b = true) :
    base.year < b.year := by
  by_contra hearly
  have hba : b.le a = true := hb.le ha (by omega)
  exact hpassed (Date.le_trans hle hba)

/-- The day in the year of the base, or else the one in the year after. -/
def nearestDay? (base : Date) (m n : Nat) : Option Date :=
  (clampedDay? base.year m n).filter (base.le ·) <|> clampedDay? (base.year + 1) m n

/-- Either the nearest such day is found, or there is none from the base on. -/
theorem isNearest_or_none (base : Date) (hm : 1 ≤ m ∧ m ≤ 12) (hn : 1 ≤ n) :
    (∃ r, nearestDay? base m n = some r ∧ IsNearest base m n r) ∨
      nearestDay? base m n = none ∧ ∀ x, FallsOn m n x → ¬ base.le x = true := by
  obtain ⟨first, hfirst⟩ := exists_clampedDay? base hm hn
  obtain ⟨hyear, hfalls⟩ := clampedDay?_eq_some_iff.mp hfirst
  rw [nearestDay?, hfirst]
  by_cases hle : base.le first = true
  · refine .inl ⟨first, by simp [Option.filter, hle], ?_⟩
    exact isNearest_of_year hfalls hle fun x _ hx ↦ hyear ▸ year_le_of_le hx
  · have hlate : ∀ x, FallsOn m n x → base.le x = true → base.year < x.year := fun x ↦
      year_lt_of_passed hfalls hyear hle
    cases hnext : clampedDay? (base.year + 1) m n with
    | some r =>
      obtain ⟨hyear, hr⟩ := clampedDay?_eq_some_iff.mp hnext
      have hafter : base.le r = true := Date.le_iff.mpr (.inl (by omega))
      refine .inl ⟨r, by simp [Option.filter, hle], ?_⟩
      exact isNearest_of_year hr hafter fun x hx hx' ↦ hyear ▸ hlate x hx hx'
    | none =>
      refine .inr ⟨by simp [Option.filter, hle], fun x hx hx' ↦ ?_⟩
      -- the next year is none of the calendar, so no later one is
      have hend := (clampedDay?_eq_none_iff hm hn).mp hnext
      have hyear := x.valid.1
      have := hlate x hx hx'
      omega

theorem nearestDay?_eq_some_iff (hm : 1 ≤ m ∧ m ≤ 12) (hn : 1 ≤ n) :
    nearestDay? base m n = some r ↔ IsNearest base m n r := by
  rcases isNearest_or_none base hm hn with ⟨nearest, hfound, hnearest⟩ | ⟨hfound, hnone⟩
  · rw [hfound, Option.some_inj]
    exact ⟨fun h ↦ h ▸ hnearest, hnearest.eq⟩
  · rw [hfound]
    exact iff_of_false (by simp) fun hr ↦ hnone r hr.1.1 hr.1.2

theorem nearestDay?_eq_none_iff (hm : 1 ≤ m ∧ m ≤ 12) (hn : 1 ≤ n) :
    nearestDay? base m n = none ↔ ∀ x, FallsOn m n x → ¬ base.le x = true := by
  rcases isNearest_or_none base hm hn with ⟨nearest, hfound, hnearest⟩ | ⟨hfound, hnone⟩
  · rw [hfound]
    exact iff_of_false (by simp) fun hnone ↦ hnone nearest hnearest.1.1 hnearest.1.2
  · exact iff_of_true hfound hnone

theorem monthDay_eq_ok_iff {month day : Text} : monthDay base token month day = .ok r ↔
    (Text.isNumber month = true ∧ Text.isNumber day = true) ∧
      (1 ≤ Text.toNat month ∧ Text.toNat month ≤ 12) ∧
      (1 ≤ Text.toNat day ∧ Text.toNat day ≤ 31) ∧
      nearestDay? base (Text.toNat month) (Text.toNat day) = some r := by
  rw [monthDay]
  split
  · next hmonth => exact iff_of_false (by simp) (by simp_all)
  · next hmonth =>
    split
    · next hday => exact iff_of_false (by simp) (by simp_all)
    · next hday =>
      simp only [Bool.not_eq_true', Bool.not_eq_false, Bool.or_eq_true, decide_eq_true_eq]
        at hmonth hday ⊢
      rw [and_iff_right ⟨hmonth, hday⟩]
      split
      · next hm => exact iff_of_false (by simp) (by omega)
      · next hm =>
        split
        · next hn => exact iff_of_false (by simp) (by omega)
        · next hn =>
          rw [and_iff_right (by omega), and_iff_right (by omega), nearestDay?]
          split
          · next h => rw [h, Except.ok.injEq, Option.some_inj]
          · next h => simp only [h, reduceCtorEq]

/-- **Months and days.** Two numbers with a dash between stand for the first day from the base on
that falls on the given month and day, a day that the month is too short for being its last one.
They are refused, as no date, exactly if the calendar has no such day any more. -/
theorem resolve_nearest (base : Date) (soonDays : Int) {month day : Text}
    (hmonth : Text.isNumber month = true) (hday : Text.isNumber day = true)
    (hm : 1 ≤ Text.toNat month ∧ Text.toNat month ≤ 12)
    (hn : 1 ≤ Text.toNat day ∧ Text.toNat day ≤ 31) :
    let falls : Date → Prop := fun x ↦ x.month = Text.toNat month ∧
      x.day = min (Text.toNat day) x.monthDays
    (∀ r, resolve base soonDays (month ++ '-' :: day) = .ok r ↔
      (falls r ∧ base.le r = true) ∧ ∀ x, falls x → base.le x = true → r.le x = true) ∧
    (∀ error, resolve base soonDays (month ++ '-' :: day) = .error error → error.kind = .date) ∧
    ((∃ error, resolve base soonDays (month ++ '-' :: day) = .error error) ↔
      ∀ x, falls x → ¬ base.le x = true) := by
  intro falls
  have hfound : ∀ r, monthDay base (month ++ '-' :: day) month day = .ok r ↔
      nearestDay? base (Text.toNat month) (Text.toNat day) = some r := by
    intro r
    rw [monthDay_eq_ok_iff, and_iff_right ⟨hmonth, hday⟩, and_iff_right hm, and_iff_right hn]
  rw [resolve_monthDay hmonth hday]
  refine ⟨fun r ↦ ?_, fun error ↦ kind_of_monthDay, ?_⟩
  · exact (hfound r).trans (nearestDay?_eq_some_iff hm hn.1)
  · exact (exists_error_iff_of_ok_iff hfound).trans (nearestDay?_eq_none_iff hm hn.1)

/-- The thirtieth of February is the last of February: from March on that of the following year, and
on that day itself the same day. -/
theorem resolve_nearest_february :
    let x : Date := ⟨2019, 3, 1, by decide⟩
    let leap : Date := ⟨2020, 2, 29, by decide⟩
    (Text.isNumber "2".toList = true ∧ Text.isNumber "30".toList = true ∧
      (1 ≤ Text.toNat "2".toList ∧ Text.toNat "2".toList ≤ 12) ∧
      (1 ≤ Text.toNat "30".toList ∧ Text.toNat "30".toList ≤ 31)) ∧
    (∀ day : Date, day.month = 2 ∧ day.day = min 30 day.monthDays → x.le day = true →
      leap.le day = true) ∧
    resolve leap 7 "2-30".toList = .ok leap := by
  intro x leap
  have hmonth : Text.isNumber "2".toList = true := by decide
  have hday : Text.isNumber "30".toList = true := by decide
  have hm : 1 ≤ Text.toNat "2".toList ∧ Text.toNat "2".toList ≤ 12 := by decide
  have hn : 1 ≤ Text.toNat "30".toList ∧ Text.toNat "30".toList ≤ 31 := by decide
  have hx : resolve x 7 "2-30".toList = .ok leap := eq_ok_of_toOption (by decide +kernel)
  have hbefore := ((resolve_nearest x 7 hmonth hday hm hn).1 leap).mp hx
  refine ⟨⟨hmonth, hday, hm, hn⟩, hbefore.2, ?_⟩
  refine ((resolve_nearest leap 7 hmonth hday hm hn).1 leap).mpr ?_
  exact ⟨⟨hbefore.1.1, leap.le_refl⟩, fun _ _ hle ↦ hle⟩

end DateWord

end Agenda
