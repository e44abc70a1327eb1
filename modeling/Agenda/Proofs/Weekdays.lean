import Agenda.Proofs.Moves
import Agenda.Proofs.NamedTags

/-!
# Weekdays

The days of the week follow each other without regard to months and years, so a weekday depends on
the number of the day alone, and it does so beyond both ends of the calendar (`weekdayOfCount`).
Among seven numbers in a row each weekday occurs once. The search for a weekday goes to the one
among the seven days after the base, or among seven days some weeks earlier or later, and it fails
only if that number belongs to no day (`Date.closestWeekday_eq_ok_iff`,
`Date.closestWeekday_eq_error_iff`).

## The words

A weekday is named by a word whose case and dashes do not matter. What has to be seen is that no
such token is taken for something else before it comes to be looked up: each name has a letter that
is none of the units, so that it is no offset, and dashes do not make it a month and day.
-/

namespace Agenda

/-- The weekday of the day with a number, were the calendar continued to it. -/
def weekdayOfCount (n : Int) : Int := (n + 6) % 7 + 1

namespace Date

variable {base d r : Date} {weekday weeks n m : Int} {fault : CalendarFault}

theorem weekday_eq (d : Date) : (d.weekday : Int) = weekdayOfCount d.count := by
  rw [weekday, weekdayOfCount]
  omega

-- a Thursday
example : (⟨2020, 7, 9, by decide⟩ : Date).weekday = 4 := by decide

/-- The number of the day with a weekday among the seven after the base, so many weeks on. -/
def IsSought (base : Date) (weekday weeks n : Int) : Prop :=
  weekdayOfCount n = weekday ∧ base.count + 7 * weeks < n ∧ n ≤ base.count + 7 * weeks + 7

/-- The number of days from the base to the day sought. -/
def daysTo (base : Date) (weekday weeks : Int) : Int :=
  let ahead := weekday - base.weekday
  7 * weeks + if 0 < ahead then ahead else 7 + ahead

theorem daysTo_succ (base : Date) (weekday weeks : Int) :
    base.daysTo weekday (weeks + 1) = base.daysTo weekday weeks + 7 := by
  simp only [daysTo]
  omega

theorem isSought_iff (h : 1 ≤ weekday ∧ weekday ≤ 7) :
    base.IsSought weekday weeks n ↔ n = base.count + base.daysTo weekday weeks := by
  have hbase := base.weekday_eq
  simp only [IsSought, daysTo, weekdayOfCount] at hbase ⊢
  constructor
  · rintro ⟨hweekday, hafter, hwithin⟩
    split
    · omega
    · omega
  · rintro rfl
    split
    · omega
    · omega

/-! ## The search -/

theorem closestWeekday_eq_ok_iff (h : 1 ≤ weekday ∧ weekday ≤ 7) :
    base.closestWeekday weekday weeks = .ok r ↔ base.IsSought weekday weeks r.count := by
  rw [isSought_iff h]
  exact addDays_eq_ok_iff

theorem closestWeekday_eq_error_iff (h : 1 ≤ weekday ∧ weekday ≤ 7) :
    base.closestWeekday weekday weeks = .error fault ↔
      fault = .dayOutside ∧ ∃ n, base.IsSought weekday weeks n ∧ ¬ (1 ≤ n ∧ n ≤ dayTotal) := by
  simp only [isSought_iff h, exists_eq_left]
  exact addDays_eq_error_iff

theorem addDays_add (hm : 0 ≤ m) (hn : 0 ≤ n) :
    d.addDays (m + n) = (d.addDays m).bind (·.addDays n) := by
  cases hd : d.addDays m with
  | ok between =>
    have hcount : d.count + (m + n) = between.count + n := by
      rw [addDays_eq_ok_iff.mp hd]
      omega
    rw [addDays, hcount]
    rfl
  | error fault =>
    -- past the end of the calendar there is no way back
    obtain ⟨rfl, hout⟩ := addDays_eq_error_iff.mp hd
    have hpos := d.count_pos
    exact addDays_eq_error_iff.mpr ⟨rfl, by omega⟩

theorem nextWeekday_eq (base : Date) (h : 1 ≤ weekday ∧ weekday ≤ 7) :
    base.nextWeekday weekday = (base.closestWeekday weekday 0).bind (·.addDays 7) := by
  have hahead : 0 ≤ base.daysTo weekday 0 := by
    obtain ⟨-, hafter, -⟩ := (isSought_iff h).mpr (Eq.refl (base.count + base.daysTo weekday 0))
    omega
  have hlater : base.nextWeekday weekday = base.addDays (base.daysTo weekday 0 + 7) := by
    rw [← daysTo_succ]
    rfl
  rw [hlater, addDays_add hahead (by decide)]
  rfl

end Date

/-! ## Words in any case and with dashes -/

namespace DateWord

variable {base : Date} {soonDays : Int} {token word name : Text} {c : Char} {weekday : Nat}

/-- The token is the word in any case, with dashes and underscores anywhere in it. -/
def Spells (token word : Text) : Prop :=
  (token.filter fun c ↦ c != '-' && c != '_').map Char.toLower = word

instance : Decidable (Spells token word) := inferInstanceAs (Decidable (_ = _))

theorem isLatin_of_toLower (h : isLatin c.toLower = true) : isLatin c = true := by
  unfold Char.toLower at h
  split at h
  · next hcapital =>
    rw [isLatin, Bool.or_eq_true, Bool.and_eq_true, Bool.and_eq_true]
    exact .inr ⟨decide_eq_true hcapital.1, decide_eq_true hcapital.2⟩
  · exact h

theorem simpleSmall_of_isLatin (h : isLatin c = true) : simpleSmall c = c.toLower := by
  have hcodes : ∀ n < 123, isLatin (Char.ofNat n) = true →
      simpleSmall (Char.ofNat n) = (Char.ofNat n).toLower := by
    decide
  have hcode := hcodes c.toNat (Expression.toNat_of_isLatin h).2
  rw [Char.ofNat_toNat] at hcode
  exact hcode h

theorem Spells.latin (h : Spells token word) (hword : ∀ c ∈ word, isLatin c = true)
    (hc : c ∈ token.filter fun c ↦ c != '-' && c != '_') : isLatin c = true :=
  isLatin_of_toLower (hword _ (h ▸ List.mem_map_of_mem hc))

theorem Spells.plainWord_eq (h : Spells token word) (hword : ∀ c ∈ word, isLatin c = true) :
    plainWord token = word := by
  have hlatin : ∀ c ∈ token.filter fun c ↦ c != '-' && c != '_', isLatin c = true :=
    fun _ ↦ h.latin hword
  rw [plainWord, lower_of_latin hlatin, ← h]
  exact List.map_congr_left fun c hc ↦ simpleSmall_of_isLatin (hlatin c hc)

/-! ## Words that are looked up -/

theorem resolve_eq_spoken (hc : c ∈ token) (hlatin : isLatin c = true)
    (hunit : TimeUnit.ofLetter? c = none) :
    resolve base soonDays token = spoken base soonDays token := by
  have hdigit : isDigit c = false := by
    by_contra hdigit
    rw [Bool.not_eq_false] at hdigit
    exact Bool.false_ne_true ((Expression.not_isLatin_of_isDigit hdigit).symm.trans hlatin)
  have hne : ∀ other : Char, isLatin other = false → c ≠ other := by
    rintro other hother rfl
    exact Bool.false_ne_true (hother.symm.trans hlatin)
  have hmem : c ∈ Text.chomp token := (Text.mem_chomp_iff (hne '\n' (by decide))).mpr hc
  -- a letter that is no unit rules out all other kinds
  have hnumber : isDayOfMonth token = false := by
    rw [isDayOfMonth, Text.isNumber, Bool.and_eq_false_iff]
    exact .inr (List.all_eq_false.mpr ⟨c, hmem, by simp [hdigit]⟩)
  have hdashed : isDashed token = false := by
    rw [isDashed, Bool.and_eq_false_iff]
    exact .inr (List.all_eq_false.mpr ⟨c, hmem, by simp [hdigit, hne '-' (by decide)]⟩)
  have hoffset : isOffset token = false := by
    rw [isOffset, Bool.and_eq_false_iff]
    exact .inr (List.all_eq_false.mpr ⟨c, hmem, by simp [hdigit, hunit]⟩)
  rw [resolve, List.isEmpty_eq_false_iff.mpr (List.ne_nil_of_mem hc), hnumber, hdashed, hoffset]
  rfl

/-- However it is spelled, a word of letters that has a meaning stands for that meaning. -/
theorem Spells.resolve_eq (h : Spells token word) (hword : ∀ c ∈ word, isLatin c = true)
    (hletter : ∃ c ∈ word, TimeUnit.ofLetter? c = none) {answer : Except CalendarFault Date}
    (hanswer : spokenDay? base soonDays word = some answer) :
    resolve base soonDays token = answer.mapError fun _ ↦ .outside token := by
  obtain ⟨letter, hletter, hunit⟩ := hletter
  obtain ⟨c, hc, rfl⟩ : ∃ c ∈ token.filter fun c ↦ c != '-' && c != '_', c.toLower = letter :=
    List.mem_map.mp (h ▸ hletter)
  have hunit' : TimeUnit.ofLetter? c = none := by
    -- the letter of a unit is its own small letter
    refine Option.eq_none_iff_forall_ne_some.mpr fun unit hc ↦ ?_
    rw [TimeUnit.ofLetter?_eq_some_iff.mp hc] at hunit
    revert hunit
    cases unit <;> decide
  rw [resolve_eq_spoken (List.mem_of_mem_filter hc) (h.latin hword hc) hunit', spoken,
    h.plainWord_eq hword, hanswer]
  cases answer <;> rfl

theorem spokenDay?_of_mem_weekdays (base : Date) (soonDays : Int)
    (h : (name, weekday) ∈ weekdays) :
    spokenDay? base soonDays name = some (base.closestWeekday weekday 0) ∧
      spokenDay? base soonDays ("next".toList ++ name) = some (base.nextWeekday weekday) := by
  have hlookup : ∀ entry ∈ weekdays,
      (keywords.lookup entry.1 = none ∧ weekdays.lookup entry.1 = some entry.2) ∧
        keywords.lookup ("next".toList ++ entry.1) = none ∧
        weekdays.lookup ("next".toList ++ entry.1) = none := by
    decide
  obtain ⟨⟨hkeyword, hweekday⟩, hkeyword', hweekday'⟩ := hlookup _ h
  constructor
  · simp only [spokenDay?, hkeyword, hweekday]
  · have hnext : "next".toList.isPrefixOf ("next".toList ++ name) = true :=
      List.isPrefixOf_iff_prefix.mpr (List.prefix_append _ _)
    have hrest : ("next".toList ++ name).drop 4 = name := rfl
    simp only [spokenDay?, hkeyword', hweekday', hnext, hrest, hweekday, if_true]
    rfl

/-- **Weekdays.** The search for a weekday finds the one day with this weekday among the seven days
after the base, or those so many weeks on, and fails exactly if the number of that day is outside of
the calendar. The next weekday is seven days after the nearest one. In any case and with any dashes,
the name of a weekday stands for the nearest such day, and with `next` in front for the next one. -/
theorem closestWeekday_exact (base : Date) (soonDays : Int) {weekday : Nat}
    (hweekday : 1 ≤ weekday ∧ weekday ≤ 7) :
    (∀ weeks : Int,
      (∀ r, base.closestWeekday weekday weeks = .ok r ↔ r.weekday = weekday ∧
        (base.count + 7 * weeks < r.count ∧ r.count ≤ base.count + 7 * weeks + 7)) ∧
      ∀ fault, base.closestWeekday weekday weeks = .error fault ↔ fault = .dayOutside ∧
        ∃ n, (weekdayOfCount n = weekday ∧
          (base.count + 7 * weeks < n ∧ n ≤ base.count + 7 * weeks + 7)) ∧
          ¬ (1 ≤ n ∧ n ≤ dayTotal)) ∧
    base.nextWeekday weekday = (base.closestWeekday weekday 0).bind (·.addDays 7) ∧
    ∀ name token, (name, weekday) ∈ weekdays →
      (Spells token name → resolve base soonDays token =
        (base.closestWeekday weekday 0).mapError fun _ ↦ .outside token) ∧
      (Spells token ("next".toList ++ name) → resolve base soonDays token =
        (base.nextWeekday weekday).mapError fun _ ↦ .outside token) := by
  have hrange : 1 ≤ (weekday : Int) ∧ (weekday : Int) ≤ 7 := by omega
  refine ⟨fun weeks ↦ ⟨fun r ↦ ?_, fun fault ↦ ?_⟩, base.nextWeekday_eq hrange, ?_⟩
  · rw [Date.closestWeekday_eq_ok_iff hrange, Date.IsSought, ← Date.weekday_eq, Int.natCast_inj]
  · exact Date.closestWeekday_eq_error_iff hrange
  · intro name token hname
    have hwords : ∀ entry ∈ weekdays, ("next".toList ++ entry.1).all isLatin = true ∧
        entry.1.any (fun c ↦ (TimeUnit.ofLetter? c).isNone) = true := by
      decide
    obtain ⟨hall, hany⟩ := hwords _ hname
    have hlatin := List.all_eq_true.mp hall
    obtain ⟨c, hc, hunit⟩ := List.any_eq_true.mp hany
    rw [Option.isNone_iff_eq_none] at hunit
    obtain ⟨hnearest, hnext⟩ := spokenDay?_of_mem_weekdays base soonDays hname
    refine ⟨fun h ↦ h.resolve_eq (fun c hc ↦ ?_) ⟨c, hc, hunit⟩ hnearest,
      fun h ↦ h.resolve_eq hlatin ⟨c, List.mem_append_right _ hc, hunit⟩ hnext⟩
    exact hlatin c (List.mem_append_right _ hc)

/-- On the last of February 2020, a Saturday, the nearest Sunday is the first of March, the next one
is the eighth, and the one of the week before is the twenty-third of February. -/
theorem closestWeekday_exact_february :
    let base : Date := ⟨2020, 2, 29, by decide⟩
    ((1 ≤ 7 ∧ 7 ≤ 7) ∧ ("sun".toList, 7) ∈ weekdays ∧ Spells "S-un".toList "sun".toList ∧
      Spells "NEXT_Sun".toList ("next".toList ++ "sun".toList)) ∧
    resolve base 7 "S-un".toList = .ok ⟨2020, 3, 1, by decide⟩ ∧
    resolve base 7 "NEXT_Sun".toList = .ok ⟨2020, 3, 8, by decide⟩ ∧
    base.closestWeekday 7 (-1) = .ok ⟨2020, 2, 23, by decide⟩ := by
  intro base
  have hmem : ("sun".toList, 7) ∈ weekdays := by decide
  have hspells : Spells "S-un".toList "sun".toList := by decide
  have hspells' : Spells "NEXT_Sun".toList ("next".toList ++ "sun".toList) := by decide
  have hseven : 1 ≤ 7 ∧ 7 ≤ 7 := by decide
  obtain ⟨hsearch, hnext, hwords⟩ := closestWeekday_exact base 7 hseven
  have hnearest : base.closestWeekday 7 0 = .ok ⟨2020, 3, 1, by decide⟩ :=
    ((hsearch 0).1 _).mpr (by decide)
  have hweek : (⟨2020, 3, 1, by decide⟩ : Date).addDays 7 = .ok ⟨2020, 3, 8, by decide⟩ :=
    Date.addDays_eq_ok_iff.mpr (by decide)
  have hlater : (base.closestWeekday 7 0).bind (·.addDays 7) = .ok ⟨2020, 3, 8, by decide⟩ := by
    rw [hnearest]
    exact hweek
  refine ⟨⟨hseven, hmem, hspells, hspells'⟩, ?_, ?_, ((hsearch (-1)).1 _).mpr (by decide)⟩
  · rw [(hwords _ _ hmem).1 hspells]
    exact congrArg _ hnearest
  · rw [(hwords _ _ hmem).2 hspells', hnext]
    exact congrArg _ hlater

end DateWord

end Agenda
