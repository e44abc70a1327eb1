import Agenda.Proofs.DateText
import Agenda.Proofs.SmallForms
import Agenda.Proofs.Steps
import Agenda.Value.Compare

/-!
# Where words and expressions agree

A text can be read as a date word or as an expression without tags, and an operand of a filter is
read as the one and then as the other. The two grammars were not made for each other: a word is
told by the characters it consists of and may have dashes anywhere, an expression is cut at its
signs. A base on its own is handed to the reader of date words, so the two can differ only over a
text that has offsets as an expression and is a date word all the same.

## The common words with a sign

An offset that means anything has a count. So such a text has both a sign and a digit, which
leaves one kind of date word, the month and day: no keyword has a digit, and the other kinds have no
signs. An expression takes a month and day for what it is if both have two digits. Otherwise it is a
day of the month less a number of days. These short forms, such as `1-5`, are the only texts on
which the two disagree (`resolve_evaluate_agree`).
-/

namespace Agenda

open Expression (IsDigits IsReading)

/-- A month and day of which not both have two digits, the month being short enough for a day of the
month. -/
structure IsShortMonthDay (v month day : Text) : Prop where
  /-- The month and the day stand on either side of a dash. -/
  eq : v = month ++ '-' :: day
  /-- The month has one or two digits. -/
  isDigits : IsDigits 1 month ∨ IsDigits 2 month
  /-- The day is a number. -/
  isNumber : Text.isNumber day = true
  /-- Not both of them have two digits. -/
  short : ¬ (IsDigits 2 month ∧ IsDigits 2 day)

variable {base d : Date} {soonDays : Int} {v s month day : Text} {c : Char}

/-! ## Words without digits -/

namespace DateWord

theorem not_isDigit_of_lookup {α : Type} {words : List (Text × α)} {word : Text} {a : α}
    (hwords : ∀ entry ∈ words, entry.1.all (!isDigit ·) = true)
    (h : words.lookup word = some a) : ∀ c ∈ word, isDigit c = false := by
  obtain ⟨l₁, l₂, hsplit, -⟩ := List.lookup_eq_some_iff.mp h
  have hall := hwords (word, a) (by simp [hsplit])
  intro c hc
  simpa using List.all_eq_true.mp hall c hc

theorem not_isDigit_of_spokenDay? {word : Text} {answer : Except CalendarFault Date}
    (h : spokenDay? base soonDays word = some answer) : ∀ c ∈ word, isDigit c = false := by
  have hkeywords : ∀ entry ∈ keywords, entry.1.all (!isDigit ·) = true := by decide
  have hweekdays : ∀ entry ∈ weekdays, entry.1.all (!isDigit ·) = true := by decide
  rw [spokenDay?] at h
  split at h
  · next hlookup => exact not_isDigit_of_lookup hkeywords hlookup
  · next hlookup => exact not_isDigit_of_lookup hweekdays hlookup
  · split at h
    · next hnext =>
      obtain ⟨rest, rfl⟩ := List.isPrefixOf_iff_prefix.mp hnext
      obtain ⟨weekday, hweekday, -⟩ := Option.map_eq_some_iff.mp h
      obtain ⟨n, hlookup, -⟩ := Option.bind_eq_some_iff.mp hweekday
      have hlookup : weekdays.lookup rest = some n := hlookup
      intro c hc
      rcases List.mem_append.mp hc with hc | hc
      · have hall : "next".toList.all (!isDigit ·) = true := by decide
        simpa using List.all_eq_true.mp hall c hc
      · exact not_isDigit_of_lookup hweekdays hlookup c hc
    · cases h

theorem not_isDigit_of_spoken (h : spoken base soonDays v = .ok d) :
    ∀ c ∈ v, isDigit c = false := by
  intro c hc
  by_contra hdigit
  rw [Bool.not_eq_false] at hdigit
  have hplain : c ∈ plainWord v := by
    refine mem_lower_of_isDigit hdigit (List.mem_filter.mpr ⟨hc, ?_⟩)
    have hdash : c ≠ '-' := by
      rintro rfl
      cases hdigit
    have hunderscore : c ≠ '_' := by
      rintro rfl
      cases hdigit
    simp [hdash, hunderscore]
  rw [spoken] at h
  split at h
  · next hspoken =>
    rw [not_isDigit_of_spokenDay? hspoken c hplain] at hdigit
    cases hdigit
  · cases h
  · cases h

theorem monthDay_of_resolve (hline : '\n' ∉ v) (hsign : '+' ∈ v ∨ '-' ∈ v)
    (hdigit : ∃ c ∈ v, isDigit c = true) (h : resolve base soonDays v = .ok d) :
    ∃ month day, v = month ++ '-' :: day ∧ Text.isNumber month = true ∧
      Text.isNumber day = true ∧ monthDay base v month day = .ok d := by
  have hchomp : Text.chomp v = v := Text.chomp_of_not_mem hline
  obtain ⟨sign, hmem, hsign⟩ : ∃ sign ∈ v, sign = '+' ∨ sign = '-' := by
    rcases hsign with hsign | hsign
    · exact ⟨_, hsign, .inl rfl⟩
    · exact ⟨_, hsign, .inr rfl⟩
  rw [resolve] at h
  split at h
  · cases h
  split at h
  · next hnumber =>
    -- a number has no sign
    rw [isDayOfMonth, hchomp, Text.isNumber_iff] at hnumber
    have hno := hnumber.2 sign hmem
    rcases hsign with rfl | rfl <;> cases hno
  split at h
  · split at h
    · next month day hcut =>
      split at h
      · cases h
      · obtain ⟨hv, -⟩ := Text.cut?_singleton_eq_some_iff.mp hcut
        have hmonthDay := h
        rw [monthDay] at h
        split at h
        · cases h
        · next hmonth =>
          split at h
          · cases h
          · next hday =>
            exact ⟨month, day, hv, by simpa using hmonth, by simpa using hday, hmonthDay⟩
    · cases h
  split at h
  · next hoffset =>
    -- neither has an offset
    rw [isOffset, hchomp, Bool.and_eq_true, List.all_eq_true] at hoffset
    have hno := hoffset.2 sign hmem
    rcases hsign with rfl | rfl <;> cases hno
  -- and no keyword or weekday has a digit
  · obtain ⟨c, hc, hdigit⟩ := hdigit
    rw [not_isDigit_of_spoken h c hc] at hdigit
    cases hdigit

end DateWord

/-! ## Expressions without tags -/

/-- Without tags, an expression stands for the day of its base with the offsets applied. -/
theorem evaluate_empty_eq_ok_iff : (evaluate base soonDays .empty v).1 = .ok d ↔
    ∃ e start, Expression.parse v = .ok e ∧ literalDate base soonDays e.base = .ok start ∧
      applyOffsets start e.offsets = .ok d := by
  have hreference : TagTable.empty.reference? v = none := by
    rw [Option.eq_none_iff_forall_ne_some]
    intro r hr
    obtain ⟨e, -, -, hvalue, -⟩ := TagTable.reference?_eq_some_iff.mp hr
    cases hvalue
  rw [evaluate, nestingLimit, evaluateWithin_of_none 10 hreference]
  cases he : Expression.parse v with
  | error error => cases v <;> simp [TagTable.directDate, he]
  | ok e =>
    have hnone : (referenceName? e.base).bind TagTable.empty.value? = none := by
      cases referenceName? e.base <;> rfl
    rw [TagTable.directDate_of_parse he]
    simp only [hnone, Except.ok.injEq, exists_and_left]
    cases hstart : literalDate base soonDays e.base with
    | error error => simp [Except.bind, hstart]
    | ok start => simp [Except.bind, hstart]

theorem Recurrence.exists_digit_of_parse {r : Recurrence} (h : parse v = .ok r) :
    ∃ c ∈ v, isDigit c = true := by
  obtain ⟨strict, hdigits, -, -⟩ := parse_eq_ok_iff.mp h
  obtain ⟨hne, hdigit⟩ := Text.isNumber_iff.mp hdigits
  obtain ⟨c, hc⟩ := List.exists_mem_of_ne_nil _ hne
  exact ⟨c, by simp [hc], hdigit c hc⟩

theorem Expression.exists_digit_of_step {token : Text} {step : Recurrence}
    (h : Expression.step token = .ok step) : ∃ c ∈ token, isDigit c = true := by
  rw [Expression.step] at h
  split at h
  · next hnumber =>
    obtain ⟨hne, hdigits⟩ := Text.isNumber_iff.mp hnumber
    obtain ⟨c, hc⟩ := List.exists_mem_of_ne_nil token hne
    exact ⟨c, hc, hdigits c hc⟩
  · exact Recurrence.exists_digit_of_parse h

/-! ## Texts that are both -/

namespace Expression

theorem IsBase.mem (h : IsBase s) (hc : c ∈ s) :
    isLatin c = true ∨ isDigit c = true ∨ c = '-' := by
  cases h with
  | word _ hs => exact .inl (hs c hc)
  | absolute hy hm hd =>
    rw [List.mem_append, List.mem_cons, List.mem_append, List.mem_cons] at hc
    rcases hc with hc | hc | hc | hc | hc
    · exact .inr (.inl (hy.2 c hc))
    · exact .inr (.inr hc)
    · exact .inr (.inl (hm.2 c hc))
    · exact .inr (.inr hc)
    · exact .inr (.inl (hd.2 c hc))
  | monthDay hm hd =>
    rw [List.mem_append, List.mem_cons] at hc
    rcases hc with hc | hc | hc
    · exact .inr (.inl (hm.2 c hc))
    · exact .inr (.inr hc)
    · exact .inr (.inl (hd.2 c hc))
  | day hs => exact .inr (.inl (hs.elim (·.2 c hc) (·.2 c hc)))

theorem IsToken.mem (h : IsToken s) (hc : c ∈ s) : isLatin c = true ∨ isDigit c = true := by
  obtain ⟨-, digits, unit, rfl, hdigits, hunit⟩ := isToken_iff.mp h
  rcases List.mem_append.mp hc with hc | hc
  · exact .inr (hdigits c hc)
  · have hletters : "dwmyDWMY".toList.all isLatin = true := by decide
    rcases hunit with rfl | ⟨u, hu, rfl⟩
    · cases hc
    · rw [List.mem_singleton.mp hc]
      exact .inl (List.all_eq_true.mp hletters u hu)

/-- An expression has letters, digits and signs, and nothing else. -/
theorem IsReading.mem {e : Expression} (h : IsReading v e) (hc : c ∈ v) :
    isLatin c = true ∨ isDigit c = true ∨ c = '+' ∨ c = '-' := by
  rw [← h.toText, Expression.toText, List.mem_append, List.mem_flatMap] at hc
  rcases hc with hc | ⟨o, ho, hc⟩
  · rcases h.base.mem hc with hc | hc | hc
    · exact .inl hc
    · exact .inr (.inl hc)
    · exact .inr (.inr (.inr hc))
  · rcases List.mem_cons.mp hc with hc | hc
    · cases hsign : o.sign with
      | plus => exact .inr (.inr (.inl (by rw [hc, hsign]; rfl)))
      | minus => exact .inr (.inr (.inr (by rw [hc, hsign]; rfl)))
    · rcases (h.token o ho).mem hc with hc | hc
      · exact .inl hc
      · exact .inr (.inl hc)

theorem IsReading.not_mem {e : Expression} (h : IsReading v e)
    (hc : (isLatin c || isDigit c || c == '+' || c == '-') = false) : c ∉ v := by
  intro hmem
  simp only [Bool.or_eq_false_iff, beq_eq_false_iff_ne] at hc
  obtain ⟨⟨⟨hlatin, hdigit⟩, hplus⟩, hminus⟩ := hc
  rcases h.mem hmem with hmem | hmem | hmem | hmem
  · exact Bool.false_ne_true (hlatin.symm.trans hmem)
  · exact Bool.false_ne_true (hdigit.symm.trans hmem)
  · exact hplus hmem
  · exact hminus hmem

theorem IsReading.not_mem_blank {e : Expression} (h : IsReading v e) : ' ' ∉ v ∧ '\n' ∉ v :=
  ⟨h.not_mem (by decide), h.not_mem (by decide)⟩

theorem IsBase.isDigits_of_isNumber (h : IsBase s) (hs : Text.isNumber s = true) :
    IsDigits 1 s ∨ IsDigits 2 s := by
  rw [Text.isNumber_iff] at hs
  cases h with
  | word hne hlatin =>
    obtain ⟨c, t, rfl⟩ := List.exists_cons_of_ne_nil hne
    have hc := not_isLatin_of_isDigit (hs.2 c List.mem_cons_self)
    rw [hlatin c List.mem_cons_self] at hc
    cases hc
  | absolute hy hm hd => cases hs.2 '-' (by simp)
  | monthDay hm hd => cases hs.2 '-' (by simp)
  | day hdigits => exact hdigits

/-- If a text with offsets is a month and day, it is a short one. -/
theorem isShortMonthDay_of_parse {e : Expression} (he : parse v = .ok e) (hne : e.offsets ≠ [])
    (hv : v = month ++ '-' :: day) (hmonth : Text.isNumber month = true)
    (hday : Text.isNumber day = true) : IsShortMonthDay v month day := by
  have hreading : IsReading v e := (isReading_of_parse he).2
  have hmonth' := (Text.isNumber_iff.mp hmonth).2
  have hday' := (Text.isNumber_iff.mp hday).2
  obtain ⟨o, offsets, hoffsets⟩ := List.exists_cons_of_ne_nil hne
  -- the base ends at the first sign, which is the dash
  have hspelt : month ++ '-' :: day =
      e.base ++ o.sign.toChar :: (o.token ++ offsets.flatMap Offset.toText) := by
    rw [← hv, ← hreading.toText, toText, hoffsets]
    rfl
  have hsign : isDigit o.sign.toChar = false := by cases o.sign <;> rfl
  rcases split_digits hmonth' hsign hspelt with ⟨hbase, -, -⟩ | ⟨z, -, htail⟩
  · refine ⟨hv, (hbase ▸ hreading.base).isDigits_of_isNumber hmonth, hday, ?_⟩
    rintro ⟨hm, hd⟩
    have hwhole : parse v = .ok ⟨v, []⟩ := parse_of_isBase (hv ▸ .monthDay hm hd)
    rw [he] at hwhole
    cases hwhole
    exact hne rfl
  · have hdigit := hday' o.sign.toChar (by simp [htail])
    rw [hsign] at hdigit
    cases hdigit

/-- A short month and day is taken for a day of the month less a number of days. -/
theorem parse_of_isShortMonthDay (h : IsShortMonthDay v month day) :
    parse v = .ok ⟨month, [⟨.minus, day⟩]⟩ := by
  obtain ⟨hne, hdigits⟩ := Text.isNumber_iff.mp h.isNumber
  have htoken : IsToken day := isToken_iff.mpr ⟨hne, day, [], by simp, hdigits, .inl rfl⟩
  have hreading : IsReading v ⟨month, [⟨.minus, day⟩]⟩ := by
    refine ⟨.day h.isDigits, by simpa using htoken, ?_⟩
    rw [h.eq, toText]
    simp [Offset.toText, Sign.toChar]
  obtain ⟨e, he, heq | ⟨token, hm, hd, -, hoffsets⟩⟩ := exists_parse_of_isReading hreading
  · rw [he, heq]
  · obtain ⟨heq, -⟩ := List.cons.inj hoffsets
    cases heq
    exact absurd ⟨hm, hd⟩ h.short

end Expression

/-! ## Both readings of a short form -/

theorem isNumber_of_isDigits {n : Nat} (hs : IsDigits (n + 1) s) : Text.isNumber s = true :=
  Text.isNumber_iff.mpr ⟨List.ne_nil_of_length_eq_add_one hs.1, hs.2⟩

theorem Text.chomp_of_isNumber (hs : Text.isNumber s = true) : chomp s = s :=
  chomp_of_not_mem (not_mem_of_isNumber hs (by decide))

theorem DateWord.resolve_of_isNumber (hs : Text.isNumber s = true) :
    resolve base soonDays s = dayOfMonth base s := by
  have hne : s.isEmpty = false := List.isEmpty_eq_false_iff.mpr (Text.isNumber_iff.mp hs).1
  rw [resolve, hne, isDayOfMonth, Text.chomp_of_isNumber hs, hs]
  rfl

theorem literalDate_of_isNumber (hs : Text.isNumber s = true) :
    literalDate base soonDays s = DateWord.dayOfMonth base s := by
  rw [literalDate, DateWord.resolve_of_isNumber hs]
  split
  · next herror =>
    have hkind := DateWord.kind_of_dayOfMonth herror
    simp [DateError.kind] at hkind
  · rfl

/-- Two numbers with a dash between are a month and day, of however many digits. -/
theorem DateWord.resolve_monthDay (hmonth : Text.isNumber month = true)
    (hday : Text.isNumber day = true) :
    resolve base soonDays (month ++ '-' :: day) =
      monthDay base (month ++ '-' :: day) month day := by
  have hdash : '-' ∉ month := not_mem_of_isNumber hmonth (by decide)
  have hall : ∀ c ∈ month ++ '-' :: day, isDigit c = true ∨ c = '-' := by
    intro c hc
    rw [List.mem_append, List.mem_cons] at hc
    rcases hc with hc | hc | hc
    · exact .inl ((Text.isNumber_iff.mp hmonth).2 c hc)
    · exact .inr hc
    · exact .inl ((Text.isNumber_iff.mp hday).2 c hc)
  have hne : month ++ '-' :: day ≠ [] := List.append_ne_nil_of_right_ne_nil _ (List.cons_ne_nil _ _)
  obtain ⟨hchomp, hdashed⟩ := Date.isDashed_of_dashes hne hall
  have hmem : '-' ∈ month ++ '-' :: day := by simp
  have hnumber : isDayOfMonth (month ++ '-' :: day) = false := by
    rw [isDayOfMonth, hchomp, ← Bool.not_eq_true]
    exact fun hnumber ↦ not_mem_of_isNumber hnumber (by decide) hmem
  have hcut : Text.cut? ['-'] (month ++ '-' :: day) = some (month, day) :=
    Text.cut?_singleton_eq_some_iff.mpr ⟨rfl, hdash⟩
  rw [resolve, List.isEmpty_eq_false_iff.mpr hne, hnumber, hdashed, hcut]
  exact if_neg fun hmem ↦ not_mem_of_isNumber hday (by decide) hmem

theorem DateWord.resolve_of_isShortMonthDay (h : IsShortMonthDay v month day) :
    resolve base soonDays v = monthDay base v month day := by
  rw [h.eq]
  exact resolve_monthDay (h.isDigits.elim isNumber_of_isDigits isNumber_of_isDigits) h.isNumber

theorem evaluate_of_isShortMonthDay (h : IsShortMonthDay v month day) :
    (evaluate base soonDays .empty v).1 = .ok d ↔ ∃ start,
      DateWord.dayOfMonth base month = .ok start ∧
        start.addDays (-(Text.toNat day : Int)) = .ok d := by
  have hmonth : Text.isNumber month = true :=
    h.isDigits.elim isNumber_of_isDigits isNumber_of_isDigits
  rw [evaluate_empty_eq_ok_iff]
  have hstep : ∀ start, applyOffsets start [⟨.minus, day⟩] = .ok d ↔
      start.addDays (-(Text.toNat day : Int)) = .ok d := by
    intro start
    have happly : Recurrence.apply ⟨.day, Text.toNat day, false⟩ start .minus =
        start.addDays (-(Text.toNat day : Int)) := rfl
    simp only [applyOffsets, Expression.step_of_isNumber h.isNumber, happly]
    cases start.addDays (-(Text.toNat day : Int)) with
    | error fault => simp
    | ok r => simp
  constructor
  · rintro ⟨e, start, he, hstart, happly⟩
    rw [Expression.parse_of_isShortMonthDay h] at he
    cases he
    rw [literalDate_of_isNumber hmonth] at hstart
    exact ⟨start, hstart, (hstep start).mp happly⟩
  · rintro ⟨start, hstart, happly⟩
    exact ⟨_, start, Expression.parse_of_isShortMonthDay h,
      (literalDate_of_isNumber hmonth).trans hstart, (hstep start).mpr happly⟩

/-! ## Agreement -/

theorem literalDate_of_resolve (h : DateWord.resolve base soonDays v = .ok d) :
    literalDate base soonDays v = .ok d := by
  rw [literalDate, h]

/-- A text that has a day both ways has the same one, unless it is a short month and day. -/
theorem eq_or_isShortMonthDay {d₁ d₂ : Date} (h₁ : DateWord.resolve base soonDays v = .ok d₁)
    (h₂ : (evaluate base soonDays .empty v).1 = .ok d₂) :
    d₁ = d₂ ∨ ∃ month day, IsShortMonthDay v month day ∧
      DateWord.monthDay base v month day = .ok d₁ := by
  obtain ⟨e, start, he, hstart, happly⟩ := evaluate_empty_eq_ok_iff.mp h₂
  have hreading := (Expression.isReading_of_parse he).2
  cases hoffsets : e.offsets with
  | nil =>
    have hbase : e.base = v := by
      rw [← hreading.toText, Expression.toText, hoffsets, List.flatMap_nil, List.append_nil]
    rw [hbase, literalDate_of_resolve h₁] at hstart
    rw [hoffsets] at happly
    cases hstart
    cases happly
    exact .inl rfl
  | cons o offsets =>
    right
    -- the first offset brings a sign and the digits of its count into the text
    have hmem : ∀ c ∈ o.sign.toChar :: o.token, c ∈ v := by
      intro c hc
      rw [← hreading.toText, Expression.toText, hoffsets, List.flatMap_cons]
      exact List.mem_append_right _ (List.mem_append_left _ hc)
    have hsign : '+' ∈ v ∨ '-' ∈ v := by
      have hsign := hmem o.sign.toChar List.mem_cons_self
      cases hcase : o.sign with
      | plus => exact .inl (by rwa [hcase] at hsign)
      | minus => exact .inr (by rwa [hcase] at hsign)
    have hdigit : ∃ c ∈ v, isDigit c = true := by
      rw [hoffsets, applyOffsets] at happly
      split at happly
      · cases happly
      · next step hstep =>
        obtain ⟨c, hc, hdigit⟩ := Expression.exists_digit_of_step hstep
        exact ⟨c, hmem c (List.mem_cons_of_mem _ hc), hdigit⟩
    obtain ⟨month, day, hv, hmonth, hday, hmonthDay⟩ :=
      DateWord.monthDay_of_resolve hreading.not_mem_blank.2 hsign hdigit h₁
    have hne : e.offsets ≠ [] := by
      rw [hoffsets]
      exact List.cons_ne_nil o offsets
    exact ⟨month, day, Expression.isShortMonthDay_of_parse he hne hv hmonth hday, hmonthDay⟩

/-- An operand that is an expression is read as one, unless it is a date word of the short form. -/
theorem readDate?_of_evaluate (h : (evaluate base filterSoonDays .empty v).1 = .ok d) :
    readDate? base v = some d ∨ ∃ month day d₁, IsShortMonthDay v month day ∧
      DateWord.monthDay base v month day = .ok d₁ ∧ readDate? base v = some d₁ := by
  rw [readDate?]
  cases hresolve : DateWord.resolve base filterSoonDays v with
  | ok d₁ =>
    rcases eq_or_isShortMonthDay hresolve h with rfl | ⟨month, day, hshort, hmonthDay⟩
    · exact .inl rfl
    · exact .inr ⟨month, day, d₁, hshort, hmonthDay, rfl⟩
  | error error =>
    left
    cases hread : Date.ofText? v with
    | none => simp only [h, Except.toOption]
    | some d' =>
      -- what is read as an absolute day is a base and stands for that day
      obtain ⟨e, start, he, hstart, happly⟩ := evaluate_empty_eq_ok_iff.mp h
      have hspace := (Expression.isReading_of_parse he).2.not_mem_blank.1
      rw [Expression.parse_of_isBase (Date.isBase_of_ofText? hread hspace)] at he
      cases he
      rw [literalDate_of_ofText? hread hspace] at hstart
      cases hstart
      exact congrArg some (Except.ok.inj happly)

/-- **Words and expressions.** A text that has a day both as a date word and as an expression
without tags has the same one, unless it is a short month and day. As a word that is the coming day
of the year, and as an expression it is a day of the month less a number of days. An operand of a
filter that is an expression is read as one, except for the short forms that are words. -/
theorem resolve_evaluate_agree (base : Date) (v : Text) :
    (∀ soonDays d₁ d₂, DateWord.resolve base soonDays v = .ok d₁ →
      (evaluate base soonDays .empty v).1 = .ok d₂ →
      d₁ = d₂ ∨ ∃ month day, IsShortMonthDay v month day) ∧
    (∀ soonDays month day, IsShortMonthDay v month day →
      DateWord.resolve base soonDays v = DateWord.monthDay base v month day ∧
      ∀ d, (evaluate base soonDays .empty v).1 = .ok d ↔ ∃ start,
        DateWord.dayOfMonth base month = .ok start ∧
          start.addDays (-(Text.toNat day : Int)) = .ok d) ∧
    (∀ d, (evaluate base filterSoonDays .empty v).1 = .ok d → readDate? base v = some d ∨
      ∃ month day d₁, IsShortMonthDay v month day ∧
        DateWord.monthDay base v month day = .ok d₁ ∧ readDate? base v = some d₁) := by
  refine ⟨?_, ?_, ?_⟩
  · intro soonDays d₁ d₂ h₁ h₂
    rcases eq_or_isShortMonthDay h₁ h₂ with h | ⟨month, day, hshort, -⟩
    · exact .inl h
    · exact .inr ⟨month, day, hshort⟩
  · intro soonDays month day h
    exact ⟨DateWord.resolve_of_isShortMonthDay h, fun d ↦ evaluate_of_isShortMonthDay h⟩
  · exact fun d ↦ readDate?_of_evaluate

/-- The short form `1-5` is the fifth of January, or the first of the month less five days. -/
theorem not_forall_resolve_eq_evaluate :
    ¬ ∀ (base : Date) (soonDays : Int) (v : Text) (d₁ d₂ : Date),
      DateWord.resolve base soonDays v = .ok d₁ →
      (evaluate base soonDays .empty v).1 = .ok d₂ → d₁ = d₂ := by
  intro h
  have hword : DateWord.resolve ⟨2020, 3, 15, by decide⟩ 7 "1-5".toList =
      .ok ⟨2021, 1, 5, by decide⟩ := eq_ok_of_toOption (by decide +kernel)
  have hexpr : (evaluate ⟨2020, 3, 15, by decide⟩ 7 .empty "1-5".toList).1 =
      .ok ⟨2020, 3, 27, by decide⟩ := eq_ok_of_toOption (by decide +kernel)
  cases h _ _ _ _ _ hword hexpr

end Agenda
