import Agenda.Proofs.ComingDays
import Mathlib.Data.List.Induction

/-!
# Writing days and reading them

The writer of days and the reader are not the inverse of each other. They would be if a day were
written with four digits for the year, which is the only way to write it in ASCII digits so that it
is read (`Date.toPaddedText_eq_iff`), and from the year 1000 on it is written so.

## Early years

A year below 1000 is written with fewer digits, and the reader asks for ten characters. As an
expression, what is written for such a year is something else altogether: the year alone is taken
for a day of the month, or the year and the month for a month and day, and what follows for a number
of days to be taken away. There is no such month after the year 12, and nothing at all is read from
three digits. Up to the year 12 the day reached depends on the base; on the last day of the calendar
there is none.

## Other spellings

The reader admits digits of other scripts and a space before a day of one digit. These texts are
read as days, but they are not what is written for them.
-/

namespace Agenda

open Expression (IsBase IsDigits Leads)

variable {base d r : Date} {soonDays : Int} {tags : TagTable} {b year month day : Text}

/-! ## Padded numbers -/

namespace Text

theorem ofNat_append_digit {n v : Nat} (hn : 0 < n) (hv : v < 10) :
    ofNat (10 * n + v) = ofNat n ++ [v.digitChar] := by
  have hdiv : (10 * n + v) / 10 = n := by omega
  have hmod : (10 * n + v) % 10 = v := by omega
  rw [ofNat, Nat.toDigits_of_base_le (by decide) (by omega), hdiv, hmod, ofNat]

theorem ofNatPadded_append_digit {width v : Nat} (hwidth : 0 < width) (n : Nat) (hv : v < 10) :
    ofNatPadded (width + 1) (10 * n + v) = ofNatPadded width n ++ [v.digitChar] := by
  rcases Nat.eq_zero_or_pos n with rfl | hn
  · -- a leading digit counts as one place, and so does the zero that it replaces
    have hdigit : ofNat (10 * 0 + v) = [v.digitChar] := by
      rw [Nat.mul_zero, Nat.zero_add, ofNat, Nat.toDigits_of_lt_base hv]
    have hzeros : ofNatPadded width 0 = List.replicate width '0' := by
      obtain ⟨k, rfl⟩ := Nat.exists_eq_add_of_lt hwidth
      rw [Nat.zero_add, List.replicate_succ']
      rfl
    rw [hzeros, ofNatPadded, hdigit]
    rfl
  · rw [ofNatPadded, ofNat_append_digit hn hv, List.length_append, List.length_singleton,
      Nat.add_sub_add_right, ← List.append_assoc]
    rfl

theorem exists_digitChar {c : Char} (h : c.isDigit = true) : ∃ v < 10, c = v.digitChar := by
  have hrange : 48 ≤ c.toNat ∧ c.toNat ≤ 57 := by
    simpa [Char.isDigit, Char.le_def, UInt32.le_iff_toNat_le] using h
  obtain ⟨v, hv⟩ := Nat.exists_eq_add_of_le hrange.1
  have hlt : v < 10 := by omega
  refine ⟨v, hlt, ?_⟩
  rw [← Char.ofNat_toNat c, hv]
  interval_cases v <;> rfl

/-- A number in ASCII digits is written back as it stands if it is padded to its own length. -/
theorem ofNatPadded_toNat {s : Text} (hne : s ≠ []) (hs : ∀ c ∈ s, c.isDigit = true) :
    ofNatPadded s.length (toNat s) = s := by
  induction s using List.reverseRecOn with
  | nil => exact absurd rfl hne
  | append_singleton s c ih =>
    obtain ⟨v, hv, rfl⟩ := exists_digitChar (hs c (by simp))
    have hvalue : digitValue v.digitChar = v := by
      rw [digitValue, digitValue?_digitChar hv, Option.getD_some]
    rw [toNat_append_singleton, hvalue, List.length_append, List.length_singleton]
    by_cases hnil : s = []
    · subst hnil
      interval_cases v <;> rfl
    · rw [ofNatPadded_append_digit (List.length_pos_of_ne_nil hnil) _ hv,
        ih hnil fun c hc ↦ hs c (List.mem_append_left _ hc)]

theorem ofNatPadded_eq {width n : Nat} {s : Text} (hlength : s.length = width + 1)
    (hs : ∀ c ∈ s, c.isDigit = true) (hvalue : toNat s = n) : ofNatPadded (width + 1) n = s := by
  rw [← hvalue, ← hlength]
  exact ofNatPadded_toNat (List.ne_nil_of_length_eq_add_one hlength) hs

theorem ascii_of_mem_ofNatPadded {width n : Nat} {c : Char} (h : c ∈ ofNatPadded width n) :
    c.isDigit = true := by
  rcases List.mem_append.mp h with hzero | hdigit
  · rw [(List.mem_replicate.mp hzero).2]
    rfl
  · exact Nat.isDigit_of_mem_toDigits (by decide) (by decide) hdigit

end Text

/-! ## The text of a day in ASCII digits -/

namespace Date

theorem ascii_of_mem_toPaddedText {c : Char} (h : c ∈ d.toPaddedText) :
    c.isDigit = true ∨ c = '-' := by
  simp only [toPaddedText, List.mem_append, List.mem_singleton] at h
  rcases h with (((h | h) | h) | h) | h
  · exact .inl (Text.ascii_of_mem_ofNatPadded h)
  · exact .inr h
  · exact .inl (Text.ascii_of_mem_ofNatPadded h)
  · exact .inr h
  · exact .inl (Text.ascii_of_mem_ofNatPadded h)

/-- Among the texts that are read as a day, the one with four digits for the year is the only one in
ASCII digits. -/
theorem toPaddedText_eq_iff {s : Text} (h : ofText? s = some d) :
    d.toPaddedText = s ↔ ∀ c ∈ s, c.isDigit = true ∨ c = '-' := by
  refine ⟨?_, fun hs ↦ ?_⟩
  · rintro rfl c hc
    exact ascii_of_mem_toPaddedText hc
  · obtain ⟨year, month, a, b, hy, hm, ha, hb, rfl, hyear, hmonth, hday⟩ := exists_of_ofText? h
    -- neither a dash nor a space is a digit of any script
    have hascii : ∀ c ∈ year ++ '-' :: (month ++ '-' :: [a, b]), isDigit c = true →
        c.isDigit = true := by
      intro c hc hdigit
      refine (hs c hc).resolve_right ?_
      rintro rfl
      cases hdigit
    have haDigit : isDigit a = true := by
      refine ha.resolve_left ?_
      rintro rfl
      rcases hs ' ' (by simp) with h | h <;> cases h
    have hyear' : Text.ofNatPadded 4 d.year = year :=
      Text.ofNatPadded_eq hy.1 (fun c hc ↦ hascii c (by simp [hc]) (hy.2 c hc)) hyear
    have hmonth' : Text.ofNatPadded 2 d.month = month :=
      Text.ofNatPadded_eq hm.1 (fun c hc ↦ hascii c (by simp [hc]) (hm.2 c hc)) hmonth
    have hday' : Text.ofNatPadded 2 d.day = [a, b] := by
      refine Text.ofNatPadded_eq rfl ?_ hday
      exact List.forall_mem_cons.mpr ⟨hascii a (by simp) haDigit,
        List.forall_mem_singleton.mpr (hascii b (by simp) hb)⟩
    rw [toPaddedText, hyear', hmonth', hday']
    simp

theorem length_of_ofText? {s : Text} (h : ofText? s = some d) : s.length = 10 := by
  obtain ⟨year, month, a, b, hy, hm, -, -, rfl, -⟩ := exists_of_ofText? h
  rw [List.length_append, List.length_cons, List.length_append, hy.1, hm.1]
  rfl

theorem length_toText (d : Date) : d.toText.length = (Text.ofNat d.year).length + 6 := by
  rw [toText_eq, List.length_append, List.length_cons, List.length_append, List.length_cons,
    d.isDigits_month.1, d.isDigits_day.1]

theorem length_toText_eq_iff : d.toText.length = 10 ↔ 1000 ≤ d.year := by
  have hle : (Text.ofNat d.year).length ≤ 4 ∧ ((Text.ofNat d.year).length ≤ 3 ↔ d.year < 1000) :=
    ⟨(Text.length_ofNat_le_iff (by decide)).mpr (Nat.lt_succ_of_le d.valid.1.2),
      Text.length_ofNat_le_iff (by decide)⟩
  rw [length_toText]
  omega

/-- The written form of a day is read back from the year 1000 on, and before that not at all. -/
theorem ofText?_toText_eq (d : Date) :
    ofText? d.toText = if 1000 ≤ d.year then some d else none := by
  split
  · next h => exact ofText?_toText h
  · next h =>
    refine Option.eq_none_iff_forall_ne_some.mpr fun r hr ↦ h ?_
    exact length_toText_eq_iff.mp (length_of_ofText? hr)

theorem toText_eq_iff {s : Text} (h : ofText? s = some d) :
    d.toText = s ↔ 1000 ≤ d.year ∧ ∀ c ∈ s, c.isDigit = true ∨ c = '-' := by
  rw [← toPaddedText_eq_iff h]
  constructor
  · intro hs
    have hyear : 1000 ≤ d.year := by
      rw [← length_toText_eq_iff, hs]
      exact length_of_ofText? h
    exact ⟨hyear, (toPaddedText_eq_toText hyear).trans hs⟩
  · rintro ⟨hyear, hs⟩
    rw [← toPaddedText_eq_toText hyear, hs]

end Date

/-! ## The bases of early years -/

namespace Expression

theorem eq_of_leads_dashes {n k l : Nat} (hy : IsDigits n year) (hm : IsDigits k month)
    (hd : IsDigits l day) (h : Leads b (year ++ '-' :: (month ++ '-' :: day))) :
    b = year ∨ b = year ++ '-' :: month ∨ b = year ++ '-' :: (month ++ '-' :: day) := by
  obtain ⟨rest, heq, hrest⟩ := h
  cases rest with
  | nil =>
    rw [heq, List.append_nil]
    exact .inr (.inr rfl)
  | cons c rest =>
    rcases split_digits hy.2 hrest.not_isDigit heq with ⟨rfl, -, -⟩ | ⟨z, rfl, htail⟩
    · exact .inl rfl
    · rcases split_digits hm.2 hrest.not_isDigit htail with ⟨rfl, -, -⟩ | ⟨w, -, hday⟩
      · exact .inr (.inl rfl)
      · exact absurd hday (not_mem_of_isDigits hd hrest.not_isDigit)

end Expression

namespace Date

theorem length_year_add_mem {t : Text} (h : IsBase (Text.ofNat d.year ++ t)) :
    (Text.ofNat d.year).length + t.length ∈ [10, 5, 2, 1] := by
  have hpos : 0 < (Text.ofNat d.year).length := List.length_pos_of_ne_nil (Text.ofNat_ne_nil _)
  obtain ⟨n, hn⟩ := Nat.exists_eq_add_one.mpr hpos
  rw [← List.length_append]
  exact h.length_of_digits ⟨hn, fun _ ↦ Text.isDigit_of_mem_ofNat⟩

/-- For an early year, the base of what is written is the year alone or the year and the month. -/
theorem base_of_parse_toText (hearly : d.year < 1000) {e : Expression}
    (he : Expression.parse d.toText = .ok e) :
    (d.year < 10 ∧ e.base = Text.ofNat d.year) ∨
      (d.year < 100 ∧ e.base = Text.ofNat d.year ++ '-' :: Text.ofNatPadded 2 d.month) := by
  have hbase : Expression.base? d.toText = some e.base := (Expression.isReading_of_parse he).1
  obtain ⟨⟨hgrammar, hleads⟩, hlongest⟩ := Expression.base?_eq_some_iff.mp hbase
  have hyear : IsDigits (Text.ofNat d.year).length (Text.ofNat d.year) :=
    ⟨rfl, fun _ ↦ Text.isDigit_of_mem_ofNat⟩
  have hthree : (Text.ofNat d.year).length ≤ 3 := (Text.length_ofNat_le_iff (by decide)).mpr hearly
  have htwo : (Text.ofNat d.year).length ≤ 2 → d.year < 100 :=
    (Text.length_ofNat_le_iff (by decide)).mp
  have hone : (Text.ofNat d.year).length ≤ 1 → d.year < 10 :=
    (Text.length_ofNat_le_iff (by decide)).mp
  rw [toText_eq] at hleads hlongest
  rcases Expression.eq_of_leads_dashes hyear d.isDigits_month d.isDigits_day hleads with
    heq | heq | heq
  · have hlength := length_year_add_mem (t := []) (by rwa [List.append_nil, ← heq])
    simp only [List.length_nil, List.mem_cons, List.not_mem_nil, or_false] at hlength
    -- a year of two digits would have been taken together with the month
    have hne : (Text.ofNat d.year).length ≠ 2 := by
      intro hlen
      have hlonger := hlongest _ (.monthDay (hlen ▸ hyear) d.isDigits_month)
        ⟨'-' :: Text.ofNatPadded 2 d.day, by simp, .sign .minus _⟩
      rw [heq, List.length_append, List.length_cons] at hlonger
      omega
    exact .inl ⟨hone (by omega), heq⟩
  · rw [heq] at hgrammar
    have hlength := length_year_add_mem hgrammar
    simp only [List.length_cons, d.isDigits_month.1, List.mem_cons, List.not_mem_nil, or_false]
      at hlength
    exact .inr ⟨htwo (by omega), heq⟩
  · rw [heq] at hgrammar
    have hlength := length_year_add_mem hgrammar
    simp only [List.length_cons, List.length_append, d.isDigits_month.1, d.isDigits_day.1,
      List.mem_cons, List.not_mem_nil, or_false] at hlength
    omega

end Date

/-! ## The days of early years -/

/-- The last day of the calendar. -/
def Date.lastDay : Date := ⟨9999, 12, 31, by decide⟩

namespace DateWord

theorem dayOfMonth_lastDay (token : Text) : dayOfMonth .lastDay token ≠ .ok r := by
  intro h
  obtain ⟨hrange, hday⟩ := (dayOfMonth_eq_ok_iff rfl).mp h
  have hnone : comingDay? .lastDay (Text.toNat (Text.chomp token)) = none :=
    (comingDay?_eq_none_iff hrange.1).mpr ⟨rfl, rfl, hrange.2⟩
  rw [hnone] at hday
  cases hday

theorem monthDay_lastDay {token : Text} (hday : Text.toNat day < 31) :
    monthDay .lastDay token month day ≠ .ok r := by
  intro h
  obtain ⟨-, hm, hn, hfound⟩ := monthDay_eq_ok_iff.mp h
  obtain ⟨⟨⟨-, hfalls⟩, hle⟩, -⟩ := (nearestDay?_eq_some_iff hm hn.1).mp hfound
  have hearly : r.day < 31 := by omega
  have hyear := r.valid.1
  have hmonth := r.valid.2.1
  rw [Date.le_iff] at hle
  dsimp only [Date.lastDay] at hle
  omega

end DateWord

theorem literalDate_monthDay (hmonth : Text.isNumber month = true)
    (hday : Text.isNumber day = true) : literalDate base soonDays (month ++ '-' :: day) =
      DateWord.monthDay base (month ++ '-' :: day) month day := by
  rw [literalDate, DateWord.resolve_monthDay hmonth hday]
  split
  · next herror =>
    have hkind := DateWord.kind_of_monthDay herror
    simp [DateError.kind] at hkind
  · rfl

namespace Date

theorem evaluate_toText_eq (tags : TagTable) (d : Date) :
    (evaluate base soonDays tags d.toText).1 = (evaluate base soonDays .empty d.toText).1 := by
  obtain ⟨c, s, hcons, hc⟩ := d.exists_digit_toText
  rw [hcons, evaluate, evaluate, nestingLimit, evaluateWithin_of_digit hc,
    evaluateWithin_of_digit hc]

/-- If what is written for an early year stands for a day, then the year is a day of the month on
this base, or the year and the month are a month and day. -/
theorem exists_start_of_evaluate (hearly : d.year < 1000)
    (h : (evaluate base soonDays tags d.toText).1 = .ok r) :
    (d.year < 10 ∧ ∃ start, DateWord.dayOfMonth base (Text.ofNat d.year) = .ok start) ∨
      ∃ token start, DateWord.monthDay base token (Text.ofNat d.year)
        (Text.ofNatPadded 2 d.month) = .ok start := by
  rw [evaluate_toText_eq, evaluate_empty_eq_ok_iff] at h
  obtain ⟨e, start, he, hstart, -⟩ := h
  rcases base_of_parse_toText hearly he with ⟨hten, heq⟩ | ⟨-, heq⟩
  · rw [heq, literalDate_of_isNumber (Text.isNumber_ofNat _)] at hstart
    exact .inl ⟨hten, start, hstart⟩
  · rw [heq, literalDate_monthDay (Text.isNumber_ofNat _) (isNumber_of_isDigits d.isDigits_month)]
      at hstart
    exact .inr ⟨_, start, hstart⟩

theorem evaluate_lastDay_toText_ne (hearly : d.year < 1000) :
    (evaluate lastDay soonDays tags d.toText).1 ≠ .ok r := by
  intro h
  rcases exists_start_of_evaluate hearly h with ⟨-, start, hstart⟩ | ⟨token, start, hstart⟩
  · exact DateWord.dayOfMonth_lastDay _ hstart
  · refine DateWord.monthDay_lastDay ?_ hstart
    have hmonth : d.month ≤ 12 := d.valid.2.1.2
    rw [Text.toNat_ofNatPadded]
    omega

theorem forall_evaluate_toText_iff (soonDays : Int) (tags : TagTable) (d : Date) :
    (∀ base, (evaluate base soonDays tags d.toText).1 = .ok d) ↔ 1000 ≤ d.year := by
  constructor
  · intro h
    by_contra hyear
    exact evaluate_lastDay_toText_ne (Nat.not_le.mp hyear) (h lastDay)
  · intro hyear base
    exact congrArg Prod.fst (evaluateWithin_toText hyear 10 tags)

/-- **Writing and reading.** From the year 1000 on, and only then, a day is read back from its
written form, and the written form stands for it as an expression on every base. Every day can be
read from a text, and a text that is read as a day is its written form if the year is one of these
and the text is in ASCII digits. -/
theorem toText_ofText? (d : Date) (soonDays : Int) (tags : TagTable) (s : Text) :
    ofText? d.toText = (if 1000 ≤ d.year then some d else none) ∧
      ((∀ base, (evaluate base soonDays tags d.toText).1 = .ok d) ↔ 1000 ≤ d.year) ∧
      ofText? d.toPaddedText = some d ∧
      (ofText? s = some d →
        (d.toText = s ↔ 1000 ≤ d.year ∧ ∀ c ∈ s, c.isDigit = true ∨ c = '-')) :=
  ⟨ofText?_toText_eq d, forall_evaluate_toText_iff soonDays tags d, ofText?_toPaddedText d,
    toText_eq_iff⟩

theorem toText_ofText?_march :
    let d : Date := ⟨2020, 3, 5, by decide⟩
    ofText? "2020-03-05".toList = some d ∧ d.toText = "2020-03-05".toList ∧
      ofText? "2020-03- 5".toList = some d ∧ d.toText ≠ "2020-03- 5".toList := by
  intro d
  have hread : ofText? "2020-03-05".toList = some d := by decide
  have hspaced : ofText? "2020-03- 5".toList = some d := by decide
  have hascii : ∀ c ∈ "2020-03-05".toList, c.isDigit = true ∨ c = '-' := by simp
  have hspace : ' ' ∈ "2020-03- 5".toList := by decide
  obtain ⟨-, -, -, hwritten⟩ := toText_ofText? d 7 .empty "2020-03-05".toList
  obtain ⟨-, -, -, hnotWritten⟩ := toText_ofText? d 7 .empty "2020-03- 5".toList
  refine ⟨hread, (hwritten hread).mpr ⟨by decide, hascii⟩, hspaced, fun h ↦ ?_⟩
  exact absurd (((hnotWritten hspaced).mp h).2 ' ' hspace) (by decide)

/-- Without the conditions, neither the writer undoes the reader nor the reader the writer. -/
theorem not_forall_toText_ofText? :
    (¬ ∀ d : Date, ofText? d.toText = some d) ∧
    (¬ ∀ base d : Date, (evaluate base 7 .empty d.toText).1 = .ok d) ∧
    ¬ ∀ (s : Text) (d : Date), ofText? s = some d → d.toText = s := by
  refine ⟨fun h ↦ ?_, fun h ↦ ?_, fun h ↦ ?_⟩
  · exact absurd (h ⟨999, 3, 4, by decide⟩) (by decide)
  · exact absurd (h ⟨2020, 3, 15, by decide⟩ ⟨999, 3, 4, by decide⟩) (by decide)
  · exact absurd (h "2020-03- 5".toList ⟨2020, 3, 5, by decide⟩ (by decide)) (by decide)

end Date

end Agenda
