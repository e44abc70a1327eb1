import Agenda.Proofs.Grammar
import Agenda.Proofs.Reference
import Mathlib.Tactic.IntervalCases

/-!
# Written days

A day is written with a year of any length, and read with a year of four digits. From the year 1000
on the two agree, and the written day is read back (`Date.ofText?_toText`); as an expression it
stands for the day itself, whatever the base, the tags and the budget (`evaluateWithin_toText`).

What is written for an earlier year begins with a digit all the same. So it refers to no tag, and
whatever it stands for does not depend on the tags (`evaluateWithin_of_digit`).
-/

namespace Agenda

/-! ## Numbers -/

namespace Text

theorem digitValue?_digitChar {n : Nat} (h : n < 10) : digitValue? n.digitChar = some n := by
  interval_cases n <;> rfl

theorem isDigit_of_isDigit {c : Char} (h : c.isDigit = true) : isDigit c = true := by
  have hrange : 48 ≤ c.toNat ∧ c.toNat ≤ 57 := by
    simpa [Char.isDigit, Char.le_def, UInt32.le_iff_toNat_le] using h
  have hfirst : digitZeros.find? (fun z ↦ z ≤ c.toNat && c.toNat < z + 10) = some 0x30 := by
    rw [digitZeros, List.find?_cons_of_pos]
    simp only [Bool.and_eq_true, decide_eq_true_eq]
    omega
  rw [isDigit, digitValue?, hfirst]
  rfl

theorem isDigit_of_mem_ofNat {n : Nat} {c : Char} (h : c ∈ ofNat n) : isDigit c = true :=
  isDigit_of_isDigit (Nat.isDigit_of_mem_toDigits (by decide) (by decide) h)

theorem toNat_append_singleton (s : Text) (c : Char) :
    toNat (s ++ [c]) = 10 * toNat s + digitValue c := by
  rw [toNat, List.foldl_append]
  rfl

@[simp] theorem toNat_ofNat (n : Nat) : toNat (ofNat n) = n := by
  induction n using Nat.strongRecOn with
  | ind n ih =>
    by_cases h : n < 10
    · rw [ofNat, Nat.toDigits_of_lt_base h, ← List.nil_append [n.digitChar], toNat_append_singleton,
        digitValue, digitValue?_digitChar h]
      exact Nat.zero_add n
    · have hmod : n % 10 < 10 := Nat.mod_lt n (by decide)
      rw [ofNat, Nat.toDigits_of_base_le (by decide) (by omega), toNat_append_singleton, ← ofNat,
        ih (n / 10) (by omega), digitValue, digitValue?_digitChar hmod]
      exact Nat.div_add_mod n 10

theorem toNat_replicate_zero_append (k : Nat) (s : Text) :
    toNat (List.replicate k '0' ++ s) = toNat s := by
  induction k with
  | zero => rfl
  | succ k ih =>
    rw [List.replicate_succ, List.cons_append, ← ih]
    rfl

@[simp] theorem toNat_ofNatPadded (width n : Nat) : toNat (ofNatPadded width n) = n := by
  rw [ofNatPadded, toNat_replicate_zero_append, toNat_ofNat]

theorem length_ofNat_le_iff {n k : Nat} (hk : 0 < k) : (ofNat n).length ≤ k ↔ n < 10 ^ k :=
  Nat.length_toDigits_le_iff (by decide) hk

theorem ofNat_ne_nil (n : Nat) : ofNat n ≠ [] := Nat.toDigits_ne_nil

theorem isNumber_ofNat (n : Nat) : isNumber (ofNat n) = true :=
  isNumber_iff.mpr ⟨ofNat_ne_nil n, fun _ ↦ isDigit_of_mem_ofNat⟩

theorem isDigit_of_mem_ofNatPadded {width n : Nat} {c : Char} (h : c ∈ ofNatPadded width n) :
    isDigit c = true := by
  rcases List.mem_append.mp h with hzero | hdigit
  · rw [(List.mem_replicate.mp hzero).2]
    rfl
  · exact isDigit_of_mem_ofNat hdigit

theorem length_ofNatPadded {width n : Nat} (hwidth : 0 < width) (hn : n < 10 ^ width) :
    (ofNatPadded width n).length = width := by
  have hle : (ofNat n).length ≤ width := (length_ofNat_le_iff hwidth).mpr hn
  rw [ofNatPadded, List.length_append, List.length_replicate, Nat.sub_add_cancel hle]

end Text

namespace Date

open Expression (IsDigits)

variable {d : Date}

/-! ## The parts of a written day -/

theorem toText_eq (d : Date) : d.toText = Text.ofNat d.year ++
    '-' :: (Text.ofNatPadded 2 d.month ++ '-' :: Text.ofNatPadded 2 d.day) := by
  simp [toText]

theorem isDigits_year (h : 1000 ≤ d.year) : IsDigits 4 (Text.ofNat d.year) := by
  have hle : (Text.ofNat d.year).length ≤ 4 :=
    (Text.length_ofNat_le_iff (by decide)).mpr (Nat.lt_succ_of_le d.valid.1.2)
  have hgt : ¬ (Text.ofNat d.year).length ≤ 3 := by
    rw [Text.length_ofNat_le_iff (by decide)]
    omega
  exact ⟨by omega, fun _ ↦ Text.isDigit_of_mem_ofNat⟩

theorem length_paddedYear (d : Date) : (Text.ofNatPadded 4 d.year).length = 4 :=
  Text.length_ofNatPadded (by decide) (Nat.lt_succ_of_le d.valid.1.2)

theorem isDigits_month (d : Date) : IsDigits 2 (Text.ofNatPadded 2 d.month) :=
  ⟨Text.length_ofNatPadded (by decide) (by have := d.valid.2.1.2; omega),
    fun _ ↦ Text.isDigit_of_mem_ofNatPadded⟩

theorem day_le (d : Date) : d.day ≤ 31 := d.valid.2.2.2.trans (monthLength_le _ _)

theorem isDigits_day (d : Date) : IsDigits 2 (Text.ofNatPadded 2 d.day) :=
  ⟨Text.length_ofNatPadded (by decide) (by have := d.day_le; omega),
    fun _ ↦ Text.isDigit_of_mem_ofNatPadded⟩

theorem exists_digit_toText (d : Date) : ∃ c s, d.toText = c :: s ∧ isDigit c = true := by
  obtain ⟨c, s, hyear⟩ := List.exists_cons_of_ne_nil (Text.ofNat_ne_nil d.year)
  refine ⟨c, _, by rw [toText_eq, hyear, List.cons_append], ?_⟩
  exact Text.isDigit_of_mem_ofNat (by rw [hyear]; exact List.mem_cons_self)

theorem mem_toText {c : Char} (h : c ∈ d.toText) : isDigit c = true ∨ c = '-' := by
  rw [toText_eq, List.mem_append, List.mem_cons, List.mem_append, List.mem_cons] at h
  rcases h with h | h | h | h | h
  · exact Or.inl (Text.isDigit_of_mem_ofNat h)
  · exact Or.inr h
  · exact Or.inl (Text.isDigit_of_mem_ofNatPadded h)
  · exact Or.inr h
  · exact Or.inl (Text.isDigit_of_mem_ofNatPadded h)

/-! ## Reading it back -/

theorem readMonth?_ofNatPadded {month : Nat} (h₁ : 1 ≤ month) (h₂ : month ≤ 12) :
    ∃ a b, Text.ofNatPadded 2 month = [a, b] ∧ readMonth? a b = some month := by
  interval_cases month <;> exact ⟨_, _, rfl, rfl⟩

theorem readDay?_ofNatPadded {day : Nat} (h₁ : 1 ≤ day) (h₂ : day ≤ 31) :
    ∃ a b, Text.ofNatPadded 2 day = [a, b] ∧ readDay? a b = some day := by
  interval_cases day <;> exact ⟨_, _, rfl, rfl⟩

/-- A day that is written with four digits for the year is read back. -/
theorem ofText?_toPaddedText (d : Date) : ofText? d.toPaddedText = some d := by
  obtain ⟨m₁, m₂, hmonth, hreadMonth⟩ := readMonth?_ofNatPadded d.valid.2.1.1 d.valid.2.1.2
  obtain ⟨d₁, d₂, hday, hreadDay⟩ := readDay?_ofNatPadded d.valid.2.2.1 d.day_le
  obtain ⟨y₁, y₂, y₃, y₄, hyear⟩ := List.length_eq_four.mp d.length_paddedYear
  have hnumber : Text.isNumber [y₁, y₂, y₃, y₄] = true := by
    refine Text.isNumber_iff.mpr ⟨by simp, fun c hc ↦ ?_⟩
    rw [← hyear] at hc
    exact Text.isDigit_of_mem_ofNatPadded hc
  have hvalue : Text.toNat [y₁, y₂, y₃, y₄] = d.year := by rw [← hyear, Text.toNat_ofNatPadded]
  have hshape : d.toPaddedText = [y₁, y₂, y₃, y₄, '-', m₁, m₂, '-', d₁, d₂] := by
    rw [toPaddedText, hyear, hmonth, hday]
    rfl
  rw [hshape, ofText?]
  simp [hnumber, hvalue, hreadMonth, hreadDay, ofParts?_self]

/-- From the year 1000 on, no zeros have to be put in front. -/
theorem toPaddedText_eq_toText (h : 1000 ≤ d.year) : d.toPaddedText = d.toText := by
  have hyear : Text.ofNatPadded 4 d.year = Text.ofNat d.year := by
    rw [Text.ofNatPadded, (isDigits_year h).1]
    rfl
  rw [toPaddedText, toText, hyear]

theorem ofText?_toText (h : 1000 ≤ d.year) : ofText? d.toText = some d := by
  rw [← toPaddedText_eq_toText h, ofText?_toPaddedText]

/-! ## What is read as a day -/

theorem isDigit_of_le {c : Char} (h₁ : '0' ≤ c) (h₂ : c ≤ '9') : isDigit c = true := by
  refine Text.isDigit_of_isDigit ?_
  rw [Char.isDigit, Bool.and_eq_true, decide_eq_true_iff, decide_eq_true_iff]
  exact ⟨h₁, h₂⟩

theorem isDigit_of_readMonth? {a b : Char} {month : Nat} (h : readMonth? a b = some month) :
    isDigit a = true ∧ isDigit b = true := by
  unfold readMonth? at h
  split at h
  · split at h
    · next hb =>
      rw [Bool.and_eq_true, decide_eq_true_iff, decide_eq_true_iff] at hb
      exact ⟨rfl, isDigit_of_le hb.1 (Char.le_trans hb.2 (by decide))⟩
    · cases h
  · split at h
    · next hb =>
      rw [Bool.and_eq_true, decide_eq_true_iff, decide_eq_true_iff] at hb
      exact ⟨rfl, isDigit_of_le (Char.le_trans (by decide) hb.1) hb.2⟩
    · cases h
  · cases h

theorem isDigit_of_readDay? {a b : Char} {day : Nat} (h : readDay? a b = some day) :
    (a = ' ' ∨ isDigit a = true) ∧ isDigit b = true := by
  unfold readDay? at h
  split at h
  · split at h
    · next hb =>
      rw [Bool.or_eq_true, beq_iff_eq, beq_iff_eq] at hb
      refine ⟨.inr rfl, ?_⟩
      rcases hb with rfl | rfl
      · rfl
      · rfl
    · cases h
  · split at h
    · next hb =>
      rw [Bool.and_eq_true, decide_eq_true_iff, decide_eq_true_iff] at hb
      exact ⟨.inr rfl, isDigit_of_le (Char.le_trans (by decide) hb.1) hb.2⟩
    · cases h
  · split at h
    · next hb =>
      rw [Bool.and_eq_true, decide_eq_true_iff, decide_eq_true_iff] at hb
      exact ⟨.inl rfl, isDigit_of_le (Char.le_trans (by decide) hb.1) hb.2⟩
    · cases h
  · split at h
    · next hb =>
      rw [Bool.and_eq_true, Bool.or_eq_true, beq_iff_eq, beq_iff_eq] at hb
      refine ⟨.inr ?_, hb.2⟩
      rcases hb.1 with rfl | rfl
      · rfl
      · rfl
    · cases h

theorem toNat_of_readMonth? {a b : Char} {month : Nat} (h : readMonth? a b = some month) :
    Text.toNat [a, b] = month := by
  unfold readMonth? at h
  split at h
  · split at h
    · cases h
      rfl
    · cases h
  · split at h
    · cases h
      exact Nat.zero_add _
    · cases h
  · cases h

theorem toNat_of_readDay? {a b : Char} {day : Nat} (h : readDay? a b = some day) :
    Text.toNat [a, b] = day := by
  unfold readDay? at h
  split at h
  · split at h
    · cases h
      rfl
    · cases h
  · split at h
    · cases h
      exact Nat.zero_add _
    · cases h
  · split at h
    · cases h
      exact Nat.zero_add _
    · cases h
  · split at h
    · cases h
      rfl
    · cases h

/-- What is read as a day has the form of an absolute day but for a space before the last digit, and
the three numbers in it are those of the day. -/
theorem exists_of_ofText? {s : Text} (h : ofText? s = some d) :
    ∃ year month a b, IsDigits 4 year ∧ IsDigits 2 month ∧ (a = ' ' ∨ isDigit a = true) ∧
      isDigit b = true ∧ s = year ++ '-' :: (month ++ '-' :: [a, b]) ∧
      Text.toNat year = d.year ∧ Text.toNat month = d.month ∧ Text.toNat [a, b] = d.day := by
  rw [ofText?.eq_def] at h
  split at h
  · next y₁ y₂ y₃ y₄ m₁ m₂ d₁ d₂ =>
    simp only [Option.bind_eq_bind, Option.bind_eq_some_iff, Option.guard_eq_some'] at h
    obtain ⟨_, hyear, month, hmonth, day, hday, hparts⟩ := h
    rw [Text.isNumber_iff] at hyear
    obtain ⟨hm₁, hm₂⟩ := isDigit_of_readMonth? hmonth
    obtain ⟨hd₁, hd₂⟩ := isDigit_of_readDay? hday
    have hm : IsDigits 2 [m₁, m₂] :=
      ⟨rfl, List.forall_mem_cons.mpr ⟨hm₁, List.forall_mem_singleton.mpr hm₂⟩⟩
    obtain ⟨hdYear, hdMonth, hdDay⟩ := ofParts?_eq_some_iff.mp hparts
    exact ⟨[y₁, y₂, y₃, y₄], [m₁, m₂], d₁, d₂, ⟨rfl, hyear.2⟩, hm, hd₁, hd₂, rfl, hdYear.symm,
      (toNat_of_readMonth? hmonth).trans hdMonth.symm, (toNat_of_readDay? hday).trans hdDay.symm⟩
  · cases h

theorem mem_of_ofText? {s : Text} (h : ofText? s = some d) {c : Char} (hc : c ∈ s) :
    isDigit c = true ∨ c = '-' ∨ c = ' ' := by
  obtain ⟨year, month, a, b, hy, hm, ha, hb, rfl, -⟩ := exists_of_ofText? h
  rw [List.mem_append, List.mem_cons, List.mem_append, List.mem_cons, List.mem_cons,
    List.mem_singleton] at hc
  rcases hc with hc | hc | hc | hc | rfl | rfl
  · exact .inl (hy.2 c hc)
  · exact .inr (.inl hc)
  · exact .inl (hm.2 c hc)
  · exact .inr (.inl hc)
  · exact ha.elim (.inr ∘ .inr) .inl
  · exact .inl hb

/-- Without a space, what is read as a day has the form of an absolute day. -/
theorem isDigits_of_ofText? {s : Text} (h : ofText? s = some d) (hspace : ' ' ∉ s) :
    ∃ year month day, IsDigits 4 year ∧ IsDigits 2 month ∧ IsDigits 2 day ∧
      s = year ++ '-' :: (month ++ '-' :: day) := by
  obtain ⟨year, month, a, b, hy, hm, ha, hb, rfl, -⟩ := exists_of_ofText? h
  have ha : isDigit a = true := ha.resolve_left fun hspace' ↦ hspace (by simp [hspace'])
  have hday : IsDigits 2 [a, b] :=
    ⟨rfl, List.forall_mem_cons.mpr ⟨ha, List.forall_mem_singleton.mpr hb⟩⟩
  exact ⟨year, month, [a, b], hy, hm, hday, rfl⟩

theorem isBase_of_ofText? {s : Text} (h : ofText? s = some d) (hspace : ' ' ∉ s) :
    Expression.IsBase s := by
  obtain ⟨year, month, day, hy, hm, hd, rfl⟩ := isDigits_of_ofText? h hspace
  exact .absolute hy hm hd

/-! ## As a date word -/

theorem isDashed_of_dashes {s : Text} (hne : s ≠ []) (hs : ∀ c ∈ s, isDigit c = true ∨ c = '-') :
    Text.chomp s = s ∧ DateWord.isDashed s = true := by
  have hchomp : Text.chomp s = s := by
    refine Text.chomp_of_not_mem fun hmem ↦ ?_
    rcases hs _ hmem with h | h <;> revert h <;> decide
  have hall : s.all (fun c ↦ isDigit c || c == '-') = true := by
    rw [List.all_eq_true]
    intro c hc
    simpa using hs c hc
  refine ⟨hchomp, ?_⟩
  rw [DateWord.isDashed, hchomp, List.isEmpty_eq_false_iff.mpr hne, hall]
  rfl

theorem resolve_of_dashes (base : Date) (soonDays : Int) {s : Text}
    (hs : ∀ c ∈ s, isDigit c = true ∨ c = '-') (hcount : 2 ≤ s.count '-') :
    DateWord.resolve base soonDays s = .error (.absolute s) := by
  have hne : s ≠ [] := by
    rintro rfl
    cases hcount
  exact DateWord.resolve_eq_absolute_iff.mpr ⟨rfl, (isDashed_of_dashes hne hs).2, hcount⟩

theorem resolve_toText (base : Date) (soonDays : Int) (d : Date) :
    DateWord.resolve base soonDays d.toText = .error (.absolute d.toText) := by
  refine resolve_of_dashes base soonDays (fun _ ↦ mem_toText) ?_
  rw [toText_eq, List.count_append, List.count_cons_self, List.count_append, List.count_cons_self]
  omega

theorem resolve_of_ofText? (base : Date) (soonDays : Int) {s : Text} (h : ofText? s = some d)
    (hspace : ' ' ∉ s) : DateWord.resolve base soonDays s = .error (.absolute s) := by
  have hmem : ∀ c ∈ s, isDigit c = true ∨ c = '-' := by
    intro c hc
    rcases mem_of_ofText? h hc with hc' | hc' | rfl
    · exact .inl hc'
    · exact .inr hc'
    · exact absurd hc hspace
  refine resolve_of_dashes base soonDays hmem ?_
  obtain ⟨year, month, day, -, -, -, rfl⟩ := isDigits_of_ofText? h hspace
  rw [List.count_append, List.count_cons_self, List.count_append, List.count_cons_self]
  omega

end Date

/-! ## As an expression -/

variable {base : Date} {soonDays : Int} {tags : TagTable} {c : Char} {s : Text}

theorem literalDate_of_ofText? {d : Date} (h : Date.ofText? s = some d) (hspace : ' ' ∉ s) :
    literalDate base soonDays s = .ok d := by
  simp only [literalDate, Date.resolve_of_ofText? base soonDays h hspace, h]

theorem literalDate_toText {d : Date} (h : 1000 ≤ d.year) :
    literalDate base soonDays d.toText = .ok d := by
  simp only [literalDate, Date.resolve_toText, Date.ofText?_toText h]

theorem Date.isBase_toText (d : Date) (h : 1000 ≤ d.year) : Expression.IsBase d.toText := by
  rw [Date.toText_eq]
  exact .absolute (Date.isDigits_year h) d.isDigits_month d.isDigits_day

theorem Expression.IsBase.ne_nil {s : Text} (h : IsBase s) : s ≠ [] := by
  rintro rfl
  rcases isBase_iff.mp h with ⟨hne, -⟩ | h | h | h | h
  · exact hne rfl
  all_goals cases h

theorem referenceName?_of_digit (hc : isDigit c = true) {e : Expression}
    (he : Expression.parse (c :: s) = .ok e) : referenceName? e.base = none := by
  obtain ⟨-, hreading⟩ := Expression.isReading_of_parse he
  obtain ⟨b, t, hb⟩ := List.exists_cons_of_ne_nil hreading.base.ne_nil
  have hspelt := hreading.toText
  rw [Expression.toText, hb, List.cons_append] at hspelt
  obtain ⟨rfl, -⟩ := List.cons.inj hspelt
  rw [referenceName?, hb, List.all_cons, Expression.not_isLatin_of_isDigit hc, Bool.false_and,
    Bool.and_false]
  rfl

theorem TagTable.reference?_of_digit (hc : isDigit c = true) : tags.reference? (c :: s) = none := by
  cases he : Expression.parse (c :: s) with
  | error => rw [reference?, he]
  | ok e => simp only [reference?, he, referenceName?_of_digit hc he, Option.bind_none]

theorem TagTable.directDate_of_isBase (hc : isDigit c = true) (hbase : Expression.IsBase (c :: s)) :
    tags.directDate base soonDays (c :: s) = literalDate base soonDays (c :: s) := by
  have hparse := Expression.parse_of_isBase hbase
  have hname : referenceName? (c :: s) = none := referenceName?_of_digit hc hparse
  rw [directDate_of_parse hparse, bind_applyOffsets_nil, hname, Option.bind_none]

/-- A text that begins with a digit stands for one thing over all tables, and notes nothing. -/
theorem evaluateWithin_of_digit (hc : isDigit c = true) (n : Nat) (tags : TagTable) :
    evaluateWithin base soonDays (n + 1) tags (c :: s) =
      (TagTable.empty.directDate base soonDays (c :: s), tags) := by
  rw [evaluateWithin_of_none n (TagTable.reference?_of_digit hc)]
  refine congrArg (·, tags) (TagTable.directDate_congr base soonDays fun e he ↦ ?_)
  rw [referenceName?_of_digit hc he, Option.bind_none, Option.bind_none]

theorem evaluateWithin_toText {d : Date} (h : 1000 ≤ d.year) (n : Nat) (tags : TagTable) :
    evaluateWithin base soonDays (n + 1) tags d.toText = (.ok d, tags) := by
  obtain ⟨c, s, hcons, hc⟩ := d.exists_digit_toText
  have hbase : Expression.IsBase (c :: s) := by
    rw [← hcons]
    exact d.isBase_toText h
  have hliteral : literalDate base soonDays (c :: s) = .ok d := by
    rw [← hcons]
    exact literalDate_toText h
  rw [hcons, evaluateWithin_of_digit hc, TagTable.directDate_of_isBase hc hbase, hliteral]

end Agenda
