import Agenda.Value.Quantity
import Mathlib.Data.List.DropRight

/-!
# Times of day as they are written

A time of day is one number, hours times a hundred and minutes. It is written as that number, or by
a clock of twelve hours with the half of the day behind the digits (`IsClockTime`). There twelve
comes before one, so twelve o'clock in the morning is at hour zero, and twelve o'clock in the
afternoon at twelve and not at twenty-four.

The reader does not look for the half of the day. It takes all letters `a`, `p` and `m` off the end,
however many there are, and then asks what they were. Since a digit is none of these letters, what
it takes off a time is the half of the day, and what stands in front of it are the digits.
-/

namespace Agenda

variable {s digits mark v : Text} {n number : Nat}

/-- The forms of a time of day in small letters, and its number. -/
inductive IsClockTime : Text → Nat → Prop
  /-- Three digits or more by a clock of 24 hours. -/
  | whole {digits : Text} (hdigits : Text.isNumber digits = true) (hlength : 3 ≤ digits.length)
      (hhour : Text.toNat digits / 100 ≤ 23) (hminute : Text.toNat digits % 100 ≤ 59) :
      IsClockTime digits (Text.toNat digits)
  /-- Digits by a clock of 12 hours before noon. -/
  | morning {digits : Text} {hour minute : Nat} (hdigits : Text.isNumber digits = true)
      (hnumber : Text.toNat digits = hour * 100 + minute) (hhour : 1 ≤ hour ∧ hour ≤ 12)
      (hminute : minute ≤ 59) : IsClockTime (digits ++ "am".toList) (hour % 12 * 100 + minute)
  /-- Digits by a clock of 12 hours after noon. -/
  | afternoon {digits : Text} {hour minute : Nat} (hdigits : Text.isNumber digits = true)
      (hnumber : Text.toNat digits = hour * 100 + minute) (hhour : 1 ≤ hour ∧ hour ≤ 12)
      (hminute : minute ≤ 59) :
      IsClockTime (digits ++ "pm".toList) (hour % 12 * 100 + 1200 + minute)

theorem IsClockTime.range (h : IsClockTime s n) : n / 100 ≤ 23 ∧ n % 100 ≤ 59 := by
  cases h with
  | whole hdigits hlength hhour hminute => exact ⟨hhour, hminute⟩
  | morning hdigits hnumber hhour hminute => omega
  | afternoon hdigits hnumber hhour hminute => omega

/-! ## Clocks -/

theorem clock24?_eq_some_iff :
    clock24? number = some n ↔ number / 100 ≤ 23 ∧ number % 100 ≤ 59 ∧ number = n := by
  rw [clock24?]
  split
  · next hnone =>
    rw [Bool.or_eq_true, decide_eq_true_iff, decide_eq_true_iff] at hnone
    refine iff_of_false nofun ?_
    omega
  · next hsome =>
    rw [Bool.or_eq_true, decide_eq_true_iff, decide_eq_true_iff] at hsome
    rw [Option.some_inj]
    omega

/-- Both corrections together take the hour as a remainder. -/
theorem clock12?_eq (afternoon : Bool) (number : Nat) : clock12? afternoon number =
    if 12 < number / 100 ∨ number / 100 = 0 ∨ 59 < number % 100 then none
    else some (number / 100 % 12 * 100 + number % 100 + if afternoon then 1200 else 0) := by
  rw [clock12?]
  simp only [Bool.or_eq_true, decide_eq_true_iff, beq_iff_eq, or_assoc]
  split
  · rfl
  · next hclock =>
    refine congrArg some ?_
    cases afternoon with
    | false =>
      simp only [Bool.not_false, Bool.and_true, Bool.and_false, Bool.false_eq_true, if_false,
        Bool.and_eq_true, decide_eq_true_iff]
      split <;> omega
    | true =>
      simp only [Bool.not_true, Bool.and_false, Bool.and_true, Bool.false_eq_true, if_false,
        if_true, decide_eq_true_iff]
      split <;> omega

theorem clock12?_eq_some_iff (afternoon : Bool) : clock12? afternoon number = some n ↔
    ∃ hour minute, number = hour * 100 + minute ∧ (1 ≤ hour ∧ hour ≤ 12) ∧ minute ≤ 59 ∧
      n = hour % 12 * 100 + (if afternoon then 1200 else 0) + minute := by
  rw [clock12?_eq]
  split
  · next hnone =>
    refine iff_of_false nofun ?_
    rintro ⟨hour, minute, hnumber, hhour, hminute, -⟩
    omega
  · next hsome =>
    rw [Option.some_inj]
    constructor
    · rintro rfl
      exact ⟨number / 100, number % 100, by omega, by omega, by omega, by omega⟩
    · rintro ⟨hour, minute, hnumber, hhour, hminute, rfl⟩
      obtain rfl : number / 100 = hour := by omega
      obtain rfl : number % 100 = minute := by omega
      omega

/-! ## Halves of the day -/

theorem halfLetter_of_isDigit {c : Char} (hc : isDigit c = true) :
    (c == 'a' || c == 'p' || c == 'm') = false := by
  rw [Bool.eq_false_iff]
  intro hletter
  simp only [Bool.or_eq_true, beq_iff_eq] at hletter
  obtain (rfl | rfl) | rfl := hletter <;> exact absurd hc (by decide)

theorem Text.trimEnd_append_of_all {p : Char → Bool} (hmark : mark.all p = true) (s : Text) :
    trimEnd p (s ++ mark) = trimEnd p s := by
  have hall : ∀ c ∈ mark.reverse, p c = true := by simpa using hmark
  rw [trimEnd, trimEnd, List.reverse_append, List.dropWhile_append_of_pos hall]

theorem trimEnd_append (hdigits : Text.isNumber digits = true)
    (hmark : mark = "am".toList ∨ mark = "pm".toList) :
    Text.trimEnd (fun c ↦ c == 'a' || c == 'p' || c == 'm') (digits ++ mark) = digits := by
  have hletters : mark.all (fun c ↦ c == 'a' || c == 'p' || c == 'm') = true := by
    obtain rfl | rfl := hmark <;> decide
  rw [Text.trimEnd_append_of_all hletters]
  refine List.rdropWhile_eq_self_iff.mpr fun hne ↦ ?_
  have hlast := (Text.isNumber_iff.mp hdigits).2 _ (List.getLast_mem hne)
  rw [halfLetter_of_isDigit hlast]
  exact Bool.false_ne_true

theorem not_isNumber_append (hmark : mark = "am".toList ∨ mark = "pm".toList) :
    Text.isNumber (digits ++ mark) = false := by
  rw [Bool.eq_false_iff, ne_eq, Text.isNumber_iff]
  rintro ⟨-, hall⟩
  have hm : 'm' ∈ digits ++ mark := by
    refine List.mem_append_right _ ?_
    obtain rfl | rfl := hmark <;> decide
  exact absurd (hall 'm' hm) (by decide)

/-! ## The reader -/

theorem isClockTime_iff_of_isNumber (hs : Text.isNumber s = true) : IsClockTime s n ↔
    3 ≤ s.length ∧ Text.toNat s / 100 ≤ 23 ∧ Text.toNat s % 100 ≤ 59 ∧ Text.toNat s = n := by
  constructor
  · intro h
    cases h with
    | whole hdigits hlength hhour hminute => exact ⟨hlength, hhour, hminute, rfl⟩
    | morning => exact absurd hs (by rw [not_isNumber_append (.inl rfl)]; decide)
    | afternoon => exact absurd hs (by rw [not_isNumber_append (.inr rfl)]; decide)
  · rintro ⟨hlength, hhour, hminute, rfl⟩
    exact .whole hs hlength hhour hminute

/-- What the reader does with a text that is no number is told by the half of the day. -/
theorem isClockTime_iff_of_not_isNumber (hs : Text.isNumber s = false) : IsClockTime s n ↔
    ∃ digits, Text.isNumber digits = true ∧
      (s = digits ++ "am".toList ∧ clock12? false (Text.toNat digits) = some n ∨
        s = digits ++ "pm".toList ∧ clock12? true (Text.toNat digits) = some n) := by
  simp only [clock12?_eq_some_iff, Bool.false_eq_true, if_false, if_true, Nat.add_zero]
  constructor
  · intro h
    cases h with
    | whole hdigits => exact absurd hdigits (by rw [hs]; decide)
    | morning hdigits hnumber hhour hminute =>
      exact ⟨_, hdigits, .inl ⟨rfl, _, _, hnumber, hhour, hminute, rfl⟩⟩
    | afternoon hdigits hnumber hhour hminute =>
      exact ⟨_, hdigits, .inr ⟨rfl, _, _, hnumber, hhour, hminute, rfl⟩⟩
  · rintro ⟨digits, hdigits, ⟨rfl, hour, minute, hnumber, hhour, hminute, rfl⟩ |
      ⟨rfl, hour, minute, hnumber, hhour, hminute, rfl⟩⟩
    · exact .morning hdigits hnumber hhour hminute
    · exact .afternoon hdigits hnumber hhour hminute

theorem readTime?_eq_some_iff : readTime? v = some n ↔ IsClockTime (Text.lower v) n := by
  rw [readTime?]
  generalize Text.lower v = s
  dsimp only
  cases hs : Text.isNumber s with
  | true =>
    rw [if_pos rfl, isClockTime_iff_of_isNumber hs, ← clock24?_eq_some_iff]
    split
    · next hshort => exact iff_of_false nofun fun h ↦ by omega
    · next hlong => exact ⟨fun h ↦ ⟨by omega, h⟩, And.right⟩
  | false =>
    rw [if_neg Bool.false_ne_true, isClockTime_iff_of_not_isNumber hs]
    constructor
    · intro h
      -- What is left after the letters is the front of the text, so the rest is what was taken off.
      have hfront : Text.trimEnd (fun c ↦ c == 'a' || c == 'p' || c == 'm') s <+: s :=
        List.rdropWhile_prefix _ _
      generalize Text.trimEnd (fun c ↦ c == 'a' || c == 'p' || c == 'm') s = digits at h hfront
      obtain ⟨mark, rfl⟩ := hfront
      rw [List.drop_left] at h
      split at h
      · next hdigits =>
        split at h
        · exact ⟨digits, hdigits, .inl ⟨rfl, h⟩⟩
        · exact ⟨digits, hdigits, .inr ⟨rfl, h⟩⟩
        · cases h
      · cases h
    · rintro ⟨digits, hdigits, ⟨rfl, h⟩ | ⟨rfl, h⟩⟩
      · rw [trimEnd_append hdigits (.inl rfl), if_pos hdigits, List.drop_left]
        exact h
      · rw [trimEnd_append hdigits (.inr rfl), if_pos hdigits, List.drop_left]
        exact h

/-- **A time of day is read exactly.** Whatever is read has an hour and a minute of the day, and
what is read is the number of the form in which the time is written, if it is written in one. -/
theorem readTime?_exact (v : Text) :
    (readTime? v = none ∨ ∃ n, readTime? v = some n ∧ n / 100 ≤ 23 ∧ n % 100 ≤ 59) ∧
      ∀ n, readTime? v = some n ↔ IsClockTime (Text.lower v) n := by
  refine ⟨?_, fun n ↦ readTime?_eq_some_iff⟩
  cases h : readTime? v with
  | none => exact .inl rfl
  | some n => exact .inr ⟨n, rfl, (readTime?_eq_some_iff.mp h).range⟩

/-- Twelve comes before one in both halves of the day. -/
example : readTime? "12:30am".toList = none ∧ readTime? "1230AM".toList = some 30 ∧
    readTime? "1230pm".toList = some 1230 ∧ readTime? "0130pm".toList = some 1330 := by decide

end Agenda
