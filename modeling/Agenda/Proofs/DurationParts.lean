import Agenda.Proofs.CaseContext
import Agenda.Proofs.ValueForms
import Mathlib.Algebra.BigOperators.Group.List.Basic

/-!
# Durations as sums

A duration such as `1w2d12` is meant as a row of parts, each of them a count and a unit, and a count
of seconds behind them. The reader does not see parts. It goes from character to character with a
count in hand, which a unit turns into seconds and clears. After a unit there is nothing in hand, so
what the reader makes of a text up to there and of the rest are added (`secondsFrom_append`).

The texts that are read are exactly the rows (`secondsFrom_eq_some_iff`), and the number is the sum
over the row. Signs in front and the case of the letters are taken off before, and neither is in the
way of a cut between a unit and a digit: no sign stands there, and the small form of a text can be
cut in front of every digit.
-/

namespace Agenda

variable {s t u v : Text} {c d : Char} {n k : Nat} {count : Option Nat}

/-! ## Rows of parts -/

/-- The units of durations. -/
inductive DurationUnit where
  | week
  | day
  | hour
  | minute
  | second
  deriving DecidableEq

namespace DurationUnit

/-- The small letter of a unit. -/
def letter : DurationUnit → Char
  | week => 'w'
  | day => 'd'
  | hour => 'h'
  | minute => 'm'
  | second => 's'

/-- The seconds in a unit. -/
def seconds : DurationUnit → Nat
  | week => 604800
  | day => 86400
  | hour => 3600
  | minute => 60
  | second => 1

theorem unitSeconds?_letter (unit : DurationUnit) :
    unitSeconds? unit.letter = some unit.seconds := by
  cases unit <;> rfl

theorem exists_letter_of_unitSeconds? (h : unitSeconds? c = some k) :
    ∃ unit : DurationUnit, c = unit.letter ∧ k = unit.seconds := by
  unfold unitSeconds? at h
  split at h
  · exact ⟨week, rfl, (Option.some.inj h).symm⟩
  · exact ⟨day, rfl, (Option.some.inj h).symm⟩
  · exact ⟨hour, rfl, (Option.some.inj h).symm⟩
  · exact ⟨minute, rfl, (Option.some.inj h).symm⟩
  · exact ⟨second, rfl, (Option.some.inj h).symm⟩
  · cases h

end DurationUnit

/-- A part of a duration: the digits of a count, and a unit. -/
structure DurationPart where
  /-- The digits of the count. -/
  digits : Text
  /-- The unit. -/
  unit : DurationUnit
  /-- There are digits, and nothing else stands in front of the letter. -/
  isNumber : Text.isNumber digits = true

namespace DurationPart

/-- A part as it is written. -/
def toText (p : DurationPart) : Text := p.digits ++ [p.unit.letter]

/-- The seconds of a part: the count times the unit. -/
def seconds (p : DurationPart) : Nat := Text.toNat p.digits * p.unit.seconds

end DurationPart

/-- Parts of a duration, and the digits of a count that lacks its unit, if any. -/
structure DurationRow where
  /-- The parts with a unit. -/
  parts : List DurationPart
  /-- The digits behind them. -/
  rest : Text
  /-- There are only digits. -/
  rest_isDigit : ∀ c ∈ rest, isDigit c = true

namespace DurationRow

/-- A row as it is written. -/
def toText (row : DurationRow) : Text := row.parts.flatMap DurationPart.toText ++ row.rest

/-- The seconds of a row: the sum over its parts and the count behind them. -/
def seconds (row : DurationRow) : Nat :=
  (row.parts.map DurationPart.seconds).sum + Text.toNat row.rest

/-- The row with a part in front. -/
def cons (p : DurationPart) (row : DurationRow) : DurationRow :=
  { row with parts := p :: row.parts }

theorem toText_cons (p : DurationPart) (row : DurationRow) :
    (row.cons p).toText = p.digits ++ p.unit.letter :: row.toText := by
  rw [toText, cons, List.flatMap_cons, DurationPart.toText, List.append_assoc, List.append_assoc]
  rfl

theorem seconds_cons (p : DurationPart) (row : DurationRow) :
    (row.cons p).seconds = p.seconds + row.seconds := by
  rw [seconds, cons, List.map_cons, List.sum_cons, Nat.add_assoc]
  rfl

end DurationRow

/-! ## Reading rows -/

theorem secondsFrom_digits (hs : ∀ c ∈ s, isDigit c = true) :
    secondsFrom none s = some (Text.toNat s) := by
  by_cases hne : s = []
  · rw [hne]
    rfl
  · rw [← List.append_nil s, secondsFrom_number_append (Text.isNumber_iff.mpr ⟨hne, hs⟩),
      List.append_nil]
    rfl

theorem secondsFrom_toText (row : DurationRow) :
    secondsFrom none row.toText = some row.seconds := by
  obtain ⟨parts, rest, hrest⟩ := row
  induction parts with
  | nil =>
    have hsum : DurationRow.seconds ⟨[], rest, hrest⟩ = Text.toNat rest := Nat.zero_add _
    rw [hsum]
    exact secondsFrom_digits hrest
  | cons p parts ih =>
    have htext := DurationRow.toText_cons p ⟨parts, rest, hrest⟩
    have hsum := DurationRow.seconds_cons p ⟨parts, rest, hrest⟩
    rw [DurationRow.cons] at htext hsum
    rw [htext, hsum, secondsFrom_number_append p.isNumber,
      secondsFrom_unit p.unit.unitSeconds?_letter, ih]
    rfl

/-- Where no digit stands, the reader goes on if it has a count in hand and finds a unit. -/
theorem secondsFrom_cons (hc : isDigit c = false) (count : Option Nat) (s : Text) :
    secondsFrom count (c :: s) = count.bind fun m ↦ (unitSeconds? c).bind fun seconds ↦
      (secondsFrom none s).map (m * seconds + ·) := by
  have hdigit : digitValue? c = none := by simpa [isDigit] using hc
  rw [secondsFrom.eq_def]
  simp only [hdigit]
  cases count with
  | none => rfl
  | some m => cases unitSeconds? c <;> rfl

theorem exists_row_of_digits_append {digits : Text} (hdigits : ∀ c ∈ digits, isDigit c = true)
    (h : s = digits ∨ digits ≠ [] ∧ ∃ (unit : DurationUnit) (row : DurationRow),
      s = digits ++ unit.letter :: row.toText) : ∃ row : DurationRow, s = row.toText := by
  rcases h with rfl | ⟨hne, unit, row, rfl⟩
  · exact ⟨⟨[], s, hdigits⟩, rfl⟩
  · have hnumber : Text.isNumber digits = true := Text.isNumber_iff.mpr ⟨hne, hdigits⟩
    exact ⟨row.cons ⟨digits, unit, hnumber⟩, (row.toText_cons ⟨digits, unit, hnumber⟩).symm⟩

/-- What is read begins with digits, and behind them it ends or goes on with a unit and a row. There
are digits in front of that unit unless a count was in hand. -/
theorem exists_row_of_secondsFrom (h : secondsFrom count s = some n) :
    ∃ digits : Text, (∀ c ∈ digits, isDigit c = true) ∧ (s = digits ∨
      (count ≠ none ∨ digits ≠ []) ∧ ∃ (unit : DurationUnit) (row : DurationRow),
        s = digits ++ unit.letter :: row.toText) := by
  induction s generalizing count n with
  | nil => exact ⟨[], nofun, .inl rfl⟩
  | cons c s ih =>
    cases hc : isDigit c with
    | true =>
      rw [secondsFrom_digit hc] at h
      obtain ⟨digits, hdigits, hs⟩ := ih h
      refine ⟨c :: digits, List.forall_mem_cons.mpr ⟨hc, hdigits⟩, ?_⟩
      rcases hs with rfl | ⟨-, unit, row, rfl⟩
      · exact .inl rfl
      · exact .inr ⟨.inr (List.cons_ne_nil _ _), unit, row, rfl⟩
    | false =>
      rw [secondsFrom_cons hc] at h
      obtain ⟨m, rfl, hm⟩ := Option.bind_eq_some_iff.mp h
      obtain ⟨seconds, hunit, hseconds⟩ := Option.bind_eq_some_iff.mp hm
      obtain ⟨k, hk, -⟩ := Option.map_eq_some_iff.mp hseconds
      obtain ⟨unit, rfl, -⟩ := DurationUnit.exists_letter_of_unitSeconds? hunit
      -- nothing is in hand behind the unit, so what follows is a row
      obtain ⟨digits, hdigits, hs⟩ := ih hk
      obtain ⟨row, rfl⟩ := exists_row_of_digits_append hdigits (by simpa using hs)
      exact ⟨[], nofun, .inr ⟨.inl nofun, unit, row, rfl⟩⟩

theorem secondsFrom_eq_some_iff : secondsFrom none s = some n ↔
    ∃ row : DurationRow, s = row.toText ∧ n = row.seconds := by
  constructor
  · intro h
    obtain ⟨digits, hdigits, hs⟩ := exists_row_of_secondsFrom h
    obtain ⟨row, rfl⟩ := exists_row_of_digits_append hdigits (by simpa using hs)
    rw [secondsFrom_toText] at h
    exact ⟨row, rfl, (Option.some.inj h).symm⟩
  · rintro ⟨row, rfl, rfl⟩
    exact secondsFrom_toText row

/-- What is read up to a unit and what is read behind it are added. -/
theorem secondsFrom_append (unit : DurationUnit) (count : Option Nat) (s t : Text) :
    secondsFrom count (s ++ unit.letter :: t) =
      (secondsFrom count (s ++ [unit.letter])).bind fun m ↦ (secondsFrom none t).map (m + ·) := by
  -- the induction is over what stands in front of the unit, with any count in hand
  induction s generalizing count with
  | nil =>
    have hletter : isDigit unit.letter = false := by cases unit <;> rfl
    rw [List.nil_append, List.nil_append, secondsFrom_cons hletter, secondsFrom_cons hletter,
      unit.unitSeconds?_letter]
    cases count with
    | none => rfl
    | some m => rfl
  | cons c s ih =>
    rw [List.cons_append, List.cons_append]
    cases hc : isDigit c with
    | true => rw [secondsFrom_digit hc, secondsFrom_digit hc, ih]
    | false =>
      rw [secondsFrom_cons hc, secondsFrom_cons hc, ih]
      cases count with
      | none => rfl
      | some m =>
        cases unitSeconds? c with
        | none => rfl
        | some seconds =>
          simp only [Option.bind_some]
          cases secondsFrom none (s ++ [unit.letter]) with
          | none => rfl
          | some a => simp [Nat.add_assoc, Function.comp_def]

/-! ## Signs -/

/-- What is left of a duration in small letters behind the signs in front. -/
def durationBody (v : Text) : Text := (Text.lower v).dropWhile (· == '-')

/-- The factor for the signs in front. -/
def durationSign (v : Text) : Int := if v.head? = some '-' then -1 else 1

theorem head?_lower_eq_minus_iff (v : Text) :
    (Text.lower v).head? = some '-' ↔ v.head? = some '-' := by
  have hfigure : IsFigure '-' := by decide
  cases v with
  | nil => rfl
  | cons c v =>
    obtain ⟨small, heq, hsmall⟩ := exists_lowerFrom_cons [] v c
    rw [Text.lower, heq]
    rcases hsmall with ⟨rfl, -⟩ | ⟨hne, hletters⟩
    · rfl
    · obtain ⟨d, small, rfl⟩ := List.exists_cons_of_ne_nil hne
      have hd : d ≠ '-' := by
        rintro rfl
        exact hletters '-' List.mem_cons_self hfigure
      refine iff_of_false (by simpa using hd) ?_
      rintro ⟨⟩
      have hsign : lowerFrom [] ('-' :: v) = '-' :: lowerFrom ['-'] v := rfl
      exact hd (List.cons.inj (heq.symm.trans hsign)).1

theorem readDuration?_eq (v : Text) :
    readDuration? v =
      (secondsFrom none (durationBody v)).map fun n : Nat ↦ durationSign v * (n : Int) := by
  rw [readDuration?, durationBody, durationSign]
  by_cases hsign : v.head? = some '-'
  · have hlower := (head?_lower_eq_minus_iff v).mpr hsign
    simp only [hlower, hsign, beq_self_eq_true, if_true, neg_one_mul]
    cases secondsFrom none ((Text.lower v).dropWhile (· == '-')) <;> rfl
  · have hlower : ((Text.lower v).head? == some '-') = false :=
      beq_false_of_ne (mt (head?_lower_eq_minus_iff v).mp hsign)
    have hbody : (Text.lower v).dropWhile (· == '-') = Text.lower v := by
      cases hv : Text.lower v with
      | nil => rfl
      | cons c s =>
        rw [hv] at hlower
        exact List.dropWhile_cons_of_neg (by simpa using hlower)
    simp only [hlower, hsign, hbody, Bool.false_eq_true, if_false, one_mul]
    cases secondsFrom none (Text.lower v) <;> rfl

/-! ## Durations one behind the other -/

theorem dropWhile_minus_append (hc : c ≠ '-') (s t : Text) :
    (s ++ c :: t).dropWhile (· == '-') = s.dropWhile (· == '-') ++ c :: t := by
  rw [List.dropWhile_append]
  split
  · next hempty =>
    rw [List.isEmpty_iff.mp hempty, List.dropWhile_cons_of_neg (by simpa using hc), List.nil_append]
  · rfl

theorem exists_lower_eq_append_letter (hc : c ∈ "wdhmsWDHMS".toList) (s : Text) :
    ∃ (t : Text) (unit : DurationUnit), Text.lower (s ++ [c]) = t ++ [unit.letter] := by
  have hletters : "wdhmsWDHMS".toList.all (fun c ↦ decide (c.toNat ≠ 0x130 ∧ c.toNat ≠ 0x3A3 ∧
      (unitSeconds? (simpleSmall c)).isSome = true)) = true := by decide
  obtain ⟨hdot, hsigma, hunit⟩ := of_decide_eq_true (List.all_eq_true.mp hletters c hc)
  obtain ⟨k, hk⟩ := Option.isSome_iff_exists.mp hunit
  obtain ⟨unit, hletter, -⟩ := DurationUnit.exists_letter_of_unitSeconds? hk
  refine ⟨lowerBetween [] [c] s, unit, ?_⟩
  rw [lower_append, lowerBetween, smallBetween_of_ne hdot hsigma, hletter]
  rfl

theorem readDuration?_append (hu : ∃ c ∈ "wdhmsWDHMS".toList, u.getLast? = some c)
    (hv : ∃ d, v.head? = some d ∧ isDigit d = true) :
    readDuration? (u ++ v) = (readDuration? u).bind fun m ↦
      (readDuration? v).map fun n ↦ m + durationSign u * n := by
  obtain ⟨c, hc, hlast⟩ := hu
  obtain ⟨u, rfl⟩ := List.getLast?_eq_some_iff.mp hlast
  obtain ⟨d, hhead, hd⟩ := hv
  obtain ⟨v, rfl⟩ := List.head?_eq_some_iff.mp hhead
  obtain ⟨s, unit, hs⟩ := exists_lower_eq_append_letter hc u
  have hletter : unit.letter ≠ '-' := by cases unit <;> decide
  have hdigit : d ≠ '-' := by
    rintro rfl
    cases hd
  -- the signs in front of the whole are those in front of the first text
  have hfirst : durationBody (u ++ [c]) = s.dropWhile (· == '-') ++ [unit.letter] := by
    rw [durationBody, hs, dropWhile_minus_append hletter]
  have hsecond : durationBody (d :: v) = d :: Text.lower v := by
    rw [durationBody, ← List.nil_append (d :: v), lower_append_cons_of_isDigit hd,
      dropWhile_minus_append hdigit]
    rfl
  have hboth : durationBody (u ++ [c] ++ d :: v) =
      s.dropWhile (· == '-') ++ unit.letter :: d :: Text.lower v := by
    rw [durationBody, lower_append_cons_of_isDigit hd, hs, List.append_assoc]
    exact dropWhile_minus_append hletter _ _
  have hsign : durationSign (u ++ [c] ++ d :: v) = durationSign (u ++ [c]) := by
    cases u <;> rfl
  have hplus : durationSign (d :: v) = 1 := if_neg (by simpa using hdigit)
  rw [readDuration?_eq, readDuration?_eq, readDuration?_eq, hboth, hfirst, hsecond, hsign, hplus,
    secondsFrom_append]
  cases secondsFrom none (s.dropWhile (· == '-') ++ [unit.letter]) with
  | none => rfl
  | some m =>
    cases secondsFrom none (d :: Text.lower v) with
    | none => rfl
    | some n => simp [mul_add]

/-! ## The number of a duration -/

theorem readDuration?_eq_some_iff {n : Int} : readDuration? v = some n ↔
    ∃ row : DurationRow, durationBody v = row.toText ∧ n = durationSign v * row.seconds := by
  rw [readDuration?_eq, Option.map_eq_some_iff]
  constructor
  · rintro ⟨m, hm, rfl⟩
    obtain ⟨row, hrow, rfl⟩ := secondsFrom_eq_some_iff.mp hm
    exact ⟨row, hrow, rfl⟩
  · rintro ⟨row, hrow, rfl⟩
    exact ⟨row.seconds, secondsFrom_eq_some_iff.mpr ⟨row, hrow, rfl⟩, rfl⟩

theorem seconds_eq_of_perm {row row' : DurationRow} (hparts : row.parts.Perm row'.parts)
    (hrest : row.rest = row'.rest) : row.seconds = row'.seconds := by
  rw [DurationRow.seconds, DurationRow.seconds, hrest, (hparts.map _).sum_eq]

/-- **Durations as sums.** A text is read exactly if it is a row of parts in small letters and
behind the signs in front, and the number is the sum over the row, with the opposite sign if the
text begins with one. The order of the parts does not matter. Of two texts one behind the other, cut
behind a unit and in front of a digit, both have to be read, and the second is added to the first
with the sign that stands in front of both. -/
theorem readDuration?_sum :
    (∀ (v : Text) (n : Int), readDuration? v = some n ↔
      ∃ row : DurationRow, durationBody v = row.toText ∧ n = durationSign v * row.seconds) ∧
    (∀ (v v' : Text) (row row' : DurationRow), durationSign v = durationSign v' →
      durationBody v = row.toText → durationBody v' = row'.toText → row.parts.Perm row'.parts →
      row.rest = row'.rest → readDuration? v = readDuration? v') ∧
    ∀ u v : Text, (∃ c ∈ "wdhmsWDHMS".toList, u.getLast? = some c) →
      (∃ d, v.head? = some d ∧ isDigit d = true) →
      (readDuration? (u ++ v) = (readDuration? u).bind fun m ↦
        (readDuration? v).map fun n ↦ m + durationSign u * n) ∧
      (readDuration? (u ++ v) = none ↔ readDuration? u = none ∨ readDuration? v = none) := by
  refine ⟨fun v n ↦ readDuration?_eq_some_iff, ?_, fun u v hu hv ↦ ?_⟩
  · intro v v' row row' hsign hv hv' hparts hrest
    have hread := readDuration?_eq_some_iff.mpr ⟨row, hv, rfl⟩
    have hread' := readDuration?_eq_some_iff.mpr ⟨row', hv', rfl⟩
    rw [hread, hread', hsign, seconds_eq_of_perm hparts hrest]
  · have happend := readDuration?_append hu hv
    refine ⟨happend, ?_⟩
    rw [happend]
    cases readDuration? u with
    | none => simp
    | some m => cases readDuration? v <;> simp

/-- Parts in another order, and a duration cut in front of its seconds. -/
theorem readDuration?_sum_day :
    let day : DurationPart := ⟨"1".toList, .day, by decide⟩
    let hours : DurationPart := ⟨"٢".toList, .hour, by decide⟩
    let row : DurationRow := ⟨[day, hours], "5".toList, List.all_eq_true.mp rfl⟩
    let row' : DurationRow := ⟨[hours, day], "5".toList, List.all_eq_true.mp rfl⟩
    (durationSign "-1D٢h5".toList = durationSign "--٢H1d5".toList ∧
      durationBody "-1D٢h5".toList = row.toText ∧ durationBody "--٢H1d5".toList = row'.toText ∧
      row.parts.Perm row'.parts ∧ row.rest = row'.rest) ∧
    readDuration? "-1D٢h5".toList = readDuration? "--٢H1d5".toList ∧
    ((∃ c ∈ "wdhmsWDHMS".toList, "-1M".toList.getLast? = some c) ∧
      ∃ d, "5s".toList.head? = some d ∧ isDigit d = true) ∧
    readDuration? ("-1M".toList ++ "5s".toList) = some (-65) := by
  intro day hours row row'
  have hsign : durationSign "-1D٢h5".toList = durationSign "--٢H1d5".toList := by decide
  have hbody : durationBody "-1D٢h5".toList = "1d٢h5".toList := by decide
  have hbody' : durationBody "--٢H1d5".toList = "٢h1d5".toList := by decide
  have htext : row.toText = "1d٢h5".toList := rfl
  have htext' : row'.toText = "٢h1d5".toList := rfl
  have hparts : row.parts.Perm row'.parts := .swap hours day []
  have hu : ∃ c ∈ "wdhmsWDHMS".toList, "-1M".toList.getLast? = some c := ⟨'M', by decide, rfl⟩
  have hv : ∃ d, "5s".toList.head? = some d ∧ isDigit d = true := ⟨'5', rfl, by decide⟩
  rw [← htext] at hbody
  rw [← htext'] at hbody'
  refine ⟨⟨hsign, hbody, hbody', hparts, rfl⟩, ?_, ⟨hu, hv⟩, ?_⟩
  · exact readDuration?_sum.2.1 _ _ row row' hsign hbody hbody' hparts rfl
  · rw [(readDuration?_sum.2.2 _ _ hu hv).1]
    decide

end Agenda
