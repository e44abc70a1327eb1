import Agenda.DateWord
import Agenda.Proofs.Moves
import Agenda.Proofs.Reference

/-!
# Compound offsets

A date word of digits and letters of units, such as `1y2m10d`, is read from left to right with a
count and a day in hand. A digit goes to the count. A letter moves the day by the count, anchored at
the end of the month, and clears the count.

## What is in hand

The count depends on the characters read and not on the day, so two readings of one word from
different bases have the same count in hand all along. All that is left to compare is the two days,
and every letter moves both by the same count: none of them backwards, and without changing their
order.

After a letter only the day is in hand. So a word that ends in a letter leaves nothing behind but
the day it leads to, and reading can go on from there with another word (`offsetFrom_append`). A
word that ends in a digit hands that digit on: `1d1` leads one day ahead and `1d` another, but
`1d11d` leads twelve days ahead.
-/

namespace Agenda

variable {a b base d r ra rb : Date} {soonDays : Int} {s t : Text} {c : Char} {n : Nat}

theorem TimeUnit.exists_letter_of_mem (hc : c ∈ "dwmy".toList) :
    ∃ unit : TimeUnit, c = unit.letter := by
  have hletters : "dwmy".toList.all (fun c ↦ (ofLetter? c).isSome) = true := by decide
  obtain ⟨unit, hunit⟩ := Option.isSome_iff_exists.mp (List.all_eq_true.mp hletters c hc)
  exact ⟨unit, ofLetter?_eq_some_iff.mp hunit⟩

theorem TimeUnit.letter_mem (unit : TimeUnit) : unit.letter ∈ "dwmy".toList := by
  cases unit <;> decide

theorem TimeUnit.isDigit_letter (unit : TimeUnit) : isDigit unit.letter = false := by
  cases unit <;> rfl

namespace DateWord

/-- Digits and small letters of units, with a letter among them. -/
structure IsCompound (s : Text) : Prop where
  /-- There are only digits and letters of units. -/
  mem : ∀ c ∈ s, isDigit c = true ∨ c ∈ "dwmy".toList
  /-- There is a letter. -/
  exists_letter : ∃ c ∈ s, c ∈ "dwmy".toList

theorem isCompound_iff : IsCompound s ↔
    s.all (fun c ↦ isDigit c || "dwmy".toList.contains c) = true ∧
      s.any ("dwmy".toList.contains ·) = true := by
  simp only [List.all_eq_true, List.any_eq_true, Bool.or_eq_true, List.contains_iff_mem]
  exact ⟨fun h ↦ ⟨h.mem, h.exists_letter⟩, fun h ↦ ⟨h.1, h.2⟩⟩

instance : Decidable (IsCompound s) := decidable_of_iff' _ isCompound_iff

theorem IsCompound.append (hs : IsCompound s) (ht : IsCompound t) : IsCompound (s ++ t) := by
  refine ⟨fun c hc ↦ ?_, ?_⟩
  · exact (List.mem_append.mp hc).elim (hs.mem c) (ht.mem c)
  · obtain ⟨c, hc, hletter⟩ := hs.exists_letter
    exact ⟨c, List.mem_append_left _ hc, hletter⟩

/-! ## One character -/

theorem offsetFrom_digit (hc : isDigit c = true) :
    offsetFrom n d (c :: s) = offsetFrom (10 * n + digitValue c) d s := by
  obtain ⟨v, hv⟩ := Option.isSome_iff_exists.mp hc
  rw [offsetFrom, digitValue, hv]
  rfl

/-- A letter moves the day by the count in hand. The count zero needs no case of its own. -/
theorem offsetFrom_letter (n : Nat) (d : Date) (unit : TimeUnit) (s : Text) :
    offsetFrom n d (unit.letter :: s) = (d.add unit n true).bind (offsetFrom 0 · s) := by
  have hdigit : digitValue? unit.letter = none := by cases unit <;> rfl
  rw [offsetFrom, hdigit, TimeUnit.ofLetter?_letter]
  dsimp only
  split
  · next hn =>
    rw [hn, Int.natCast_zero, Date.add_zero]
    rfl
  · cases d.add unit n true <;> rfl

theorem offsetFrom_letter_eq_ok_iff {unit : TimeUnit} :
    offsetFrom n d (unit.letter :: s) = .ok r ↔
      ∃ next, d.add unit n true = .ok next ∧ offsetFrom 0 next s = .ok r := by
  rw [offsetFrom_letter]
  cases d.add unit n true with
  | ok next => simp [Except.bind]
  | error fault => simp [Except.bind]

/-! ## The whole word -/

theorem le_offsetFrom (hs : ∀ c ∈ s, isDigit c = true ∨ c ∈ "dwmy".toList)
    (h : offsetFrom n d s = .ok r) : d.le r = true := by
  induction s generalizing n d with
  | nil =>
    cases h
    exact Date.le_refl _
  | cons c s ih =>
    obtain ⟨hdigit | hletter, hrest⟩ := List.forall_mem_cons.mp hs
    · rw [offsetFrom_digit hdigit] at h
      exact ih hrest h
    · obtain ⟨unit, rfl⟩ := TimeUnit.exists_letter_of_mem hletter
      obtain ⟨next, hnext, h⟩ := offsetFrom_letter_eq_ok_iff.mp h
      have hmove : d.le next = true := Date.le_add (Int.natCast_nonneg n) hnext
      exact Date.le_trans hmove (ih hrest h)

theorem offsetFrom_le_offsetFrom (hs : ∀ c ∈ s, isDigit c = true ∨ c ∈ "dwmy".toList)
    (hle : a.le b = true) (ha : offsetFrom n a s = .ok ra) (hb : offsetFrom n b s = .ok rb) :
    ra.le rb = true := by
  induction s generalizing n a b with
  | nil =>
    cases ha
    cases hb
    exact hle
  | cons c s ih =>
    obtain ⟨hdigit | hletter, hrest⟩ := List.forall_mem_cons.mp hs
    · rw [offsetFrom_digit hdigit] at ha hb
      exact ih hrest hle ha hb
    · obtain ⟨unit, rfl⟩ := TimeUnit.exists_letter_of_mem hletter
      obtain ⟨a', ha', ha⟩ := offsetFrom_letter_eq_ok_iff.mp ha
      obtain ⟨b', hb', hb⟩ := offsetFrom_letter_eq_ok_iff.mp hb
      exact ih hrest (Date.add_le_add hle ha' hb') ha hb

/-- What follows a letter is read from the day that the letter leads to, with no count in hand. -/
theorem offsetFrom_append (hs : ∀ c ∈ s, isDigit c = true ∨ c ∈ "dwmy".toList)
    (unit : TimeUnit) (t : Text) : offsetFrom n d (s ++ [unit.letter] ++ t) =
      (offsetFrom n d (s ++ [unit.letter])).bind (offsetFrom 0 · t) := by
  induction s generalizing n d with
  | nil =>
    simp only [List.nil_append, List.cons_append, offsetFrom_letter]
    cases d.add unit n true with
    | ok next => rfl
    | error fault => rfl
  | cons c s ih =>
    obtain ⟨hdigit | hletter, hrest⟩ := List.forall_mem_cons.mp hs
    · simp only [List.cons_append, offsetFrom_digit hdigit]
      exact ih hrest
    · obtain ⟨first, rfl⟩ := TimeUnit.exists_letter_of_mem hletter
      simp only [List.cons_append, offsetFrom_letter]
      cases d.add first n true with
      | ok next => exact ih hrest
      | error fault => rfl

/-! ## As a date word -/

theorem resolve_of_isCompound (base : Date) (soonDays : Int) (hs : IsCompound s) :
    resolve base soonDays s = offset base s := by
  obtain ⟨letter, hmem, hletter⟩ := hs.exists_letter
  obtain ⟨unit, rfl⟩ := TimeUnit.exists_letter_of_mem hletter
  have hne : s.isEmpty = false := List.isEmpty_eq_false_iff.mpr (List.ne_nil_of_mem hmem)
  have hchomp : Text.chomp s = s := by
    refine Text.chomp_of_not_mem fun hline ↦ ?_
    exact absurd (hs.mem _ hline) (by decide)
  have hdigit : isDigit unit.letter = false := unit.isDigit_letter
  have hdash : (unit.letter == '-') = false := by cases unit <;> rfl
  -- the letter rules out the other kinds one by one
  have hnumber : isDayOfMonth s = false := by
    rw [isDayOfMonth, hchomp, Text.isNumber, hne, Bool.not_false, Bool.true_and,
      List.all_eq_false]
    exact ⟨_, hmem, by simp [hdigit]⟩
  have hdashed : isDashed s = false := by
    rw [isDashed, hchomp, hne, Bool.not_false, Bool.true_and, List.all_eq_false]
    exact ⟨_, hmem, by simp [hdigit, hdash]⟩
  have hoffset : isOffset s = true := by
    rw [isOffset, hchomp, hne, Bool.not_false, Bool.true_and, List.all_eq_true]
    intro c hc
    rcases hs.mem c hc with hc | hc
    · rw [hc, Bool.true_or]
    · obtain ⟨unit, rfl⟩ := TimeUnit.exists_letter_of_mem hc
      rw [TimeUnit.ofLetter?_letter, Option.isSome_some, Bool.or_true]
  rw [resolve, hne, hnumber, hdashed, hoffset]
  rfl

/-- An offset stands for the day it leads to, if that is a later one. -/
theorem resolve_eq_ok_iff_of_isCompound (hs : IsCompound s) :
    resolve base soonDays s = .ok r ↔ offsetFrom 0 base s = .ok r ∧ base.lt r = true := by
  rw [resolve_of_isCompound base soonDays hs, offset]
  cases hfrom : offsetFrom 0 base s with
  | error fault => simp
  | ok reached =>
    have hle : base.le reached = true := le_offsetFrom hs.mem hfrom
    -- an offset that does not move is refused
    by_cases hsame : reached = base
    · subst hsame
      simp only [if_true, reduceCtorEq, Except.ok.injEq, false_iff]
      rintro ⟨rfl, h⟩
      exact reached.lt_irrefl h
    · have hlt : base.lt reached = true := by
        rw [← Date.count_inj] at hsame
        rw [Date.le_iff_count_le] at hle
        rw [Date.lt_iff_count_lt]
        omega
      simp only [if_neg hsame, Except.ok.injEq]
      constructor
      · rintro rfl
        exact ⟨rfl, hlt⟩
      · exact And.left

/-- **Compound offsets.** The day that a compound offset stands for comes after the base. On a
later base it stands for no earlier day. And if it ends in a letter, a second offset from that day
on leads where the two words written together lead. -/
theorem resolve_compound (hs : IsCompound s) (ha : resolve a soonDays s = .ok ra) :
    a.lt ra = true ∧
    (∀ b rb, a.le b = true → resolve b soonDays s = .ok rb → ra.le rb = true) ∧
    ∀ t r, IsCompound t → (∃ c, s.getLast? = some c ∧ c ∈ "dwmy".toList) →
      resolve ra soonDays t = .ok r → resolve a soonDays (s ++ t) = .ok r := by
  obtain ⟨hfrom, hahead⟩ := (resolve_eq_ok_iff_of_isCompound hs).mp ha
  refine ⟨hahead, fun b rb hle hb ↦ ?_, fun t r ht hlast hr ↦ ?_⟩
  · obtain ⟨hfromb, -⟩ := (resolve_eq_ok_iff_of_isCompound hs).mp hb
    exact offsetFrom_le_offsetFrom hs.mem hle hfrom hfromb
  · obtain ⟨c, hlast, hletter⟩ := hlast
    obtain ⟨unit, rfl⟩ := TimeUnit.exists_letter_of_mem hletter
    obtain ⟨body, rfl⟩ := List.getLast?_eq_some_iff.mp hlast
    obtain ⟨hfromt, hfurther⟩ := (resolve_eq_ok_iff_of_isCompound ht).mp hr
    have hbody : ∀ c ∈ body, isDigit c = true ∨ c ∈ "dwmy".toList := fun c hc ↦
      hs.mem c (List.mem_append_left _ hc)
    refine (resolve_eq_ok_iff_of_isCompound (hs.append ht)).mpr ⟨?_, ?_⟩
    · rw [offsetFrom_append hbody, hfrom]
      exact hfromt
    · rw [Date.lt_iff_count_lt] at hahead hfurther ⊢
      omega

theorem resolve_compound_february :
    let x : Date := ⟨2020, 1, 31, by decide⟩
    let y : Date := ⟨2020, 2, 1, by decide⟩
    let ends : Date := ⟨2020, 2, 29, by decide⟩
    (IsCompound "1m".toList ∧ resolve x 7 "1m".toList = .ok ends) ∧
    x.lt ends = true ∧
    (∀ r, resolve y 7 "1m".toList = .ok r → ends.le r = true) ∧
    resolve x 7 "1m1y2d".toList = .ok ⟨2021, 3, 2, by decide⟩ := by
  intro x y ends
  have hs : IsCompound "1m".toList := by decide
  have ht : IsCompound "1y2d".toList := by decide
  have hx : resolve x 7 "1m".toList = .ok ends := eq_ok_of_toOption (by decide +kernel)
  have hon : resolve ends 7 "1y2d".toList = .ok ⟨2021, 3, 2, by decide⟩ :=
    eq_ok_of_toOption (by decide +kernel)
  obtain ⟨hahead, horder, hjoin⟩ := resolve_compound hs hx
  exact ⟨⟨hs, hx⟩, hahead, fun r ↦ horder y r (by decide),
    hjoin "1y2d".toList _ ht ⟨'m', rfl, by decide⟩ hon⟩

end DateWord

end Agenda
