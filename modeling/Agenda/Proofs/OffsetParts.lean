import Agenda.Proofs.CompoundOffset
import Agenda.Proofs.ErrorKind
import Agenda.Proofs.Grammar
import Mathlib.Data.List.Basic

/-!
# The parts of an offset

A date word such as `1y2m10d` is meant as a row of parts, each of them a count and a unit, to be
taken one after the other. The reader does not see parts. It goes from character to character with a
count in hand, so what it makes of a word has to be compared with what the parts say.

## Cutting a word into parts

Letters end the parts. A word of digits and letters that ends in a letter is therefore cut into
parts in one way and in no other, provided that a part may lack its digits: a letter in front of
the word, or right behind another letter, is a part of its own (`exists_partsText`,
`partsText_injective`). Such a part counts zero and does not move.

The reader agrees with the parts of every such word (`offsetFrom_partsText`). That it accepts words
with parts that count nothing, as long as another part moves the day, is the reason why the digits
cannot be asked for (`not_forall_digits_ne_nil`).
-/

namespace Agenda

theorem TimeUnit.letter_injective : Function.Injective TimeUnit.letter := by
  intro unit unit' h
  rw [← Option.some_inj, ← ofLetter?_letter, h, ofLetter?_letter]

namespace DateWord

variable {base d r : Date} {soonDays : Int} {s t : Text} {c c' : Char} {n : Nat}

/-- A part of an offset: the digits of a count, or none, and a unit. -/
structure Part where
  /-- The digits of the count. -/
  digits : Text
  /-- The unit. -/
  unit : TimeUnit
  /-- There are only digits in front of the letter. -/
  all_isDigit : digits.all isDigit = true
  deriving DecidableEq

namespace Part

/-- A part as it is written. -/
def toText (p : Part) : Text := p.digits ++ [p.unit.letter]

/-- The count of a part, zero if it has no digits. -/
def count (p : Part) : Nat := Text.toNat p.digits

theorem isDigit_of_mem (p : Part) : ∀ c ∈ p.digits, isDigit c = true :=
  List.all_eq_true.mp p.all_isDigit

end Part

/-- Parts written one after the other. -/
def partsText (parts : List Part) : Text := parts.flatMap Part.toText

/-- The day reached by moving by one part after the other, anchored at the end of the month. -/
def applyParts (d : Date) (parts : List Part) : Except CalendarFault Date :=
  parts.foldlM (fun d p ↦ d.add p.unit p.count true) d

variable {p q : Part} {parts parts' : List Part}

@[simp] theorem partsText_nil : partsText [] = [] := rfl

@[simp] theorem partsText_cons (p : Part) (parts : List Part) :
    partsText (p :: parts) = p.digits ++ p.unit.letter :: partsText parts := by
  rw [partsText, List.flatMap_cons, Part.toText, List.append_assoc]
  rfl

@[simp] theorem applyParts_nil (d : Date) : applyParts d [] = .ok d := rfl

theorem applyParts_cons (d : Date) (p : Part) (parts : List Part) :
    applyParts d (p :: parts) = (d.add p.unit p.count true).bind (applyParts · parts) := rfl

theorem applyParts_cons_eq_ok_iff : applyParts d (p :: parts) = .ok r ↔
    ∃ next, d.add p.unit p.count true = .ok next ∧ applyParts next parts = .ok r := by
  rw [applyParts_cons]
  cases d.add p.unit p.count true with
  | ok next => simp [Except.bind]
  | error fault => simp [Except.bind]

/-! ## Characters of a row of parts -/

theorem mem_partsText (hc : c ∈ partsText parts) : isDigit c = true ∨ c ∈ "dwmy".toList := by
  obtain ⟨p, -, hc⟩ := List.mem_flatMap.mp hc
  rcases List.mem_append.mp hc with hc | hc
  · exact .inl (p.isDigit_of_mem c hc)
  · rw [List.mem_singleton.mp hc]
    exact .inr p.unit.letter_mem

theorem isCompound_partsText (hne : parts ≠ []) : IsCompound (partsText parts) := by
  obtain ⟨p, rest, rfl⟩ := List.exists_cons_of_ne_nil hne
  exact ⟨fun c ↦ mem_partsText, p.unit.letter, by simp, p.unit.letter_mem⟩

/-! ## Cutting a word -/

theorem exists_partsText_append (hs : ∀ c ∈ s, isDigit c = true ∨ c ∈ "dwmy".toList) :
    ∃ parts rest, s = partsText parts ++ rest ∧ ∀ c ∈ rest, isDigit c = true := by
  induction s with
  | nil => exact ⟨[], [], rfl, by simp⟩
  | cons c s ih =>
    obtain ⟨hc, hs⟩ := List.forall_mem_cons.mp hs
    obtain ⟨parts, rest, rfl, hrest⟩ := ih hs
    rcases hc with hdigit | hletter
    · -- a digit belongs to the part that follows, if there is one
      cases parts with
      | nil => exact ⟨[], c :: rest, rfl, List.forall_mem_cons.mpr ⟨hdigit, hrest⟩⟩
      | cons p parts =>
        have hdigits : (c :: p.digits).all isDigit = true := by
          rw [List.all_cons, hdigit, p.all_isDigit, Bool.true_and]
        exact ⟨⟨c :: p.digits, p.unit, hdigits⟩ :: parts, rest, by simp, hrest⟩
    · obtain ⟨unit, rfl⟩ := TimeUnit.exists_letter_of_mem hletter
      exact ⟨⟨[], unit, rfl⟩ :: parts, rest, by simp, hrest⟩

theorem exists_partsText (hs : ∀ c ∈ s, isDigit c = true ∨ c ∈ "dwmy".toList)
    (hlast : ∃ c, s.getLast? = some c ∧ c ∈ "dwmy".toList) : ∃ parts, partsText parts = s := by
  obtain ⟨parts, rest, rfl, hrest⟩ := exists_partsText_append hs
  obtain ⟨c, hlast, hletter⟩ := hlast
  obtain ⟨unit, rfl⟩ := TimeUnit.exists_letter_of_mem hletter
  have hnil : rest = [] := by
    by_contra hne
    rw [List.getLast?_append_of_ne_nil _ hne] at hlast
    have hdigit := hrest _ (List.mem_of_getLast? hlast)
    rw [TimeUnit.isDigit_letter] at hdigit
    cases hdigit
  exact ⟨parts, by rw [hnil, List.append_nil]⟩

/-- Where digits end, a text is cut in one way. -/
theorem eq_of_digits_append (hs : ∀ c ∈ s, isDigit c = true) (ht : ∀ c ∈ t, isDigit c = true)
    (hc : isDigit c = false) (hc' : isDigit c' = false) {u v : Text}
    (h : s ++ c :: u = t ++ c' :: v) : s = t ∧ c = c' ∧ u = v := by
  have hfirst : (s ++ c :: u).takeWhile isDigit = s ∧ (s ++ c :: u).dropWhile isDigit = c :: u :=
    Expression.span_append hs (by simp [hc])
  have hsecond : (t ++ c' :: v).takeWhile isDigit = t ∧
      (t ++ c' :: v).dropWhile isDigit = c' :: v := Expression.span_append ht (by simp [hc'])
  rw [h] at hfirst
  obtain ⟨hhead, hrest⟩ := List.cons.inj (hfirst.2.symm.trans hsecond.2)
  exact ⟨hfirst.1.symm.trans hsecond.1, hhead, hrest⟩

/-- A word is written from one row of parts only. -/
theorem partsText_injective : Function.Injective partsText := by
  intro parts
  induction parts with
  | nil =>
    rintro (_ | ⟨q, parts'⟩) h
    · rfl
    · simp at h
  | cons p parts ih =>
    rintro (_ | ⟨q, parts'⟩) h
    · simp at h
    · rw [partsText_cons, partsText_cons] at h
      obtain ⟨hdigits, hletter, hrest⟩ := eq_of_digits_append p.isDigit_of_mem q.isDigit_of_mem
        p.unit.isDigit_letter q.unit.isDigit_letter h
      obtain ⟨digits, unit, hp⟩ := p
      obtain ⟨digits', unit', hq⟩ := q
      cases hdigits
      cases TimeUnit.letter_injective hletter
      rw [ih hrest]

/-! ## Reading parts -/

theorem offsetFrom_digits_append (hs : ∀ c ∈ s, isDigit c = true) (t : Text) :
    offsetFrom n d (s ++ t) = offsetFrom (s.foldl (fun n c ↦ 10 * n + digitValue c) n) d t := by
  induction s generalizing n with
  | nil => rfl
  | cons c s ih =>
    obtain ⟨hc, hs⟩ := List.forall_mem_cons.mp hs
    rw [List.cons_append, offsetFrom_digit hc, ih hs, List.foldl_cons]

/-- Read from character to character, a row of parts leads where its parts lead. -/
theorem offsetFrom_partsText (d : Date) (parts : List Part) :
    offsetFrom 0 d (partsText parts) = applyParts d parts := by
  induction parts generalizing d with
  | nil => rfl
  | cons p parts ih =>
    have hcount : p.digits.foldl (fun n c ↦ 10 * n + digitValue c) 0 = p.count := rfl
    rw [partsText_cons, offsetFrom_digits_append p.isDigit_of_mem, hcount, offsetFrom_letter,
      applyParts_cons]
    exact congrArg _ (funext ih)

theorem resolve_partsText_eq_ok_iff (hne : parts ≠ []) :
    resolve base soonDays (partsText parts) = .ok r ↔
      applyParts base parts = .ok r ∧ base.lt r = true := by
  rw [resolve_eq_ok_iff_of_isCompound (isCompound_partsText hne), offsetFrom_partsText]

/-- **The parts of an offset.** A word of digits and letters of units is refused, if at all, as no
date. If it ends in a letter, it is a row of parts in exactly one way, and it stands for the day to
which all of these parts lead, one after the other, unless they lead out of the calendar or back
to the base. -/
theorem resolve_parts (base : Date) (soonDays : Int) (hs : IsCompound s) :
    (∀ error, resolve base soonDays s = .error error → error.kind = .date) ∧
    ((∃ c, s.getLast? = some c ∧ c ∈ "dwmy".toList) →
      ∃ parts, (∀ parts', partsText parts' = s ↔ parts' = parts) ∧
        ∀ r, resolve base soonDays s = .ok r ↔ applyParts base parts = .ok r ∧ r ≠ base) := by
  rw [resolve_of_isCompound base soonDays hs]
  refine ⟨fun error ↦ kind_of_offset, fun hlast ↦ ?_⟩
  obtain ⟨parts, rfl⟩ := exists_partsText hs.mem hlast
  refine ⟨parts, fun parts' ↦ partsText_injective.eq_iff, fun r ↦ ?_⟩
  rw [offset, offsetFrom_partsText]
  cases applyParts base parts with
  | error fault => simp
  | ok reached =>
    by_cases hsame : reached = base
    · simp [hsame, eq_comm]
    · simp only [if_neg hsame, Except.ok.injEq]
      constructor
      · rintro rfl
        exact ⟨rfl, hsame⟩
      · exact And.left

theorem resolve_parts_january :
    let x : Date := ⟨2020, 1, 31, by decide⟩
    let month : Part := ⟨"1".toList, .month, by decide⟩
    let day : Part := ⟨[], .day, by decide⟩
    IsCompound "1md".toList ∧ (∃ c, "1md".toList.getLast? = some c ∧ c ∈ "dwmy".toList) ∧
      (∀ parts, partsText parts = "1md".toList ↔ parts = [month, day]) ∧
      resolve x 7 "1md".toList = .ok ⟨2020, 2, 29, by decide⟩ := by
  intro x month day
  have hs : IsCompound "1md".toList := by decide
  have hlast : ∃ c, "1md".toList.getLast? = some c ∧ c ∈ "dwmy".toList := ⟨'d', rfl, by decide⟩
  obtain ⟨parts, hparts, hresolve⟩ := (resolve_parts x 7 hs).2 hlast
  obtain rfl : [month, day] = parts := (hparts _).mp rfl
  have happly : applyParts x [month, day] = .ok ⟨2020, 2, 29, by decide⟩ :=
    eq_ok_of_toOption (by decide +kernel)
  exact ⟨hs, hlast, hparts, (hresolve _).mpr ⟨happly, by decide⟩⟩

/-- A second letter right behind the first has no digits, and the word is accepted all the same. -/
theorem not_forall_digits_ne_nil : ¬ ∀ (base : Date) (soonDays : Int) (s : Text) (r : Date),
    IsCompound s → resolve base soonDays s = .ok r →
      ∃ parts : List Part, (∀ p ∈ parts, p.digits ≠ []) ∧ partsText parts = s := by
  intro h
  have hday : resolve ⟨2020, 3, 15, by decide⟩ 7 "1dd".toList = .ok ⟨2020, 3, 16, by decide⟩ :=
    eq_ok_of_toOption (by decide +kernel)
  obtain ⟨parts, hdigits, hparts⟩ := h _ _ _ _ (by decide) hday
  have htext : partsText [⟨"1".toList, .day, by decide⟩, ⟨[], .day, by decide⟩] = "1dd".toList :=
    rfl
  rw [← htext, partsText_injective.eq_iff] at hparts
  rw [hparts] at hdigits
  exact hdigits ⟨[], .day, by decide⟩ (by simp) rfl

end DateWord

end Agenda
