import Agenda.Text.Blank

/-!
# Replacing one word

An occurrence of a word counts only where it is delimited on both sides, by white space or by an end
of the text. `findWord?` takes the text apart at the first such occurrence and `replaceWord` puts it
together again around the new word, so everything outside the occurrence stays as it was.
-/

namespace Agenda.Text

/-- The text before and after the first delimited occurrence of `word`. The flag says whether the
position at hand follows a boundary. -/
def findWordFrom? (word : Text) (free : Bool) (s : Text) : Option (Text × Text) :=
  if free && word.isPrefixOf s && atBoundary (s.drop word.length) then
    some ([], s.drop word.length)
  else
    match s with
    | [] => none
    | c :: s => (findWordFrom? word (isBlank c) s).map fun (before, after) ↦ (c :: before, after)

/-- The text before and after the first delimited occurrence of `word`. -/
def findWord? (word s : Text) : Option (Text × Text) := findWordFrom? word true s

/-- The text with the first delimited occurrence of `old` replaced. -/
def replaceWord (s old new : Text) : Text :=
  match findWord? old s with
  | some (before, after) => before ++ new ++ after
  | none => s

theorem eq_of_findWordFrom? {word : Text} {free : Bool} {s before after : Text}
    (h : findWordFrom? word free s = some (before, after)) : s = before ++ word ++ after := by
  induction s generalizing free before with
  | nil =>
    rw [findWordFrom?] at h
    split at h
    · next hw =>
      obtain ⟨rfl, rfl⟩ := Prod.mk.injEq .. ▸ Option.some.injEq .. ▸ h
      simp_all
    · simp at h
  | cons c s ih =>
    rw [findWordFrom?] at h
    split at h
    · next hw =>
      obtain ⟨rfl, rfl⟩ := Prod.mk.injEq .. ▸ Option.some.injEq .. ▸ h
      simp only [Bool.and_eq_true] at hw
      obtain ⟨t, ht⟩ := List.isPrefixOf_iff_prefix.1 hw.1.2
      simp [← ht]
    · obtain ⟨⟨b, a⟩, hb, hba⟩ := Option.map_eq_some_iff.1 h
      obtain ⟨rfl, rfl⟩ := Prod.mk.injEq .. ▸ hba
      simp [ih hb]

theorem replaceWord_self (s word : Text) : replaceWord s word word = s := by
  rw [replaceWord]
  split
  · next h => exact (eq_of_findWordFrom? h).symm
  · rfl

end Agenda.Text
