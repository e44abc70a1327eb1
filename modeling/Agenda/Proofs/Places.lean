import Agenda.Proofs.Words

/-!
# Where words stand

A word stands at a place of a text if there are blanks, or the ends of the text, on both sides of
it. To find a word is to find the first place where it stands, and what is found is always such a
place (`exists_findWord?`), even if what is looked for has blanks inside.

A text can also be cut at its spaces alone (`spaceInduction`). The pieces are not its words, since
other blanks stay inside a piece. But a piece begins where a word may begin, so a piece that begins
with a word of any kind has a first word that does.
-/

namespace Agenda.Text

/-- The word stands in the text, between what is before and what is after. -/
structure Stands (word text before after : Text) : Prop where
  /-- The three make up the text. -/
  eq : text = before ++ word ++ after
  /-- What is before ends in a blank, if it is not empty. -/
  before_blank : ∀ c ∈ before.getLast?, isBlank c = true
  /-- What is after begins with a blank, if it is not empty. -/
  after_blank : ∀ c ∈ after.head?, isBlank c = true

variable {word text before after w s t old new key piece : Text} {c : Char} {free : Bool}

instance (word text before after : Text) : Decidable (Stands word text before after) :=
  decidable_of_iff (text = before ++ word ++ after ∧ before.getLast?.all isBlank = true ∧
    after.head?.all isBlank = true) <| by
      rw [Option.all_eq_true, Option.all_eq_true]
      exact ⟨fun h ↦ ⟨h.1, h.2.1, h.2.2⟩, fun h ↦ ⟨h.eq, h.before_blank, h.after_blank⟩⟩

theorem atBoundary_iff : atBoundary s = true ↔ ∀ c ∈ s.head?, isBlank c = true := by
  rcases s with _ | ⟨c, s⟩
  · simp [atBoundary]
  · simp [atBoundary]

theorem forall_getLast?_cons {p : Char → Prop} :
    (∀ d ∈ (c :: s).getLast?, p d) ↔ (s = [] → p c) ∧ ∀ d ∈ s.getLast?, p d := by
  rcases List.eq_nil_or_concat s with rfl | ⟨s, d, rfl⟩
  · simp
  · simp [List.getLast?_cons]

/-! ## Finding -/

theorem stands_of_findWordFrom? (h : findWordFrom? word free s = some (before, after)) :
    Stands word s before after ∧ (before = [] → free = true) := by
  have heq := eq_of_findWordFrom? h
  induction s generalizing free before with
  | nil =>
    rw [findWordFrom?] at h
    split at h
    · next hfound =>
      rw [Bool.and_eq_true, Bool.and_eq_true] at hfound
      cases h
      exact ⟨⟨heq, by simp, by simp⟩, fun _ ↦ hfound.1.1⟩
    · cases h
  | cons c s ih =>
    rw [findWordFrom?] at h
    split at h
    · next hfound =>
      rw [Bool.and_eq_true, Bool.and_eq_true] at hfound
      cases h
      exact ⟨⟨heq, by simp, atBoundary_iff.mp hfound.2⟩, fun _ ↦ hfound.1.1⟩
    · obtain ⟨⟨before', after'⟩, hrest, hparts⟩ := Option.map_eq_some_iff.mp h
      cases hparts
      obtain ⟨hstands, hstart⟩ := ih hrest (List.cons.inj heq).2
      exact ⟨⟨heq, forall_getLast?_cons.mpr ⟨hstart, hstands.before_blank⟩, hstands.after_blank⟩,
        fun hnil ↦ absurd hnil (List.cons_ne_nil c before')⟩

theorem isSome_findWordFrom? (hbefore : ∀ c ∈ before.getLast?, isBlank c = true)
    (hafter : atBoundary after = true) (hfree : before = [] → free = true) :
    (findWordFrom? word free (before ++ word ++ after)).isSome = true := by
  induction before generalizing free with
  | nil =>
    rw [List.nil_append, findWordFrom?.eq_def, hfree rfl, List.drop_left, hafter,
      if_pos (by simp)]
    rfl
  | cons c before ih =>
    obtain ⟨hlast, hbefore⟩ := forall_getLast?_cons.mp hbefore
    rw [List.cons_append, List.cons_append, findWordFrom?]
    split
    · rfl
    · rw [Option.isSome_map]
      exact ih hbefore hlast

theorem Stands.exists_findWord? (h : Stands word text before after) :
    ∃ before' after', findWord? word text = some (before', after') ∧
      Stands word text before' after' := by
  have hsome : (findWord? word text).isSome = true := by
    rw [h.eq]
    exact isSome_findWordFrom? h.before_blank (atBoundary_iff.mpr h.after_blank) fun _ ↦ rfl
  obtain ⟨⟨before', after'⟩, hfound⟩ := Option.isSome_iff_exists.mp hsome
  exact ⟨before', after', hfound, (stands_of_findWordFrom? hfound).1⟩

/-- Where a word stands, it is replaced at some such place, and nothing else is. -/
theorem Stands.exists_replaceWord (h : Stands word text before after) (new : Text) :
    ∃ before' after', Stands word text before' after' ∧
      replaceWord text word new = before' ++ new ++ after' := by
  obtain ⟨before', after', hfound, hstands⟩ := h.exists_findWord?
  refine ⟨before', after', hstands, ?_⟩
  rw [replaceWord, hfound]

/-- Past a text without the word, the search goes on as from the start. -/
theorem replaceWord_append (hold : IsWord old) (hs : ∀ c ∈ s.getLast?, isBlank c = true)
    (hmem : old ∉ words s) (t new : Text) :
    replaceWord (s ++ t) old new = s ++ replaceWord t old new := by
  induction s using wordInduction with
  | nil => rfl
  | blank c s hc ih =>
    rw [words_cons_of_isBlank hc] at hmem
    rw [List.cons_append, replaceWord_cons_of_isBlank hold hc,
      ih (forall_getLast?_cons.mp hs).2 hmem, List.cons_append]
  | word w s hw hboundary ih =>
    rw [words_append hw hboundary, List.mem_cons, not_or] at hmem
    -- the text does not end in a word, so a blank comes behind this one
    have hne : s ≠ [] := by
      rintro rfl
      obtain ⟨u, d, rfl⟩ := (List.eq_nil_or_concat w).resolve_left hw.1
      have hd := hw.2 d (by simp)
      rw [hs d (by simp)] at hd
      cases hd
    obtain ⟨d, s, rfl⟩ := List.exists_cons_of_ne_nil hne
    have hlast : (w ++ d :: s).getLast? = (d :: s).getLast? :=
      List.getLast?_append_of_ne_nil w (List.cons_ne_nil d s)
    have hboundary' : atBoundary (d :: s ++ t) = true := hboundary
    rw [List.append_assoc, replaceWord_append_of_ne hold hw hboundary' (Ne.symm hmem.1),
      ih (hlast ▸ hs) hmem.2, List.append_assoc]

/-! ## Pieces between spaces -/

/-- A text has no space, or is a piece without one, a space and another text. -/
@[elab_as_elim]
theorem spaceInduction {motive : Text → Prop} (last : ∀ piece, ' ' ∉ piece → motive piece)
    (space : ∀ piece s, ' ' ∉ piece → motive s → motive (piece ++ ' ' :: s)) (s : Text) :
    motive s := by
  induction hn : s.length using Nat.strongRecOn generalizing s with
  | ind n ih =>
    subst hn
    cases hcut : cut? [' '] s with
    | none => exact last s (cut?_singleton_eq_none_iff.mp hcut)
    | some parts =>
      obtain ⟨rfl, hpiece⟩ := cut?_singleton_eq_some_iff.mp hcut
      exact space _ _ hpiece (ih _ (by rw [List.length_append, List.length_cons]; omega) _ rfl)

theorem exists_word_of_prefix (hkey : IsWord key) (h : key <+: s) : ∃ w ∈ words s, key <+: w := by
  obtain ⟨c, k, rfl⟩ := List.exists_cons_of_ne_nil hkey.1
  obtain ⟨t, rfl⟩ := h
  obtain ⟨w, u, hs, hw, hu⟩ := exists_word_of_not_isBlank (hkey.2 c List.mem_cons_self) (k ++ t)
  rw [← List.cons_append] at hs
  refine ⟨w, by rw [hs, words_append hw hu]; exact List.mem_cons_self, ?_⟩
  rcases List.append_eq_append_iff.mp hs with ⟨rest, hrest, -⟩ | ⟨rest, hrest, htail⟩
  · exact ⟨rest, hrest.symm⟩
  · -- the word does not end inside the key, which has no blank
    rcases rest with _ | ⟨d, rest⟩
    · simp [hrest]
    · have hd := hkey.2 d (by rw [hrest]; simp)
      rw [htail, List.cons_append, atBoundary, hd] at hu
      cases hu

theorem not_prefix_of_words (hkey : IsWord key) (h : ∀ w ∈ words s, ¬ key <+: w) :
    ¬ key <+: s := by
  intro hbegins
  obtain ⟨w, hw, hw'⟩ := exists_word_of_prefix hkey hbegins
  exact h w hw hw'

theorem prefix_append_space_iff (hkey : ' ' ∉ key) (piece s : Text) :
    key <+: piece ++ ' ' :: s ↔ key <+: piece := by
  refine ⟨fun h ↦ ?_, fun h ↦ h.trans (List.prefix_append _ _)⟩
  rcases List.prefix_or_prefix_of_prefix h (List.prefix_append piece (' ' :: s)) with h' | h'
  · exact h'
  · obtain ⟨rest, rfl⟩ := h'
    rcases rest with _ | ⟨d, rest⟩
    · simp
    · obtain ⟨rfl, -⟩ := List.cons_prefix_cons.mp ((List.prefix_append_right_inj piece).mp h)
      exact absurd (List.mem_append_right piece List.mem_cons_self) hkey

/-- A cut is not made before the first character of the pattern. -/
theorem cut?_append_of_not_mem (h : c ∉ piece) (pat s : Text) : cut? (c :: pat) (piece ++ s) =
    (cut? (c :: pat) s).map fun (before, after) ↦ (piece ++ before, after) := by
  induction piece with
  | nil => exact Option.map_id'.symm
  | cons d piece ih =>
    obtain ⟨hd, hpiece⟩ := not_or.mp (List.mem_cons.not.mp h)
    have hstart : (c :: pat).isPrefixOf (d :: (piece ++ s)) = false := by
      rw [List.isPrefixOf, beq_false_of_ne hd, Bool.false_and]
    rw [List.cons_append, cut?, hstart, ih hpiece, if_neg Bool.false_ne_true, Option.map_map]
    rfl

end Agenda.Text
