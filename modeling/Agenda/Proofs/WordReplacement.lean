import Agenda.Proofs.Gaps
import Agenda.Proofs.Places

/-!
# One word replaced

To replace a word in a text is to replace the first word that is equal to it and to leave everything
else, the blanks included. The first place where a word stands is told from the others by the words
before it, which the word is not among (`exists_first_stands`): the search passes over what is
before and then meets the word, so that is where the replacement happens (`Stands.replaceWord_eq`).

What a text says of its tags is told by the keys in order and by the last value of each. A tag that
replaces a tag of the same key leaves the keys as they are, and if its key had one value it has the
new one. Both words have to be tags for this: a key with nothing behind its colon is an ordinary
word, and to put it in place of a tag is to take the tag away.
-/

namespace Agenda

namespace Text

variable {word text before after old s : Text}

/-! ## The first place -/

/-- Around a word that stands in a text are the words before it and the words after it. -/
theorem Stands.words_eq (hword : IsWord word) (h : Stands word text before after) :
    words text = words before ++ word :: words after := by
  rw [h.eq, List.append_assoc, ← words_append hword (atBoundary_iff.mpr h.after_blank)]
  rcases List.eq_nil_or_concat before with rfl | ⟨front, c, rfl⟩
  · rfl
  · have hc : isBlank c = true := h.before_blank c (by simp)
    rw [List.concat_eq_append, List.append_assoc, List.singleton_append, words_append_cons hc,
      words_append_cons hc, words_nil, List.append_nil]

theorem exists_first_stands (h : old ∈ words s) :
    ∃ before after, Stands old s before after ∧ old ∉ words before := by
  have hold := isWord_of_mem_words h
  induction s using wordInduction with
  | nil => cases h
  | blank c s hc ih =>
    rw [words_cons_of_isBlank hc] at h
    obtain ⟨before, after, hstands, hfirst⟩ := ih h
    refine ⟨c :: before, after, ⟨by rw [hstands.eq]; rfl, ?_, hstands.after_blank⟩, ?_⟩
    · exact forall_getLast?_cons.mpr ⟨fun _ ↦ hc, hstands.before_blank⟩
    · rwa [words_cons_of_isBlank hc]
  | word w s hw hs ih =>
    by_cases hne : old = w
    · subst hne
      exact ⟨[], s, ⟨rfl, nofun, atBoundary_iff.mp hs⟩, List.not_mem_nil⟩
    · rw [words_append hw hs] at h
      obtain ⟨before, after, hstands, hfirst⟩ := ih ((List.mem_cons.mp h).resolve_left hne)
      -- a blank is behind the other word, so the place is not at once behind it
      have hbefore : before ≠ [] := by
        rintro rfl
        obtain ⟨c, rest, rfl⟩ := List.exists_cons_of_ne_nil hold.1
        have hc := hold.2 c List.mem_cons_self
        rw [hstands.eq, List.nil_append, List.cons_append, atBoundary, hc] at hs
        cases hs
      have hboundary : atBoundary before = true := by
        obtain ⟨c, rest, rfl⟩ := List.exists_cons_of_ne_nil hbefore
        rwa [hstands.eq] at hs
      refine ⟨w ++ before, after, ⟨by rw [hstands.eq]; simp, ?_, hstands.after_blank⟩, ?_⟩
      · rw [List.getLast?_append_of_ne_nil w hbefore]
        exact hstands.before_blank
      · rw [words_append hw hboundary, List.mem_cons, not_or]
        exact ⟨hne, hfirst⟩

theorem Stands.replaceWord_eq (hold : IsWord old) (h : Stands old text before after)
    (hfirst : old ∉ words before) (new : Text) :
    replaceWord text old new = before ++ new ++ after := by
  rw [h.eq, List.append_assoc, replaceWord_append hold h.before_blank hfirst,
    replaceWord_append_self (atBoundary_iff.mpr h.after_blank), List.append_assoc]

theorem replaceWord_of_not_mem (hold : IsWord old) (h : old ∉ words text) (new : Text) :
    replaceWord text old new = text := by
  rw [replaceWord]
  split
  · next before after hfound =>
    have hwords := (stands_of_findWordFrom? hfound).1.words_eq hold
    exact absurd (hwords ▸ by simp) h
  · rfl

end Text

/-! ## Tags -/

variable {text k v w : Text}

theorem IsTag.map_fst_tagOfWord? (h : IsTag k v) :
    (tagOfWord? (tagWord k v)).map Prod.fst = some k := by
  rw [tagOfWord?_eq_some_iff.mpr ⟨rfl, h⟩]
  rfl

/-- A tag in place of a tag of the same key leaves the keys as they are. -/
theorem map_fst_extractTags_replaceWord (hold : Text.IsWord (tagWord k v))
    (hnew : Text.IsWord (tagWord k w)) (htag : IsTag k v) (htag' : IsTag k w) (text : Text) :
    (extractTags (Text.replaceWord text (tagWord k v) (tagWord k w))).map Prod.fst =
      (extractTags text).map Prod.fst := by
  have hkeys := filterMap_replace_congr (f := fun word ↦ (tagOfWord? word).map Prod.fst)
    (htag.map_fst_tagOfWord?.trans htag'.map_fst_tagOfWord?.symm) (Text.words text)
  rw [extractTags, extractTags, Dictionary.map_fst_ofBindings, Dictionary.map_fst_ofBindings,
    List.map_filterMap, List.map_filterMap, Text.words_replaceWord hold hnew, hkeys]

theorem get?_extractTags_of_tagValues (honly : tagValues k text = [v]) :
    (extractTags text).get? k = some v := by
  rw [get?_extractTags, honly]
  rfl

/-- A tag in place of the only tag of its key gives the key its value. -/
theorem extractTags_replaceWord (hnew : Text.IsWord (tagWord k w)) (htag' : IsTag k w)
    (honly : tagValues k text = [v]) :
    extractTags (Text.replaceWord text (tagWord k v) (tagWord k w)) =
      (extractTags text).set k w := by
  obtain ⟨hmem, htag⟩ := mem_tagValues_iff.mp (honly ▸ List.mem_singleton_self v)
  have hold := Text.isWord_of_mem_words hmem
  have hget := get?_extractTags_of_tagValues honly
  have hk : k ∈ (extractTags text).map Prod.fst := by
    by_contra hk
    rw [Dictionary.get?_of_not_mem hk] at hget
    cases hget
  refine Dictionary.eq_of_get? (Dictionary.nodup_ofBindings _) ?_ fun key ↦ ?_
  · rw [Dictionary.map_fst_set, if_pos hk, map_fst_extractTags_replaceWord hold hnew htag htag']
  · rw [get?_extractTags, tagValues_replaceWord hold htag hnew htag']
    by_cases hkey : key = k
    · subst hkey
      rw [if_pos rfl, honly, List.replace_cons_self, Dictionary.get?_set_self]
      rfl
    · rw [if_neg hkey, Dictionary.get?_set_of_ne hkey, get?_extractTags]

/-- **One word is replaced.** A text without the old word stays as it is. Otherwise the word is
replaced where it stands for the first time: the words before and after that place, and all gaps
between words, are as they were. If the old word is the only tag of its key in the text and the new
one is a tag of this key, the tags of the new text are the old ones with the new value for the key,
in the order that they had. -/
theorem replaceWord_exact (text : Text) {old new : Text} (hold : Text.IsWord old)
    (hnew : Text.IsWord new) :
    (old ∉ Text.words text → Text.replaceWord text old new = text) ∧
    (old ∈ Text.words text → ∃ before after,
      Text.Stands old text before after ∧ old ∉ Text.words before ∧
      Text.replaceWord text old new = before ++ new ++ after ∧
      Text.words text = Text.words before ++ old :: Text.words after ∧
      Text.words (Text.replaceWord text old new) = Text.words before ++ new :: Text.words after ∧
      Text.gaps (Text.replaceWord text old new) = Text.gaps text) ∧
    ∀ k v w, old = tagWord k v → tagValues k text = [v] → new = tagWord k w → w ≠ [] →
      "//".toList.isPrefixOf w = false →
      (extractTags text).get? k = some v ∧
      extractTags (Text.replaceWord text old new) = (extractTags text).set k w ∧
      (extractTags (Text.replaceWord text old new)).map Prod.fst =
        (extractTags text).map Prod.fst := by
  refine ⟨fun hmem ↦ Text.replaceWord_of_not_mem hold hmem new, fun hmem ↦ ?_, ?_⟩
  · obtain ⟨before, after, hstands, hfirst⟩ := Text.exists_first_stands hmem
    have heq := hstands.replaceWord_eq hold hfirst new
    have hplaced : Text.Stands new (before ++ new ++ after) before after :=
      ⟨rfl, hstands.before_blank, hstands.after_blank⟩
    exact ⟨before, after, hstands, hfirst, heq, hstands.words_eq hold,
      heq ▸ hplaced.words_eq hnew, Text.gaps_replaceWord hold hnew text⟩
  · rintro k v w rfl honly rfl hw haddress
    have htag : IsTag k v := (mem_tagValues_iff.mp (honly ▸ List.mem_singleton_self v)).2
    have htag' : IsTag k w := ⟨htag.key_ne_nil, htag.not_mem_key, hw, haddress⟩
    exact ⟨get?_extractTags_of_tagValues honly, extractTags_replaceWord hnew htag' honly,
      map_fst_extractTags_replaceWord hold hnew htag htag' text⟩

theorem replaceWord_exact_call :
    let text := "due:fri call  Bob\tat:home".toList
    let result := Text.replaceWord text "due:fri".toList "due:mon".toList
    (∃ before after, Text.Stands "due:fri".toList text before after ∧
      result = before ++ "due:mon".toList ++ after) ∧ Text.gaps result = Text.gaps text ∧
    Text.replaceWord text "fri".toList "mon".toList = text ∧
    extractTags result = [("due".toList, "mon".toList), ("at".toList, "home".toList)] := by
  intro text result
  have hold : Text.IsWord "due:fri".toList := by decide
  have hnew : Text.IsWord "due:mon".toList := by decide
  obtain ⟨-, hplace, htags⟩ := replaceWord_exact text hold hnew
  obtain ⟨before, after, hstands, -, heq, -, -, hgaps⟩ := hplace (by decide)
  obtain ⟨-, hread, -⟩ := htags "due".toList "fri".toList "mon".toList rfl (by decide) rfl
    (by decide) (by decide)
  have hbare : Text.IsWord "fri".toList := by decide
  have hbare' : Text.IsWord "mon".toList := by decide
  have hnone := (replaceWord_exact text hbare hbare').1 (by decide)
  exact ⟨⟨before, after, hstands, heq⟩, hgaps, hnone, hread.trans (by decide)⟩

/-- A key with nothing behind its colon is no tag, and in place of a tag it takes the tag away. -/
theorem not_forall_extractTags_replaceWord : ¬ ∀ text k v w : Text,
    Text.IsWord (tagWord k v) → Text.IsWord (tagWord k w) → tagValues k text = [v] →
      "//".toList.isPrefixOf w = false →
      extractTags (Text.replaceWord text (tagWord k v) (tagWord k w)) =
        (extractTags text).set k w := by
  intro h
  have hread := h "due:fri".toList "due".toList "fri".toList [] (by decide) (by decide) (by decide)
    (by decide)
  exact absurd hread (by decide)

end Agenda
