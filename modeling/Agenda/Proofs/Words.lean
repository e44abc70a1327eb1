import Agenda.Text.Replace
import Mathlib.Data.List.Basic
import Mathlib.Data.List.DropRight
import Mathlib.Data.List.TakeWhile
import Mathlib.Order.Basic

/-!
# Words and their replacement

A text is read from the left. A blank belongs to no word, and where there is no blank a word stands,
which goes up to the next blank or to the end. That is the induction on which everything here rests
(`wordInduction`): the words of a text have one equation for each case, and so has the replacement
of a word. The main statement, `words_replaceWord`, says that to replace a word in a text is to
replace it in the list of its words; in particular the word is missing from the list exactly when
the text stays as it is.
-/

namespace Agenda.Text

/-- Some characters, none of them blank. -/
def IsWord (w : Text) : Prop := w ≠ [] ∧ ∀ c ∈ w, isBlank c = false

instance (w : Text) : Decidable (IsWord w) :=
  decidable_of_iff (w ≠ [] ∧ w.all (!isBlank ·) = true) (by simp [IsWord])

variable {w u s t old new : Text} {c : Char}

/-! ## Reading from the left -/

theorem exists_word_of_not_isBlank (hc : isBlank c = false) (s : Text) :
    ∃ w t, c :: s = w ++ t ∧ IsWord w ∧ atBoundary t = true := by
  induction s generalizing c with
  | nil => exact ⟨[c], [], rfl, ⟨by simp, by simpa using hc⟩, rfl⟩
  | cons d s ih =>
    cases hd : isBlank d with
    | true => exact ⟨[c], d :: s, rfl, ⟨by simp, by simpa using hc⟩, hd⟩
    | false =>
      obtain ⟨w, t, hs, hw, ht⟩ := ih hd
      refine ⟨c :: w, t, by rw [hs, List.cons_append], ⟨by simp, ?_⟩, ht⟩
      exact List.forall_mem_cons.mpr ⟨hc, hw.2⟩

/-- A text is empty, or begins with a blank, or begins with a word that ends at a boundary. -/
@[elab_as_elim]
theorem wordInduction {motive : Text → Prop} (nil : motive [])
    (blank : ∀ c s, isBlank c = true → motive s → motive (c :: s))
    (word : ∀ w s, IsWord w → atBoundary s = true → motive s → motive (w ++ s)) (s : Text) :
    motive s := by
  induction hn : s.length using Nat.strongRecOn generalizing s with
  | ind n ih =>
    subst hn
    cases s with
    | nil => exact nil
    | cons c s =>
      cases hc : isBlank c with
      | true => exact blank c s hc (ih _ (by simp) s rfl)
      | false =>
        obtain ⟨w, t, hs, hw, ht⟩ := exists_word_of_not_isBlank hc s
        have hlen : (c :: s).length = w.length + t.length := by rw [hs, List.length_append]
        have hpos : 0 < w.length := List.length_pos_of_ne_nil hw.1
        rw [hs]
        exact word w t hw ht (ih t.length (by omega) t rfl)

theorem IsWord.eq_of_append (hw : IsWord w) (hu : IsWord u) (hs : atBoundary s = true)
    (ht : atBoundary t = true) (h : w ++ s = u ++ t) : w = u := by
  -- a longer word would go on over the blank that ends the shorter one
  have hlonger : ∀ {w s t : Text}, IsWord w → atBoundary s = true → ∀ a : Text, (∀ c ∈ a, c ∈ w) →
      s = a ++ t → a = [] := by
    intro w s t hw hs a ha hst
    cases a with
    | nil => rfl
    | cons c a =>
      rw [hst, List.cons_append, atBoundary, hw.2 c (ha c List.mem_cons_self)] at hs
      cases hs
  rcases List.append_eq_append_iff.mp h with ⟨a, hua, hsa⟩ | ⟨a, hwa, hta⟩
  · rw [hua, hlonger hu hs a (fun c hc ↦ by rw [hua]; exact List.mem_append_right w hc) hsa,
      List.append_nil]
  · rw [hwa, hlonger hw ht a (fun c hc ↦ by rw [hwa]; exact List.mem_append_right u hc) hta,
      List.append_nil]

/-! ## Words -/

@[simp] theorem words_nil : words [] = [] := rfl

theorem words_cons_of_isBlank (hc : isBlank c = true) (s : Text) : words (c :: s) = words s := by
  rw [words, splitWhere, hc]
  rfl

theorem splitWhere_append {p : Char → Bool} {piece : Text} {pieces : List Text}
    (hw : ∀ c ∈ w, p c = false) (hs : splitWhere p s = piece :: pieces) :
    splitWhere p (w ++ s) = (w ++ piece) :: pieces := by
  induction w with
  | nil => exact hs
  | cons c w ih =>
    obtain ⟨hc, hw⟩ := List.forall_mem_cons.mp hw
    rw [List.cons_append, splitWhere, hc, ih hw]
    rfl

theorem words_append (hw : IsWord w) (hs : atBoundary s = true) :
    words (w ++ s) = w :: words s := by
  obtain ⟨piece, pieces, hpieces, hpiece⟩ :
      ∃ piece pieces, splitWhere isBlank s = piece :: pieces ∧ piece = [] := by
    cases s with
    | nil => exact ⟨[], [], rfl, rfl⟩
    | cons c s =>
      have hc : isBlank c = true := hs
      exact ⟨[], splitWhere isBlank s, by rw [splitWhere, hc], rfl⟩
  subst hpiece
  have hne : (!w.isEmpty) = true := by simp [hw.1]
  rw [words, splitWhere_append hw.2 hpieces, List.append_nil, words, hpieces]
  exact List.filter_cons_of_pos hne

theorem isWord_of_mem_words (h : w ∈ words s) : IsWord w := by
  induction s using wordInduction with
  | nil => cases h
  | blank c s hc ih =>
    rw [words_cons_of_isBlank hc] at h
    exact ih h
  | word u s hu hs ih =>
    rw [words_append hu hs] at h
    rcases List.mem_cons.mp h with rfl | h
    · exact hu
    · exact ih h

theorem mem_of_mem_words (hw : w ∈ words s) (hc : c ∈ w) : c ∈ s := by
  induction s using wordInduction with
  | nil => cases hw
  | blank d s hd ih =>
    rw [words_cons_of_isBlank hd] at hw
    exact List.mem_cons_of_mem _ (ih hw)
  | word u s hu hs ih =>
    rw [words_append hu hs] at hw
    rcases List.mem_cons.mp hw with rfl | hw
    · exact List.mem_append_left _ hc
    · exact List.mem_append_right _ (ih hw)

/-! ## Pieces between separators -/

theorem splitWhere_append_cons {p : Char → Bool} (hc : p c = true) (s t : Text) :
    splitWhere p (s ++ c :: t) = splitWhere p s ++ splitWhere p t := by
  induction s with
  | nil => simp [splitWhere, hc]
  | cons d s ih =>
    obtain ⟨piece, rest, hs⟩ := List.exists_cons_of_ne_nil (splitWhere_ne_nil p s)
    rw [List.cons_append, splitWhere, ih, hs, splitWhere, hs]
    cases p d <;> rfl

theorem splitOn_append_cons (sep : Char) (s t : Text) :
    splitOn sep (s ++ sep :: t) = splitOn sep s ++ splitOn sep t :=
  splitWhere_append_cons (p := (· == sep)) (beq_self_eq_true sep) s t

theorem splitOn_of_not_mem {sep : Char} (h : sep ∉ s) : splitOn sep s = [s] := by
  have hs : ∀ c ∈ s, (c == sep) = false := by
    intro c hc
    refine beq_false_of_ne ?_
    rintro rfl
    exact h hc
  simpa [splitOn] using splitWhere_append (s := []) hs rfl

/-! ## Words of a text put together -/

/-- A blank ends a word, whatever stands before and behind it. -/
theorem words_append_cons (hc : isBlank c = true) (s t : Text) :
    words (s ++ c :: t) = words s ++ words t := by
  induction s using wordInduction with
  | nil => exact words_cons_of_isBlank hc t
  | blank d s hd ih =>
    rw [List.cons_append, words_cons_of_isBlank hd, words_cons_of_isBlank hd, ih]
  | word w s hw hs ih =>
    have hboundary : atBoundary (s ++ c :: t) = true := by
      cases s with
      | nil => exact hc
      | cons d s => exact hs
    rw [List.append_assoc, words_append hw hboundary, words_append hw hs, ih, List.cons_append]

theorem words_of_blank (hs : ∀ c ∈ s, isBlank c = true) : words s = [] := by
  induction s with
  | nil => rfl
  | cons c s ih =>
    obtain ⟨hc, hs⟩ := List.forall_mem_cons.mp hs
    rw [words_cons_of_isBlank hc, ih hs]

theorem words_append_of_blank (s : Text) (ht : ∀ c ∈ t, isBlank c = true) :
    words (s ++ t) = words s := by
  cases t with
  | nil => rw [List.append_nil]
  | cons c t =>
    obtain ⟨hc, ht⟩ := List.forall_mem_cons.mp ht
    rw [words_append_cons hc, words_of_blank ht, List.append_nil]

theorem trim_eq_self {p : Char → Bool} (hhead : ∀ c ∈ s.head?, p c = false)
    (hlast : ∀ c ∈ s.getLast?, p c = false) : trim p s = s := by
  have hfront : s.dropWhile p = s := by
    cases s with
    | nil => rfl
    | cons c s => exact List.dropWhile_cons_of_neg (by simpa using hhead c rfl)
  rw [trim, hfront]
  refine List.rdropWhile_eq_self_iff.mpr fun hne ↦ ?_
  simpa using hlast _ (List.getLast?_eq_some_getLast hne)

theorem words_dropWhile (s : Text) : words (s.dropWhile isBlank) = words s := by
  induction s with
  | nil => rfl
  | cons c s ih =>
    by_cases hc : isBlank c = true
    · rw [List.dropWhile_cons_of_pos hc, words_cons_of_isBlank hc, ih]
    · rw [List.dropWhile_cons_of_neg hc]

theorem words_trimEnd (s : Text) : words (trimEnd isBlank s) = words s := by
  have hparts : s = trimEnd isBlank s ++ (s.reverse.takeWhile isBlank).reverse := by
    rw [trimEnd, ← List.reverse_append, List.takeWhile_append_dropWhile, List.reverse_reverse]
  have hblank : ∀ c ∈ (s.reverse.takeWhile isBlank).reverse, isBlank c = true :=
    fun c hc ↦ List.mem_takeWhile_imp (List.mem_reverse.mp hc)
  conv_rhs => rw [hparts]
  rw [words_append_of_blank _ hblank]

theorem words_strip (s : Text) : words (strip s) = words s := by
  rw [strip, trim, words_trimEnd, words_dropWhile]

theorem words_join (pieces : List Text) : words (join [' '] pieces) = pieces.flatMap words := by
  induction pieces with
  | nil => rfl
  | cons piece pieces ih =>
    rw [List.flatMap_cons, ← ih]
    cases pieces with
    | nil => rw [join, join, words_nil, List.append_nil]
    | cons next pieces =>
      rw [join, List.append_assoc, List.singleton_append, words_append_cons (by decide)]

/-! ## Finding a word -/

theorem IsWord.isPrefixOf_eq_false (hw : IsWord w) (hs : atBoundary s = true) :
    w.isPrefixOf s = false := by
  obtain ⟨hne, hblank⟩ := hw
  cases w with
  | nil => exact absurd rfl hne
  | cons d w =>
    cases s with
    | nil => rfl
    | cons c s =>
      have hc : isBlank c = true := hs
      have hd : isBlank d = false := hblank d List.mem_cons_self
      have hdc : (d == c) = false := by
        rw [beq_eq_false_iff_ne]
        rintro rfl
        rw [hc] at hd
        cases hd
      rw [List.isPrefixOf, hdc, Bool.false_and]

theorem findWord?_nil (hw : IsWord w) : findWord? w [] = none := by
  rw [findWord?, findWordFrom?, hw.isPrefixOf_eq_false rfl]
  rfl

theorem findWordFrom?_cons_of_isBlank (hw : IsWord w) (hc : isBlank c = true) (free : Bool)
    (s : Text) : findWordFrom? w free (c :: s) =
      (findWord? w s).map fun (before, after) ↦ (c :: before, after) := by
  have hstart : w.isPrefixOf (c :: s) = false := hw.isPrefixOf_eq_false hc
  rw [findWordFrom?, hstart, hc, Bool.and_false]
  rfl

theorem findWordFrom?_append (hw : IsWord w) (hu : ∀ c ∈ u, isBlank c = false)
    (hs : atBoundary s = true) : findWordFrom? w false (u ++ s) =
      (findWord? w s).map fun (before, after) ↦ (u ++ before, after) := by
  induction u with
  | nil =>
    cases s with
    | nil =>
      rw [findWord?_nil hw, List.append_nil, findWordFrom?]
      rfl
    | cons c s =>
      rw [List.nil_append, findWordFrom?_cons_of_isBlank hw hs,
        ← findWordFrom?_cons_of_isBlank hw hs true, ← findWord?]
      exact Option.map_id'.symm
  | cons c u ih =>
    obtain ⟨hc, hu⟩ := List.forall_mem_cons.mp hu
    rw [List.cons_append, findWordFrom?, Bool.false_and, hc, ih hu, Option.map_map]
    rfl

/-! ## Replacing a word -/

theorem replaceWord_nil (hold : IsWord old) (new : Text) : replaceWord [] old new = [] := by
  rw [replaceWord, findWord?_nil hold]

theorem replaceWord_cons_of_isBlank (hold : IsWord old) (hc : isBlank c = true) (s new : Text) :
    replaceWord (c :: s) old new = c :: replaceWord s old new := by
  rw [replaceWord, findWord?, findWordFrom?_cons_of_isBlank hold hc, replaceWord]
  cases findWord? old s <;> rfl

theorem replaceWord_append_self (hs : atBoundary s = true) (old new : Text) :
    replaceWord (old ++ s) old new = new ++ s := by
  have hfound : findWord? old (old ++ s) = some ([], s) := by
    rw [findWord?, findWordFrom?.eq_def, List.drop_left, hs, if_pos (by simp)]
  rw [replaceWord, hfound]
  rfl

theorem replaceWord_append_of_ne (hold : IsWord old) (hu : IsWord u) (hs : atBoundary s = true)
    (hne : u ≠ old) (new : Text) : replaceWord (u ++ s) old new = u ++ replaceWord s old new := by
  have hfound : findWord? old (u ++ s) =
      (findWord? old s).map fun (before, after) ↦ (u ++ before, after) := by
    obtain ⟨c, v, rfl⟩ := List.exists_cons_of_ne_nil hu.1
    obtain ⟨hc, hv⟩ := List.forall_mem_cons.mp hu.2
    -- at the start of another word the word sought cannot both begin and end
    have hstart : ¬ (true && old.isPrefixOf (c :: v ++ s) &&
        atBoundary ((c :: v ++ s).drop old.length)) = true := by
      rw [Bool.true_and, Bool.and_eq_true]
      rintro ⟨hpre, hend⟩
      obtain ⟨t, ht⟩ := List.isPrefixOf_iff_prefix.mp hpre
      rw [← ht, List.drop_left] at hend
      exact hne (hu.eq_of_append hold hs hend ht.symm)
    rw [findWord?, findWordFrom?.eq_def, if_neg hstart]
    simp only [List.cons_append, hc]
    rw [findWordFrom?_append hold hv hs, Option.map_map]
    rfl
  rw [replaceWord, hfound, replaceWord]
  cases findWord? old s with
  | none => rfl
  | some parts => simp

theorem atBoundary_replaceWord (hold : IsWord old) (hs : atBoundary s = true) (new : Text) :
    atBoundary (replaceWord s old new) = true := by
  cases s with
  | nil => rw [replaceWord_nil hold, hs]
  | cons c s =>
    rw [replaceWord_cons_of_isBlank hold hs]
    exact hs

/-- **Replacement is replacement in the list of words.** -/
theorem words_replaceWord (hold : IsWord old) (hnew : IsWord new) (s : Text) :
    words (replaceWord s old new) = (words s).replace old new := by
  induction s using wordInduction with
  | nil => rw [replaceWord_nil hold, words_nil, List.replace_nil]
  | blank c s hc ih =>
    rw [replaceWord_cons_of_isBlank hold hc, words_cons_of_isBlank hc, words_cons_of_isBlank hc, ih]
  | word u s hu hs ih =>
    rw [words_append hu hs]
    by_cases hne : u = old
    · subst hne
      rw [replaceWord_append_self hs, words_append hnew hs, List.replace_cons_self]
    · have hboundary := atBoundary_replaceWord hold hs new
      rw [replaceWord_append_of_ne hold hu hs hne, words_append hu hboundary, ih,
        List.replace_cons, beq_false_of_ne (Ne.symm hne)]

end Agenda.Text
