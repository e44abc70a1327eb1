import Agenda.DateWord.Mend
import Agenda.Proofs.ErrorKind
import Agenda.Proofs.Places
import Agenda.Proofs.Reference

/-!
# What mending changes

To mend a task is to replace the first word that begins with a key. Three searches have to agree on
which word that is: the key is looked for behind a single space, the date word is taken to go up to
the next single space, and what was put together from the two is replaced where it stands between
blanks of any kind.

They agree where the word has a space, or an end of the text, on either side (`IsSpaced`). Then the
word that is resolved and replaced is the first one that begins with the key, and all the rest of
the text stays as it is. With another blank before it, the word is passed over. With another blank
behind it, what is resolved reaches beyond the word; in most cases it has no meaning then, but a
line feed behind a number is taken for a part of it and is lost.

In every case, what is replaced is the key with a date word that means the day written, and it
stands between blanks or ends of the text. Nothing else is changed.
-/

namespace Agenda.DateWord

open DateError (Kind)
open Text (IsWord Stands words)

/-- The text that is left, if there was anything to mend. -/
def Mended.text? : Mended → Option Text
  | replaced text => some text
  | unchanged | refused .. => none

/-- The first word of a text that begins with a key, in its place. -/
structure IsFirstBehind (key text before rest after : Text) : Prop where
  /-- The key and the rest of the word stand there. -/
  stands : Stands (key ++ rest) text before after
  /-- The word goes up to the next blank. -/
  not_isBlank : ∀ c ∈ rest, isBlank c = false
  /-- No word before it begins with the key. -/
  first : ∀ w ∈ words before, ¬ key <+: w

/-- There are spaces or ends of the text on both sides. -/
def IsSpaced (before after : Text) : Prop :=
  (∀ c ∈ before.getLast?, c = ' ') ∧ ∀ c ∈ after.head?, c = ' '

instance (key text before rest after : Text) :
    Decidable (IsFirstBehind key text before rest after) :=
  decidable_of_iff (Stands (key ++ rest) text before after ∧ rest.all (!isBlank ·) = true ∧
    ∀ w ∈ words before, ¬ key <+: w) <| by
      rw [List.all_eq_true]
      exact ⟨fun h ↦ ⟨h.1, by simpa using h.2.1, h.2.2⟩,
        fun h ↦ ⟨h.stands, by simpa using h.not_isBlank, h.first⟩⟩

instance (before after : Text) : Decidable (IsSpaced before after) :=
  decidable_of_iff (before.getLast?.all (· == ' ') = true ∧ after.head?.all (· == ' ') = true)
    (by simp [IsSpaced, Option.all_eq_true])

variable {base d : Date} {soonDays : Int} {text key before rest after piece s r : Text}

theorem not_mem_space (hkey : IsWord key) : ' ' ∉ key := fun h ↦ by cases hkey.2 ' ' h

/-! ## The first word behind a key -/

theorem exists_isFirstBehind (hkey : IsWord key) (h : ∃ w ∈ words text, key <+: w) :
    ∃ before rest after, IsFirstBehind key text before rest after := by
  induction text using Text.wordInduction with
  | nil =>
    obtain ⟨w, hw, -⟩ := h
    cases hw
  | blank c s hc ih =>
    rw [Text.words_cons_of_isBlank hc] at h
    obtain ⟨before, rest, after, hfirst⟩ := ih h
    refine ⟨c :: before, rest, after, ⟨?_, ?_, hfirst.stands.after_blank⟩, hfirst.not_isBlank, ?_⟩
    · rw [hfirst.stands.eq, List.cons_append, List.cons_append]
    · exact Text.forall_getLast?_cons.mpr ⟨fun _ ↦ hc, hfirst.stands.before_blank⟩
    · rw [Text.words_cons_of_isBlank hc]
      exact hfirst.first
  | word w s hw hs ih =>
    rw [Text.words_append hw hs] at h
    by_cases hbegins : key <+: w
    · obtain ⟨rest, rfl⟩ := hbegins
      refine ⟨[], rest, s, ⟨rfl, by simp, Text.atBoundary_iff.mp hs⟩, fun c hc ↦ ?_, by simp⟩
      exact hw.2 c (List.mem_append_right key hc)
    · obtain ⟨u, hu, hu'⟩ := h
      have hmem : u ∈ words s := by
        rcases List.mem_cons.mp hu with rfl | hu
        · exact absurd hu' hbegins
        · exact hu
      obtain ⟨before, rest, after, hfirst⟩ := ih ⟨u, hmem, hu'⟩
      -- a blank ends the word, and no key begins with one
      have hbefore : before ≠ [] := by
        rintro rfl
        obtain ⟨c, k, rfl⟩ := List.exists_cons_of_ne_nil hkey.1
        rw [hfirst.stands.eq] at hs
        have hc : isBlank c = true := hs
        rw [hkey.2 c List.mem_cons_self] at hc
        cases hc
      obtain ⟨c, before, rfl⟩ := List.exists_cons_of_ne_nil hbefore
      have hboundary : Text.atBoundary (c :: before) = true := by
        rw [hfirst.stands.eq] at hs
        exact hs
      refine ⟨w ++ c :: before, rest, after, ⟨?_, ?_, hfirst.stands.after_blank⟩,
        hfirst.not_isBlank, ?_⟩
      · rw [hfirst.stands.eq]
        simp
      · rw [List.getLast?_append_of_ne_nil w hbefore]
        exact hfirst.stands.before_blank
      · rw [Text.words_append hw hboundary]
        exact List.forall_mem_cons.mpr ⟨hbegins, hfirst.first⟩

/-! ## The search for a key -/

theorem afterKey?_of_prefix (h : key <+: s) : afterKey? key s = some (s.drop key.length) := by
  rw [afterKey?, if_pos (List.isPrefixOf_iff_prefix.mpr h)]

theorem afterKey?_append_space (hkey : ' ' ∉ key) (hpiece : ' ' ∉ piece) (h : ¬ key <+: piece)
    (s : Text) : afterKey? key (piece ++ ' ' :: s) = afterKey? key s := by
  have hstart : ¬ key.isPrefixOf (piece ++ ' ' :: s) = true := by
    rw [List.isPrefixOf_iff_prefix, Text.prefix_append_space_iff hkey]
    exact h
  rw [afterKey?, if_neg hstart, Text.cut?_append_of_not_mem hpiece, Option.map_map, Text.cut?,
    List.isPrefixOf, beq_self_eq_true, Bool.true_and, afterKey?]
  split
  · rfl
  · rw [Option.map_map]
    rfl

theorem afterKey?_of_not_mem (hpiece : ' ' ∉ piece) (h : ¬ key <+: piece) :
    afterKey? key piece = none := by
  have hcut : Text.cut? (' ' :: key) piece = none := by
    have hnil := Text.cut?_append_of_not_mem hpiece key []
    rwa [List.append_nil] at hnil
  rw [afterKey?, if_neg (List.isPrefixOf_iff_prefix.not.mpr h), hcut, Option.map_none]

theorem afterKey?_eq_none (hkey : IsWord key) (h : ∀ w ∈ words text, ¬ key <+: w) :
    afterKey? key text = none := by
  induction text using Text.spaceInduction with
  | last piece hpiece => exact afterKey?_of_not_mem hpiece (Text.not_prefix_of_words hkey h)
  | space piece s hpiece ih =>
    rw [Text.words_append_cons (by decide)] at h
    obtain ⟨hwords, hrest⟩ := List.forall_mem_append.mp h
    have hstart : ¬ key <+: piece := Text.not_prefix_of_words hkey hwords
    rw [afterKey?_append_space (not_mem_space hkey) hpiece hstart]
    exact ih hrest

theorem afterKey?_append (hkey : IsWord key) (hbefore : ∀ w ∈ words before, ¬ key <+: w)
    (hspace : ∀ c ∈ before.getLast?, c = ' ') (s : Text) :
    afterKey? key (before ++ s) = afterKey? key s := by
  induction before using Text.spaceInduction with
  | last piece hpiece =>
    rcases List.eq_nil_or_concat piece with rfl | ⟨piece, c, rfl⟩
    · rfl
    · have hc : c = ' ' := hspace c (by simp)
      exact absurd (by simp [hc]) hpiece
  | space piece t hpiece ih =>
    rw [Text.words_append_cons (by decide)] at hbefore
    obtain ⟨hwords, hrest⟩ := List.forall_mem_append.mp hbefore
    have hstart : ¬ key <+: piece := Text.not_prefix_of_words hkey hwords
    rw [List.getLast?_append_of_ne_nil piece (List.cons_ne_nil ' ' t)] at hspace
    rw [List.append_assoc, List.cons_append,
      afterKey?_append_space (not_mem_space hkey) hpiece hstart,
      ih hrest (Text.forall_getLast?_cons.mp hspace).2]

theorem exists_of_afterKey? (h : afterKey? key text = some s) :
    ∃ before, text = before ++ key ++ s ∧ ∀ c ∈ before.getLast?, isBlank c = true := by
  rw [afterKey?] at h
  split at h
  · next hbegins =>
    cases h
    obtain ⟨t, rfl⟩ := List.isPrefixOf_iff_prefix.mp hbegins
    exact ⟨[], by simp, by simp⟩
  · obtain ⟨⟨before, after⟩, hcut, rfl⟩ := Option.map_eq_some_iff.mp h
    refine ⟨before ++ [' '], by simpa using Text.eq_of_cut? hcut, ?_⟩
    intro c hc
    obtain rfl : ' ' = c := by simpa using hc
    rfl

/-! ## Mending -/

/-- The date word behind a key goes up to the next space. -/
def wordOf (after : Text) : Text := after.takeWhile (· != ' ')

theorem wordOf_append (hrest : ∀ c ∈ rest, isBlank c = false)
    (hafter : ∀ c ∈ after.head?, c = ' ') : wordOf (rest ++ after) = rest := by
  have hword : ∀ c ∈ rest, (c != ' ') = true := by
    intro c hc
    rw [bne_iff_ne]
    rintro rfl
    cases hrest ' ' hc
  have hnone : after.takeWhile (· != ' ') = [] := by
    rcases after with _ | ⟨c, after⟩
    · rfl
    · obtain rfl : c = ' ' := hafter c (by simp)
      rfl
  rw [wordOf, List.takeWhile_append_of_pos hword, hnone, List.append_nil]

theorem afterKey?_nil (hkey : key ≠ []) : afterKey? key [] = none := by
  obtain ⟨c, k, rfl⟩ := List.exists_cons_of_ne_nil hkey
  rfl

theorem mend_of_none (h : afterKey? key text = none) :
    mend base soonDays text key = .unchanged := by
  rw [mend, h]
  exact ite_self _

theorem mend_of_some (hkey : key ≠ []) (h : afterKey? key text = some s) :
    mend base soonDays text key = match resolve base soonDays (wordOf s) with
      | .ok d => .replaced (Text.replaceWord text (key ++ wordOf s) (key ++ d.toText))
      | .error (.absolute _) => .unchanged
      | .error error => .refused (wordOf s) error := by
  have htext : text.isEmpty = false := by
    rw [List.isEmpty_eq_false_iff]
    rintro rfl
    rw [afterKey?_nil hkey] at h
    cases h
  rw [mend, htext, List.isEmpty_eq_false_iff.mpr hkey, h]
  rfl

theorem text?_mend_of_some (hkey : key ≠ []) (h : afterKey? key text = some s) :
    (mend base soonDays text key).text? = (resolve base soonDays (wordOf s)).toOption.map fun d ↦
      Text.replaceWord text (key ++ wordOf s) (key ++ d.toText) := by
  rw [mend_of_some hkey h]
  split
  · next hresolve => rw [hresolve]; rfl
  · next hresolve => rw [hresolve]; rfl
  · next hresolve => rw [hresolve]; rfl

theorem kind_of_mend (hkey : key ≠ []) {word : Text} {error : DateError}
    (h : mend base soonDays text key = .refused word error) :
    error.kind ∈ [Kind.empty, .date, .dayOfMonth] := by
  cases hafter : afterKey? key text with
  | none =>
    rw [mend_of_none hafter] at h
    cases h
  | some s =>
    rw [mend_of_some hkey hafter] at h
    split at h
    · cases h
    · cases h
    · next hne hresolve =>
      cases h
      have habsolute : error.kind ≠ .absolute := by
        rw [ne_eq, DateError.kind_eq_absolute_iff]
        exact not_exists.mpr hne
      exact (List.mem_cons.mp (kind_of_resolve hresolve)).resolve_left habsolute

/-- Where the first word behind the key has spaces around it, it is the one that is mended. -/
theorem IsFirstBehind.text?_mend (hkey : IsWord key) (h : IsFirstBehind key text before rest after)
    (hspaced : IsSpaced before after) : (mend base soonDays text key).text? =
      (resolve base soonDays rest).toOption.map fun d ↦ before ++ (key ++ d.toText) ++ after := by
  have hword : IsWord (key ++ rest) :=
    ⟨List.append_ne_nil_of_left_ne_nil hkey.1 rest,
      List.forall_mem_append.mpr ⟨hkey.2, h.not_isBlank⟩⟩
  have hafter : afterKey? key text = some (rest ++ after) := by
    rw [h.stands.eq, List.append_assoc, afterKey?_append hkey h.first hspaced.1, List.append_assoc,
      afterKey?_of_prefix (List.prefix_append _ _), List.drop_left]
  have hreplace : ∀ new, Text.replaceWord text (key ++ rest) new = before ++ new ++ after := by
    intro new
    have hmem : key ++ rest ∉ words before := fun hmem ↦ h.first _ hmem (List.prefix_append _ _)
    rw [h.stands.eq, List.append_assoc,
      Text.replaceWord_append hword h.stands.before_blank hmem,
      Text.replaceWord_append_self (Text.atBoundary_iff.mpr h.stands.after_blank),
      List.append_assoc]
  rw [text?_mend_of_some hkey.1 hafter, wordOf_append h.not_isBlank hspaced.2]
  simp only [hreplace]

/-- In every text, what is replaced is the key with a word for the day that is written. -/
theorem exists_stands_of_mend (hkey : key ≠ [])
    (h : (mend base soonDays text key).text? = some r) : ∃ before rest after d,
      Stands (key ++ rest) text before after ∧ resolve base soonDays rest = .ok d ∧
        r = before ++ (key ++ d.toText) ++ after := by
  cases hafter : afterKey? key text with
  | none =>
    rw [mend_of_none hafter] at h
    cases h
  | some s =>
    rw [text?_mend_of_some hkey hafter] at h
    obtain ⟨d, hd, rfl⟩ := Option.map_eq_some_iff.mp h
    obtain ⟨before, htext, hbefore⟩ := exists_of_afterKey? hafter
    have hstands : Stands (key ++ wordOf s) text before (s.dropWhile (· != ' ')) := by
      refine ⟨?_, hbefore, fun c hc ↦ ?_⟩
      · rw [htext, wordOf, List.append_assoc, List.append_assoc, List.append_assoc,
          List.takeWhile_append_dropWhile]
      · have hspace := List.head?_dropWhile_not (· != ' ') s
        rw [Option.mem_def.mp hc] at hspace
        obtain rfl : c = ' ' := by simpa using hspace
        rfl
    obtain ⟨before', after', hstands', hreplace⟩ :=
      hstands.exists_replaceWord (key ++ d.toText)
    exact ⟨before', wordOf s, after', d, hstands', eq_ok_of_toOption hd, hreplace⟩

/-- **Mending a task.** If no word begins with the key, there is nothing to mend, and else there is
a first such word. With spaces around it, that word is replaced by the key and the day that its rest
means, and nothing is mended if the rest means none. In every text, what is replaced is the key with
a word for the day written, between blanks or ends of the text, and the errors reported are those of
a word without a meaning. -/
theorem mend_exact (base : Date) (soonDays : Int) (text : Text) {key : Text} (hkey : IsWord key) :
    ((∀ w ∈ words text, ¬ key <+: w) → (mend base soonDays text key).text? = none) ∧
    ((∃ w ∈ words text, key <+: w) →
      ∃ before rest after, IsFirstBehind key text before rest after) ∧
    (∀ before rest after, IsFirstBehind key text before rest after → IsSpaced before after →
      (mend base soonDays text key).text? =
        (resolve base soonDays rest).toOption.map fun d ↦ before ++ (key ++ d.toText) ++ after) ∧
    (∀ r, (mend base soonDays text key).text? = some r → ∃ before rest after d,
      Stands (key ++ rest) text before after ∧ resolve base soonDays rest = .ok d ∧
        r = before ++ (key ++ d.toText) ++ after) ∧
    ∀ word error, mend base soonDays text key = .refused word error →
      error.kind ∈ [Kind.empty, .date, .dayOfMonth] := by
  refine ⟨fun h ↦ ?_, exists_isFirstBehind hkey, fun before rest after h hspaced ↦ ?_,
    fun r ↦ exists_stands_of_mend hkey.1, fun word error ↦ kind_of_mend hkey.1⟩
  · rw [mend_of_none (afterKey?_eq_none hkey h)]
    rfl
  · exact h.text?_mend hkey hspaced

theorem mend_exact_friday :
    let key := "due:".toList
    let before := "xdue:mon ".toList
    let after := "  due:fri".toList
    let text := before ++ "due:fri".toList ++ after
    (IsWord key ∧ IsFirstBehind key text before "fri".toList after ∧ IsSpaced before after) ∧
    (mend ⟨2020, 3, 15, by decide⟩ 7 text key).text? =
      some "xdue:mon due:2020-03-20  due:fri".toList := by
  intro key before after text
  have hkey : IsWord key := by decide
  have hfirst : IsFirstBehind key text before "fri".toList after := by decide
  have hspaced : IsSpaced before after := by decide
  refine ⟨⟨hkey, hfirst, hspaced⟩, ?_⟩
  rw [(mend_exact ⟨2020, 3, 15, by decide⟩ 7 text hkey).2.2.1 before _ after hfirst hspaced]
  decide

/-- Behind another blank than a space, the first word that begins with the key is passed over. -/
theorem not_forall_text?_mend : ¬ ∀ (base : Date) (soonDays : Int)
    (key text before rest after : Text), IsWord key → IsFirstBehind key text before rest after →
      (mend base soonDays text key).text? =
        (resolve base soonDays rest).toOption.map fun d ↦
          before ++ (key ++ d.toText) ++ after := by
  intro h
  have hkey : IsWord "due:".toList := by decide
  have hfirst : IsFirstBehind "due:".toList "call\tdue:fri".toList "call\t".toList
      "fri".toList [] := by decide
  exact absurd (h ⟨2020, 3, 15, by decide⟩ 7 _ _ _ _ _ hkey hfirst) (by decide)

end Agenda.DateWord
