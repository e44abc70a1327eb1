import Agenda.Pattern.Basic
import Mathlib.Data.List.Infix

/-!
# Counts that are too large

The reader of patterns takes the counts of a repetition as they stand between the braces, and there
it notices one that is too large. Whatever else the pattern is, such a count is one that it states
(`Regex.hugeCount_mem_statedCounts`): the reader only ever goes on with the end of what it was
given, and the counts that a piece of a text states, the whole text states too.

The converse does not hold. A fault further left is told instead, and in brackets or behind a
backslash a brace is a character like any other. But behind plain characters the count is noticed
(`Regex.ofText?_braces`), unless a lone backslash is all that follows.
-/

namespace Agenda

variable {s t low rest pattern plain digits : Text} {high : Option Text} {count fuel : Nat}

/-- The counts that a text states between braces, from left to right. -/
def statedCounts : Text → List Nat
  | [] => []
  | c :: s =>
    (if c = '\x7b' then
      match Regex.readBraces? s with
      | some (low, high, _) => Text.toNat low :: (high.map Text.toNat).toList
      | none => []
    else []) ++ statedCounts s

/-! ## Braces -/

theorem takeWhile_append_of_dropWhile {p : Char → Bool} {d : Char}
    (h : s.dropWhile p = d :: rest) (t : Text) : (s ++ t).takeWhile p = s.takeWhile p := by
  have hlength : (s.takeWhile p).length ≠ s.length := by
    intro heq
    have hsplit := congrArg List.length (List.takeWhile_append_dropWhile (p := p) (l := s))
    rw [List.length_append, h, List.length_cons] at hsplit
    omega
  rw [List.takeWhile_append, if_neg hlength]

theorem dropWhile_append_of_dropWhile {p : Char → Bool} {d : Char}
    (h : s.dropWhile p = d :: rest) (t : Text) : (s ++ t).dropWhile p = d :: (rest ++ t) := by
  rw [List.dropWhile_append, h]
  rfl

namespace Regex

theorem readBraces?_eq_some_iff : readBraces? s = some (low, high, rest) ↔
    low = s.takeWhile isCountDigit ∧ (high = none ∧ s.dropWhile isCountDigit = '\x7d' :: rest ∨
      ∃ t, s.dropWhile isCountDigit = ',' :: t ∧ high = some (t.takeWhile isCountDigit) ∧
        t.dropWhile isCountDigit = '\x7d' :: rest) := by
  rw [readBraces?]
  split
  · next hend => simp [hend, eq_comm]
  · next u hcomma =>
    simp only [hcomma]
    split
    · next hend => simp [hend, eq_comm]
    · next hopen =>
      refine iff_of_false nofun ?_
      rintro ⟨-, ⟨-, hend⟩ | ⟨t, heq, -, hend⟩⟩
      · cases hend
      · obtain rfl : u = t := (List.cons.inj heq).2
        exact hopen _ hend
  · next hopen hsingle =>
    refine iff_of_false nofun ?_
    rintro ⟨-, ⟨-, hend⟩ | ⟨t, hcomma, -⟩⟩
    · exact hopen _ hend
    · exact hsingle _ hcomma

theorem readBraces?_append (h : readBraces? s = some (low, high, rest)) (t : Text) :
    readBraces? (s ++ t) = some (low, high, rest ++ t) := by
  obtain ⟨rfl, hends⟩ := readBraces?_eq_some_iff.mp h
  refine readBraces?_eq_some_iff.mpr ?_
  rcases hends with ⟨rfl, hend⟩ | ⟨u, hcomma, rfl, hend⟩
  · exact ⟨(takeWhile_append_of_dropWhile hend t).symm,
      .inl ⟨rfl, dropWhile_append_of_dropWhile hend t⟩⟩
  · exact ⟨(takeWhile_append_of_dropWhile hcomma t).symm,
      .inr ⟨u ++ t, dropWhile_append_of_dropWhile hcomma t,
        congrArg some (takeWhile_append_of_dropWhile hend t).symm,
        dropWhile_append_of_dropWhile hend t⟩⟩

theorem suffix_of_readBraces? (h : readBraces? s = some (low, high, rest)) : rest <:+ s := by
  have hdrop : ∀ {d : Char} {t u : Text}, t.dropWhile isCountDigit = d :: u → u <:+ t :=
    fun h ↦ (List.suffix_cons _ _).trans (h ▸ List.dropWhile_suffix _)
  obtain ⟨-, ⟨-, hend⟩ | ⟨t, hcomma, -, hend⟩⟩ := readBraces?_eq_some_iff.mp h
  · exact hdrop hend
  · exact (hdrop hend).trans (hdrop hcomma)

end Regex

/-! ## Pieces of a text -/

theorem statedCounts_subset_of_suffix (h : s <:+ t) : statedCounts s ⊆ statedCounts t := by
  obtain ⟨before, rfl⟩ := h
  induction before with
  | nil => exact List.Subset.refl _
  | cons c before ih =>
    rw [List.cons_append, statedCounts]
    exact List.subset_append_of_subset_right _ ih

theorem statedCounts_subset_append (s t : Text) : statedCounts s ⊆ statedCounts (s ++ t) := by
  induction s with
  | nil => exact List.nil_subset _
  | cons c s ih =>
    rw [List.cons_append, statedCounts, statedCounts]
    refine List.append_subset.mpr ⟨?_, List.subset_append_of_subset_right _ ih⟩
    refine List.subset_append_of_subset_left _ ?_
    split
    · cases h : Regex.readBraces? s with
      | none => exact List.nil_subset _
      | some counts =>
        obtain ⟨low, high, rest⟩ := counts
        rw [Regex.readBraces?_append h t]
        exact List.Subset.refl _
    · exact List.nil_subset _

theorem statedCounts_subset_of_infix (h : s <:+: t) : statedCounts s ⊆ statedCounts t := by
  obtain ⟨before, after, rfl⟩ := h
  rw [List.append_assoc]
  exact List.Subset.trans (statedCounts_subset_append s after)
    (statedCounts_subset_of_suffix (List.suffix_append _ _))

namespace Regex

/-! ## One repetition -/

theorem countLimit_le_of_repetition (h : repetition low high = .error (.hugeCount count)) :
    countLimit ≤ count ∧ (count = Text.toNat low ∨ high.map Text.toNat = some count) := by
  rw [repetition.eq_def] at h
  dsimp only at h
  split at h
  · next hlow =>
    injection h with h
    injection h with h
    exact ⟨h ▸ hlow, .inl h.symm⟩
  · split at h
    · cases h
    · cases h
    · split at h
      · next hhigh =>
        injection h with h
        injection h with h
        exact ⟨h ▸ hhigh, .inr (congrArg some h)⟩
      · split at h <;> cases h

theorem statedCounts_of_readBraces? (h : readBraces? s = some (low, high, rest))
    (hcount : count = Text.toNat low ∨ high.map Text.toNat = some count) :
    count ∈ statedCounts ('\x7b' :: s) := by
  rw [statedCounts, if_pos rfl, h]
  refine List.mem_append_left _ ?_
  rcases hcount with rfl | hcount
  · exact List.mem_cons_self
  · exact List.mem_cons_of_mem _ (Option.mem_toList.mpr hcount)

/-- A repetition is a single character, or braces with counts in them. -/
theorem readCounts?_cases (s : Text) : readCounts? s = .ok none ∨
    readCounts? s = .error .malformed ∨
    (∃ c t counts, s = c :: t ∧ readCounts? s = .ok (some (counts, t))) ∨
    ∃ t low high rest, s = '\x7b' :: t ∧ readBraces? t = some (low, high, rest) ∧
      readCounts? s = (repetition low high).map fun counts ↦ some (counts, rest) := by
  rw [readCounts?.eq_def]
  split
  · exact .inr (.inr (.inl ⟨_, _, _, rfl, rfl⟩))
  · exact .inr (.inr (.inl ⟨_, _, _, rfl, rfl⟩))
  · exact .inr (.inr (.inl ⟨_, _, _, rfl, rfl⟩))
  · exact .inl rfl
  · split
    · exact .inl rfl
    · next low high rest hbraces =>
      split
      · exact .inr (.inl rfl)
      · exact .inr (.inr (.inr ⟨_, low, high, rest, rfl, hbraces, rfl⟩))
  · exact .inl rfl

theorem suffix_of_readCounts? {counts : Nat × Option Nat}
    (h : readCounts? s = .ok (some (counts, rest))) : rest <:+ s := by
  rcases readCounts?_cases s with
    heq | heq | ⟨c, t, _, rfl, heq⟩ | ⟨t, low, high, behind, rfl, hbraces, heq⟩
  · cases heq.symm.trans h
  · cases heq.symm.trans h
  · cases heq.symm.trans h
    exact List.suffix_cons _ _
  · rw [heq] at h
    cases hcounts : repetition low high with
    | error fault =>
      rw [hcounts] at h
      cases h
    | ok counts' =>
      rw [hcounts] at h
      cases h
      exact (suffix_of_readBraces? hbraces).trans (List.suffix_cons _ _)

theorem hugeCount_of_readCounts? (h : readCounts? s = .error (.hugeCount count)) :
    countLimit ≤ count ∧ count ∈ statedCounts s := by
  rcases readCounts?_cases s with
    heq | heq | ⟨c, t, _, rfl, heq⟩ | ⟨t, low, high, behind, rfl, hbraces, heq⟩
  · cases heq.symm.trans h
  · cases heq.symm.trans h
  · cases heq.symm.trans h
  · rw [heq] at h
    cases hcounts : repetition low high with
    | error fault =>
      rw [hcounts] at h
      cases h
      obtain ⟨hlimit, hcount⟩ := countLimit_le_of_repetition hcounts
      exact ⟨hlimit, statedCounts_of_readBraces? hbraces hcount⟩
    | ok counts' =>
      rw [hcounts] at h
      cases h

/-! ## The readers -/

/-- What a reader makes of a text stays within it: what is left is an end of the text, and a count
that is too large is one that the text states. -/
def Within (s : Text) : Except RegexFault (Regex × Scan) → Prop
  | .ok (_, scan) => scan.rest <:+ s
  | .error .malformed => True
  | .error (.hugeCount count) => countLimit ≤ count ∧ count ∈ statedCounts s

theorem Within.mono {x : Except RegexFault (Regex × Scan)} (h : Within s x) (hst : s <:+ t) :
    Within t x := by
  rcases x with (_ | count) | ⟨r, scan⟩
  · trivial
  · exact ⟨h.1, statedCounts_subset_of_suffix hst h.2⟩
  · exact h.trans hst

theorem Within.bind {x : Except RegexFault (Regex × Scan)}
    {f : Regex × Scan → Except RegexFault (Regex × Scan)} (h : Within s x)
    (hf : ∀ r scan, Within scan.rest (f (r, scan))) : Within s (x >>= f) := by
  rcases x with (_ | count) | ⟨r, scan⟩
  · trivial
  · exact h
  · exact (hf r scan).mono h

theorem suffix_of_readSetItem? {item : SetItem} (h : readSetItem? s = some (item, rest)) :
    rest <:+ s := by
  rw [readSetItem?.eq_def] at h
  split at h
  · next c t =>
    have ht : t <:+ '\\' :: c :: t := (List.suffix_cons _ _).trans (List.suffix_cons _ _)
    split at h
    · cases h
      exact ht
    · obtain ⟨item', -, heq⟩ := Option.map_eq_some_iff.mp h
      cases heq
      exact ht
  · cases h
  · cases h
    exact List.suffix_cons _ _
  · cases h

theorem suffix_of_readSet? {items items' : List SetItem}
    (h : readSet? fuel items s = some (items', rest)) : rest <:+ s := by
  induction fuel generalizing items s with
  | zero => cases h
  | succ fuel ih =>
    rw [readSet?.eq_def] at h
    dsimp only at h
    split at h
    · cases h
      exact List.suffix_cons _ _
    · obtain ⟨⟨item, t⟩, hitem, h⟩ := Option.bind_eq_some_iff.mp h
      refine List.IsSuffix.trans ?_ (suffix_of_readSetItem? hitem)
      -- a dash behind the item may be the last one of the set or ask for another item
      dsimp only at h
      split at h
      · cases h
        exact (List.suffix_cons _ _).trans (List.suffix_cons _ _)
      · obtain ⟨⟨other, u⟩, hother, h⟩ := Option.bind_eq_some_iff.mp h
        refine List.IsSuffix.trans ?_ (List.suffix_cons _ _)
        refine List.IsSuffix.trans ?_ (suffix_of_readSetItem? hother)
        dsimp only at h
        split at h
        · split at h
          · cases h
          · exact ih h
        · cases h
      · exact ih h

theorem suffix_of_readReference (c : Char) (s : Text) : (readReference c s).2 <:+ s := by
  rw [readReference.eq_def]
  split
  · split
    · exact List.suffix_cons _ _
    · exact List.suffix_refl _
  · exact List.suffix_refl _

theorem within_readEscape? (c : Char) (scan : Scan) :
    Within scan.rest (orMalformed (readEscape? c scan)) := by
  rw [readEscape?]
  split
  · dsimp only
    split
    · exact suffix_of_readReference c scan.rest
    · trivial
  · cases (anchorEscape? c).map anchor <|> (itemEscape? c).map fun item ↦ set [item] false with
    | none => trivial
    | some r => exact List.suffix_refl _

section Step

variable (halternatives : ∀ scan, Within scan.rest (readAlternatives? fuel scan))
  (hsequence : ∀ parts scan, Within scan.rest (readSequence? fuel parts scan))
  (hpart : ∀ c scan, Within scan.rest (readPart? fuel c scan)) (scan : Scan)

include halternatives hsequence in
theorem within_readAlternatives?_succ :
    Within scan.rest (readAlternatives? (fuel + 1) scan) := by
  rw [readAlternatives?]
  refine (hsequence [] scan).bind fun first scan ↦ ?_
  dsimp only
  split
  · next rest hrest =>
    rw [hrest]
    refine Within.mono ?_ (List.suffix_cons '|' rest)
    exact (halternatives _).bind fun second scan ↦ List.suffix_refl _
  · exact List.suffix_refl _

include hsequence hpart in
theorem within_readSequence?_succ (parts : List Regex) :
    Within scan.rest (readSequence? (fuel + 1) parts scan) := by
  rw [readSequence?]
  split
  · exact List.suffix_refl _
  · exact List.suffix_refl _
  · exact List.suffix_refl _
  · next c rest _ _ hrest =>
    cases hcounts : readCounts? scan.rest with
    | error fault =>
      cases fault with
      | malformed => trivial
      | hugeCount count => exact hugeCount_of_readCounts? hcounts
    | ok counts =>
      cases counts with
      | some counts =>
        obtain ⟨⟨least, most⟩, behind⟩ := counts
        have hbehind := suffix_of_readCounts? hcounts
        dsimp only [bind, Except.bind]
        -- the repetition may be followed by one more question mark
        split
        · trivial
        · split
          · refine (hsequence _ _).mono (List.IsSuffix.trans ?_ hbehind)
            dsimp only
            split
            · exact List.drop_suffix 1 behind
            · exact List.suffix_refl _
          · trivial
      | none =>
        rw [hrest]
        refine Within.mono ?_ (List.suffix_cons c rest)
        exact (hpart c _).bind fun part scan ↦ hsequence _ scan

include halternatives in
theorem within_readPart?_succ (c : Char) : Within scan.rest (readPart? (fuel + 1) c scan) := by
  rw [readPart?.eq_def]
  dsimp only
  split
  · exact List.suffix_refl _
  · exact List.suffix_refl _
  · exact List.suffix_refl _
  · split
    · trivial
    · next e rest hrest =>
      rw [hrest]
      exact (within_readEscape? e _).mono (List.suffix_cons e rest)
  -- a set, whose items begin behind the caret if there is one
  · generalize hinside : (if (scan.rest.head? == some '^') = true then scan.rest.drop 1
      else scan.rest) = inside
    have hsuffix : inside <:+ scan.rest := by
      rw [← hinside]
      split
      · exact List.drop_suffix 1 scan.rest
      · exact List.suffix_refl _
    cases hset : readSet? (inside.length + 1) [] inside with
    | none => trivial
    | some items => exact (suffix_of_readSet? hset).trans hsuffix
  -- a group, which does not capture if a question mark and a colon open it
  · split
    · next rest hrest =>
      rw [hrest]
      refine Within.mono ?_ ((List.suffix_cons ':' rest).trans (List.suffix_cons '?' _))
      refine (halternatives _).bind fun body scan ↦ ?_
      dsimp only
      split
      · next behind hbehind => exact hbehind ▸ List.suffix_cons ')' behind
      · trivial
    · trivial
    · refine (halternatives _).bind fun body scan ↦ ?_
      dsimp only
      split
      · next behind hbehind => exact hbehind ▸ List.suffix_cons ')' behind
      · trivial
  · exact List.suffix_refl _

end Step

/-- Each of the readers stays within the text, since it hands on an end of it to the others. -/
theorem within_readers (fuel : Nat) :
    (∀ scan, Within scan.rest (readAlternatives? fuel scan)) ∧
    (∀ parts scan, Within scan.rest (readSequence? fuel parts scan)) ∧
    ∀ c scan, Within scan.rest (readPart? fuel c scan) := by
  -- a reader with some fuel calls the others with less
  induction fuel with
  | zero => exact ⟨fun _ ↦ trivial, fun _ _ ↦ trivial, fun _ _ ↦ trivial⟩
  | succ fuel ih =>
    obtain ⟨halternatives, hsequence, hpart⟩ := ih
    exact ⟨within_readAlternatives?_succ halternatives hsequence,
      fun parts scan ↦ within_readSequence?_succ hsequence hpart scan parts,
      fun c scan ↦ within_readPart?_succ halternatives scan c⟩

theorem hugeCount_mem_statedCounts (h : ofText? pattern = .error (.hugeCount count)) :
    countLimit ≤ count ∧ count ∈ statedCounts pattern := by
  have hwithin := (within_readers (3 * pattern.length + 3)).1 ⟨pattern, 0, []⟩
  rw [ofText?] at h
  rcases hread : readAlternatives? (3 * pattern.length + 3) ⟨pattern, 0, []⟩ with fault | ⟨r, scan⟩
  · rw [hread] at h hwithin
    cases h
    exact hwithin
  · rw [hread] at h
    dsimp only [bind, Except.bind] at h
    split at h
    · cases h
    · cases h

/-! ## Behind plain characters -/

/-- The characters with a meaning of their own outside of brackets. -/
def metaCharacters : List Char :=
  ['.', '^', '$', '*', '+', '?', '\x7b', '[', '\\', '|', '(', ')']

theorem readCounts?_of_not_mem {c : Char} (hc : c ∉ metaCharacters) (s : Text) :
    readCounts? (c :: s) = .ok none := by
  rw [readCounts?.eq_def]
  split <;> simp_all [metaCharacters]

theorem readPart?_of_not_mem {c : Char} (hc : c ∉ metaCharacters) (scan : Scan) :
    readPart? (fuel + 1) c scan = .ok (set [.char c] false, scan) := by
  rw [readPart?.eq_def]
  dsimp only
  split <;> simp_all [metaCharacters]

theorem readCounts?_braces (hdigits : ∀ c ∈ digits, isCountDigit c = true)
    (hcount : countLimit ≤ Text.toNat digits) (hrest : rest ≠ ['\\']) :
    readCounts? ('\x7b' :: (digits ++ '\x7d' :: rest)) =
      .error (.hugeCount (Text.toNat digits)) := by
  have hbraces : readBraces? (digits ++ '\x7d' :: rest) = some (digits, none, rest) := by
    refine readBraces?_eq_some_iff.mpr ⟨?_, .inl ⟨rfl, ?_⟩⟩
    · rw [List.takeWhile_append_of_pos hdigits]
      exact (List.append_nil digits).symm
    · rw [List.dropWhile_append_of_pos hdigits]
      rfl
  have hopen : ∀ t, digits ++ '\x7d' :: rest ≠ '\x7d' :: t := by
    intro t heq
    cases digits with
    | nil => exact absurd hcount (by decide)
    | cons d digits =>
      obtain ⟨rfl, -⟩ := List.cons.inj heq
      exact absurd (hdigits _ List.mem_cons_self) (by decide)
  rw [readCounts?.eq_5 _ hopen, hbraces]
  dsimp only
  rw [if_neg (by simpa using hrest), repetition, if_pos hcount]
  rfl

theorem readSequence?_cons_of_not_mem {c : Char} (hc : c ∉ metaCharacters) (t : Text)
    (parts : List Regex) (opened : Nat) (closed : List Nat) :
    readSequence? (fuel + 2) parts ⟨c :: t, opened, closed⟩ =
      readSequence? (fuel + 1) (set [.char c] false :: parts) ⟨t, opened, closed⟩ := by
  have hends : c ≠ '|' ∧ c ≠ ')' := by
    constructor <;> (rintro rfl; exact hc (by decide))
  rw [readSequence?.eq_def]
  dsimp only
  split
  · next heq => cases heq
  · next heq => exact absurd (List.cons.inj heq).1 hends.1
  · next heq => exact absurd (List.cons.inj heq).1 hends.2
  · next heq =>
    obtain ⟨rfl, rfl⟩ := List.cons.inj heq
    rw [readCounts?_of_not_mem hc]
    dsimp only [bind, Except.bind]
    rw [readPart?_of_not_mem hc]

/-- Behind plain characters, a count that is too large is noticed. -/
theorem readSequence?_braces (hplain : ∀ c ∈ plain, c ∉ metaCharacters)
    (hdigits : ∀ c ∈ digits, isCountDigit c = true) (hcount : countLimit ≤ Text.toNat digits)
    (hrest : rest ≠ ['\\']) (parts : List Regex) (opened : Nat) (closed : List Nat) :
    readSequence? (fuel + plain.length + 1) parts
      ⟨plain ++ '\x7b' :: (digits ++ '\x7d' :: rest), opened, closed⟩ =
        .error (.hugeCount (Text.toNat digits)) := by
  induction plain generalizing parts with
  | nil =>
    rw [readSequence?.eq_def]
    simp only [List.nil_append]
    rw [readCounts?_braces hdigits hcount hrest]
    rfl
  | cons c plain ih =>
    obtain ⟨hc, hplain⟩ := List.forall_mem_cons.mp hplain
    rw [List.length_cons, List.cons_append, ← Nat.add_assoc, readSequence?_cons_of_not_mem hc]
    exact ih hplain _

theorem ofText?_braces (hplain : ∀ c ∈ plain, c ∉ metaCharacters)
    (hdigits : ∀ c ∈ digits, isCountDigit c = true) (hcount : countLimit ≤ Text.toNat digits)
    (hrest : rest ≠ ['\\']) : ofText? (plain ++ '\x7b' :: (digits ++ '\x7d' :: rest)) =
      .error (.hugeCount (Text.toNat digits)) := by
  generalize hpattern : plain ++ '\x7b' :: (digits ++ '\x7d' :: rest) = pattern
  have hfuel : 3 * pattern.length + 2 =
      3 * pattern.length + 1 - plain.length + plain.length + 1 := by
    rw [← hpattern, List.length_append]
    omega
  rw [ofText?, readAlternatives?, hfuel, ← hpattern,
    readSequence?_braces hplain hdigits hcount hrest]
  rfl

end Regex

end Agenda
