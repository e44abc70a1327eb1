/-!
# Text

A text is a list of characters. Everything the library reads or writes is a text, and a list is the
form on which recursion and induction go through unaided; strings of the runtime appear only at the
outer edge. A string literal denotes its characters, so `"due".toList` is a closed list of three.

The operations here cut a text at separators or at the first occurrence of a pattern, and trim it.
Each loses nothing: `join_splitOn` and `eq_of_cut?` put the pieces together again.
-/

namespace Agenda

/-- A sequence of characters. -/
abbrev Text := List Char

namespace Text

/-! ## Splitting at characters -/

/-- The pieces between the characters that satisfy `p`; `n` such characters give `n + 1` pieces. -/
def splitWhere (p : Char → Bool) : Text → List Text
  | [] => [[]]
  | c :: s =>
    match p c, splitWhere p s with
    | true, pieces => [] :: pieces
    | false, [] => [[c]]
    | false, piece :: pieces => (c :: piece) :: pieces

/-- The pieces between the occurrences of one character. -/
def splitOn (sep : Char) (s : Text) : List Text := splitWhere (· == sep) s

/-- The pieces with the separator between neighbours. -/
def join (sep : Text) : List Text → Text
  | [] => []
  | [piece] => piece
  | piece :: next :: pieces => piece ++ sep ++ join sep (next :: pieces)

theorem splitWhere_ne_nil (p : Char → Bool) (s : Text) : splitWhere p s ≠ [] := by
  cases s with
  | nil => simp [splitWhere]
  | cons c s => rw [splitWhere]; split <;> simp

theorem join_cons_cons (sep : Text) (c : Char) (piece : Text) (pieces : List Text) :
    join sep ((c :: piece) :: pieces) = c :: join sep (piece :: pieces) := by
  cases pieces <;> simp [join]

theorem join_nil_cons (sep : Text) {pieces : List Text} (h : pieces ≠ []) :
    join sep ([] :: pieces) = sep ++ join sep pieces := by
  cases pieces with
  | nil => exact absurd rfl h
  | cons piece pieces => simp [join]

theorem join_splitOn (sep : Char) (s : Text) : join [sep] (splitOn sep s) = s := by
  induction s with
  | nil => rfl
  | cons c s ih =>
    rw [splitOn] at ih ⊢
    rw [splitWhere]
    split
    · next hc => rw [join_nil_cons _ (splitWhere_ne_nil _ s), ih]; simp_all
    · next h => exact absurd h (splitWhere_ne_nil _ s)
    · next h => rw [join_cons_cons, ← h, ih]

/-! ## Cutting at the first occurrence -/

/-- The text before and after the first occurrence of `pat`. -/
def cut? (pat : Text) : Text → Option (Text × Text)
  | [] => if pat.isEmpty then some ([], []) else none
  | c :: s =>
    if pat.isPrefixOf (c :: s) then some ([], (c :: s).drop pat.length)
    else (cut? pat s).map fun (before, after) ↦ (c :: before, after)

/-- Does `pat` occur in `s`? -/
def contains (s pat : Text) : Bool := (cut? pat s).isSome

theorem eq_of_cut? {pat s before after : Text} (h : cut? pat s = some (before, after)) :
    s = before ++ pat ++ after := by
  induction s generalizing before with
  | nil =>
    simp only [cut?] at h
    split at h <;> simp_all
  | cons c s ih =>
    rw [cut?] at h
    split at h
    · next hp =>
      obtain ⟨rfl, rfl⟩ := Prod.mk.injEq .. ▸ Option.some.injEq .. ▸ h
      obtain ⟨t, ht⟩ := List.isPrefixOf_iff_prefix.1 hp
      simp [← ht]
    · obtain ⟨⟨b, a⟩, hb, hba⟩ := Option.map_eq_some_iff.1 h
      obtain ⟨rfl, rfl⟩ := Prod.mk.injEq .. ▸ hba
      simp [ih hb]

theorem cut?_singleton_eq_some_iff {c : Char} {s before after : Text} :
    cut? [c] s = some (before, after) ↔ s = before ++ c :: after ∧ c ∉ before := by
  have hcons : ∀ (d : Char) (s : Text), cut? [c] (d :: s) =
      if c = d then some ([], s) else (cut? [c] s).map fun (b, a) ↦ (d :: b, a) := by
    intro d s
    by_cases h : c = d
    · simp [cut?, h]
    · simp [cut?, h]
  constructor
  · intro h
    refine ⟨by simpa using eq_of_cut? h, ?_⟩
    induction s generalizing before with
    | nil => cases h
    | cons d s ih =>
      rw [hcons] at h
      split at h
      · cases h
        simp
      · next hd =>
        obtain ⟨⟨b, a⟩, hb, hba⟩ := Option.map_eq_some_iff.mp h
        cases hba
        simp [hd, ih hb]
  · rintro ⟨rfl, hmem⟩
    induction before with
    | nil => rw [List.nil_append, hcons, if_pos rfl]
    | cons d before ih =>
      rw [List.mem_cons, not_or] at hmem
      rw [List.cons_append, hcons, if_neg hmem.1, ih hmem.2]
      rfl

theorem cut?_singleton_eq_none_iff {c : Char} {s : Text} : cut? [c] s = none ↔ c ∉ s := by
  constructor
  · intro h hmem
    obtain ⟨before, after, hs, hbefore⟩ := List.eq_append_cons_of_mem hmem
    rw [cut?_singleton_eq_some_iff.mpr ⟨hs, hbefore⟩] at h
    cases h
  · intro hmem
    cases hcut : cut? [c] s with
    | none => rfl
    | some parts =>
      obtain ⟨before, after⟩ := parts
      obtain ⟨rfl, -⟩ := cut?_singleton_eq_some_iff.mp hcut
      simp at hmem

/-! ## Trimming -/

/-- The text without the characters at its end that satisfy `p`. -/
def trimEnd (p : Char → Bool) (s : Text) : Text := (s.reverse.dropWhile p).reverse

/-- The text without the characters at either end that satisfy `p`. -/
def trim (p : Char → Bool) (s : Text) : Text := trimEnd p (s.dropWhile p)

/-- The text with a final line feed dropped: patterns that reach the end of a text also stop there.
-/
def chomp (s : Text) : Text :=
  match s.getLast? with
  | some '\n' => s.dropLast
  | _ => s

theorem chomp_of_not_mem {s : Text} (h : '\n' ∉ s) : chomp s = s := by
  rw [chomp]
  split
  · next hlast => exact absurd (List.mem_of_getLast? hlast) h
  · rfl

theorem mem_chomp_iff {c : Char} (hc : c ≠ '\n') {s : Text} : c ∈ chomp s ↔ c ∈ s := by
  rw [chomp]
  split
  · next hlast =>
    obtain ⟨body, rfl⟩ := List.getLast?_eq_some_iff.mp hlast
    simp [hc]
  · exact Iff.rfl

/-! ## Order -/

/-- The order of texts by code point, a proper beginning first. -/
def le : Text → Text → Bool
  | [], _ => true
  | _ :: _, [] => false
  | a :: s, b :: t => a.toNat < b.toNat || (a == b && le s t)

end Text

end Agenda
