import Agenda.Proofs.Dictionaries
import Agenda.Proofs.Words
import Agenda.TagTable
import Mathlib.Data.List.Induction

/-!
# The values of a tag

A text may hold a tag several times. Its values in order of the words (`tagValues`) are the view of
a text under which both operations on tags are simple. What is read is the last value
(`get?_extractTags`), and rewriting the tag replaces the *first* value that is written like the old
one, and changes no value of another tag (`tagValues_replaceWord`). So a rewritten text reads as the
new value exactly if the old value stands there once (`getLast?_replace`).
-/

namespace Agenda

/-! ## Tags as words -/

/-- The word of a tag. -/
def tagWord (key value : Text) : Text := key ++ [':'] ++ value

/-- A key and a value that make up a tag. -/
structure IsTag (key value : Text) : Prop where
  key_ne_nil : key ≠ []
  /-- The word is cut at its first colon. -/
  not_mem_key : ':' ∉ key
  value_ne_nil : value ≠ []
  /-- Addresses are no tags. -/
  not_address : "//".toList.isPrefixOf value = false

/-- The value of a word for a key. -/
def valueFor? (key word : Text) : Option Text :=
  match tagOfWord? word with
  | some (k, value) => if k = key then some value else none
  | none => none

/-- The values of a tag in the order of the words. -/
def tagValues (key text : Text) : List Text := (Text.words text).filterMap (valueFor? key)

variable {key k value v v' word text : Text}

theorem tagOfWord?_eq_some_iff :
    tagOfWord? word = some (key, value) ↔ word = tagWord key value ∧ IsTag key value := by
  rw [tagOfWord?, tagWord]
  constructor
  · intro h
    split at h
    · next k v hcut =>
      split at h
      · cases h
      · next hparts =>
        cases h
        obtain ⟨hword, hmem⟩ := Text.cut?_singleton_eq_some_iff.mp hcut
        simp only [Bool.or_eq_true, not_or, Bool.not_eq_true, List.isEmpty_eq_false_iff] at hparts
        obtain ⟨⟨hkey, hvalue⟩, haddress⟩ := hparts
        exact ⟨by simpa using hword, hkey, hmem, hvalue, haddress⟩
    · cases h
  · rintro ⟨rfl, htag⟩
    have hcut : Text.cut? [':'] (key ++ [':'] ++ value) = some (key, value) :=
      Text.cut?_singleton_eq_some_iff.mpr ⟨by simp, htag.not_mem_key⟩
    have haddress := htag.not_address
    simp only [hcut, List.isEmpty_eq_false_iff.mpr htag.key_ne_nil,
      List.isEmpty_eq_false_iff.mpr htag.value_ne_nil, haddress, Bool.or_self, Bool.false_eq_true,
      if_false]

theorem valueFor?_eq_some_iff :
    valueFor? key word = some value ↔ word = tagWord key value ∧ IsTag key value := by
  rw [← tagOfWord?_eq_some_iff, valueFor?]
  constructor
  · intro h
    split at h
    · next k v hword =>
      split at h
      · next hk =>
        cases h
        rw [hword, hk]
      · cases h
    · cases h
  · intro h
    rw [h]
    exact if_pos rfl

theorem IsTag.valueFor? (h : IsTag k v) (key : Text) :
    valueFor? key (tagWord k v) = if k = key then some v else none := by
  rw [Agenda.valueFor?, tagOfWord?_eq_some_iff.mpr ⟨rfl, h⟩]

theorem mem_tagValues_iff :
    value ∈ tagValues key text ↔ tagWord key value ∈ Text.words text ∧ IsTag key value := by
  simp only [tagValues, List.mem_filterMap, valueFor?_eq_some_iff]
  constructor
  · rintro ⟨word, hmem, rfl, htag⟩
    exact ⟨hmem, htag⟩
  · rintro ⟨hmem, htag⟩
    exact ⟨_, hmem, rfl, htag⟩

/-! ## Reading a tag -/

/-- What is read for a tag is its last value. -/
theorem get?_extractTags (text key : Text) :
    (extractTags text).get? key = (tagValues key text).getLast? := by
  rw [extractTags, Dictionary.get?_ofBindings, List.filterMap_filterMap, tagValues]
  congr 2
  funext word
  rw [valueFor?]
  cases tagOfWord? word <;> rfl

/-! ## Rewriting a tag -/

theorem filterMap_replace {α β : Type} [BEq α] [LawfulBEq α] [BEq β] [LawfulBEq β]
    {f : α → Option β} {a b : α} {x y : β} (hx : ∀ c, f c = some x ↔ c = a) (hy : f b = some y)
    (l : List α) : (l.replace a b).filterMap f = (l.filterMap f).replace x y := by
  induction l with
  | nil => rfl
  | cons c l ih =>
    by_cases hc : c = a
    · subst hc
      have hfc : f c = some x := (hx c).mpr rfl
      rw [List.replace_cons_self, List.filterMap_cons_some hy, List.filterMap_cons_some hfc,
        List.replace_cons_self]
    · have hca : (a == c) = false := beq_false_of_ne (Ne.symm hc)
      rw [List.replace_cons, hca]
      cases hfc : f c with
      | none => simp only [List.filterMap_cons_none hfc, ih]
      | some z =>
        have hxz : (x == z) = false := beq_false_of_ne fun h ↦ hc ((hx c).mp (h ▸ hfc))
        simp only [List.filterMap_cons_some hfc, List.replace_cons, hxz, ih]

theorem filterMap_replace_congr {α β : Type} [BEq α] [LawfulBEq α] {f : α → Option β} {a b : α}
    (h : f a = f b) (l : List α) : (l.replace a b).filterMap f = l.filterMap f := by
  induction l with
  | nil => rfl
  | cons c l ih =>
    by_cases hc : c = a
    · subst hc
      rw [List.replace_cons_self, List.filterMap_cons, List.filterMap_cons, h]
    · rw [List.replace_cons, beq_false_of_ne (Ne.symm hc), List.filterMap_cons, List.filterMap_cons,
        ih]

/-- Rewriting a tag rewrites one of its values, and no value of another tag. -/
theorem tagValues_replaceWord (hold : Text.IsWord (tagWord k v)) (htag : IsTag k v)
    (hnew : Text.IsWord (tagWord k v')) (htag' : IsTag k v') (text key : Text) :
    tagValues key (Text.replaceWord text (tagWord k v) (tagWord k v')) =
      if key = k then (tagValues k text).replace v v' else tagValues key text := by
  rw [tagValues, Text.words_replaceWord hold hnew]
  by_cases hkey : key = k
  · subst hkey
    rw [if_pos rfl]
    refine filterMap_replace (fun word ↦ ?_) ((htag'.valueFor? key).trans (if_pos rfl)) _
    rw [valueFor?_eq_some_iff, and_iff_left htag]
  · have hne : ¬ k = key := fun h ↦ hkey h.symm
    rw [if_neg hkey]
    refine filterMap_replace_congr ?_ _
    rw [htag.valueFor?, htag'.valueFor?, if_neg hne, if_neg hne]

theorem getLast?_replace {α : Type} [BEq α] [LawfulBEq α] {l : List α} {a : α}
    (h : l.getLast? = some a) (b : α) :
    (l.replace a b).getLast? = some (if l.count a = 1 then b else a) := by
  obtain ⟨l, rfl⟩ := List.getLast?_eq_some_iff.mp h
  rw [List.replace_append, List.count_append, List.count_singleton_self]
  by_cases hmem : a ∈ l
  · have hpos : 0 < l.count a := List.count_pos_iff.mpr hmem
    rw [if_pos hmem, if_neg (by omega), List.getLast?_concat]
  · rw [if_neg hmem, List.count_eq_zero.mpr hmem, if_pos rfl, List.replace_cons_self,
      List.getLast?_concat]

theorem count_tagValues (htag : IsTag k v) (text : Text) :
    (tagValues k text).count v = (Text.words text).count (tagWord k v) := by
  rw [tagValues, List.count_filterMap, List.count]
  refine List.countP_congr fun word _ ↦ ?_
  rw [beq_iff_eq, beq_iff_eq, valueFor?_eq_some_iff, and_iff_left htag]

end Agenda
