import Agenda.Pattern.Basic
import Agenda.Proofs.CaseContext
import Agenda.Proofs.Words
import Mathlib.Data.List.Infix

/-!
# What wildcards stand for

A star at an end of a pattern stands for any text, so a pattern made of a text and a star should
match the text with anything in place of the star. Pattern and text are put into small letters
first, each by itself, and there the star is no letter while what it stands for may be one.

Only a capital sigma can tell the difference. At the end of a word it has a form of its own, and
what stands around the pattern in the text may turn an end of a word into the middle of one, or the
middle into an end. `KeepsWordEnds` says that this does not happen. It is what the match depends on,
at the end and at the start of a text exactly (`matches?_star`): no letter but the sigma needs any
care, nor does the sigma itself between spaces, digits or other characters without case.
-/

namespace Agenda

variable {a b c l s pat t : Text} {p : Char → Bool} {d : Char}

namespace Text

/-! ## Occurrences -/

theorem contains_iff_infix : contains s pat = true ↔ pat <:+: s := by
  rw [contains]
  induction s with
  | nil => cases pat <;> simp [cut?]
  | cons d s ih =>
    rw [cut?, List.infix_cons_iff, ← ih]
    by_cases hpre : pat.isPrefixOf (d :: s) = true
    · rw [if_pos hpre]
      exact iff_of_true rfl (.inl (List.isPrefixOf_iff_prefix.mp hpre))
    · rw [if_neg hpre, Option.isSome_map, or_iff_right]
      exact mt List.isPrefixOf_iff_prefix.mpr hpre

/-! ## Trimming -/

theorem trim_cons (hd : p d = true) (s : Text) : trim p (d :: s) = trim p s := by
  rw [trim, trim, List.dropWhile_cons_of_pos hd]

theorem trim_append_singleton (hd : p d = true) (s : Text) : trim p (s ++ [d]) = trim p s := by
  rw [trim, trim, List.dropWhile_append]
  split
  · next hempty =>
    rw [List.isEmpty_iff.mp hempty, List.dropWhile_cons_of_pos hd]
    rfl
  · exact List.rdropWhile_concat_pos p _ d hd

/-! ## Ends of words -/

/-- The capital sigmas of a text at which words end are the same whether the text stands between two
others or by itself. -/
def KeepsWordEnds (s before after : Text) : Prop := ∀ p q, s = p ++ '\u03A3' :: q →
  endsWord (p.reverse ++ before.reverse) (q ++ after) = endsWord p.reverse q

theorem keepsWordEnds_iff : KeepsWordEnds c a b ↔ lowerBetween a.reverse b c = lower c := by
  rw [lower_eq_lowerBetween, lowerBetween_eq_iff]
  simp only [KeepsWordEnds, List.append_nil]

instance : Decidable (KeepsWordEnds c a b) := decidable_of_iff' _ keepsWordEnds_iff

theorem keepsWordEnds_of_not_mem (h : '\u03A3' ∉ c) : KeepsWordEnds c a b := by
  rintro p q rfl
  exact absurd (List.mem_append_right p List.mem_cons_self) h

theorem keepsWordEnds_of_meetsCased (ha : meetsCased a.reverse = false)
    (hb : meetsCased b = false) : KeepsWordEnds c a b := by
  rw [keepsWordEnds_iff, lower_eq_lowerBetween]
  exact lowerBetween_congr ha hb c

/-! ## Stars in small forms -/

theorem lower_append_star (c : Text) : lower (c ++ ['*']) = lower c ++ ['*'] := by
  have hstar : meetsCased ['*'] = meetsCased [] := rfl
  rw [lower_append, lowerBetween_congr rfl hstar, ← lower_eq_lowerBetween]
  rfl

theorem lower_star_cons (c : Text) : lower ('*' :: c) = '*' :: lower c := by
  have hstar : meetsCased ['*'].reverse = meetsCased [] := rfl
  rw [← List.singleton_append, lower_append, lowerBetween_congr hstar rfl, ← lower_eq_lowerBetween]
  rfl

theorem star_not_mem_lower (h : '*' ∉ c) : '*' ∉ lower c :=
  fun hmem ↦ h (mem_of_mem_lower (.inl (by decide)) hmem)

end Text

namespace Wildcard

/-! ## Patterns in small letters -/

theorem trim_star (h : '*' ∉ l) : Text.trim (· == '*') l = l := by
  have hstar : ∀ d ∈ l, (d == '*') = false := by
    intro d hd
    refine beq_false_of_ne ?_
    rintro rfl
    exact h hd
  exact Text.trim_eq_self (fun d hd ↦ hstar d (List.mem_of_head? hd))
    fun d hd ↦ hstar d (List.mem_of_getLast? hd)

theorem head?_ne_star (h : '*' ∉ l) : (l.head? == some '*') = false := by
  refine beq_false_of_ne fun hhead ↦ h ?_
  exact List.mem_of_head? hhead

theorem getLast?_ne_star (h : '*' ∉ l) : (l.getLast? == some '*') = false := by
  refine beq_false_of_ne fun hlast ↦ h ?_
  exact List.mem_of_getLast? hlast

theorem matchesLower_star_star (h : '*' ∉ l) (s : Text) :
    matchesLower ('*' :: l ++ ['*']) s = Text.contains s l := by
  have hcore : Text.trim (· == '*') ('*' :: l ++ ['*']) = l := by
    rw [Text.trim_append_singleton rfl, Text.trim_cons rfl, trim_star h]
  have hlast : ('*' :: l ++ ['*']).getLast? = some '*' := List.getLast?_concat
  rw [matchesLower, hcore, hlast]
  rfl

theorem matchesLower_append_star (h : '*' ∉ l) (s : Text) :
    matchesLower (l ++ ['*']) s = l.isPrefixOf s := by
  cases l with
  | nil =>
    -- a star alone stands at both ends
    have hempty : Text.contains s [] = true := Text.contains_iff_infix.mpr List.nil_infix
    simp [matchesLower, Text.trim, Text.trimEnd, hempty]
  | cons d l =>
    have hcore : Text.trim (· == '*') (d :: l ++ ['*']) = d :: l := by
      rw [Text.trim_append_singleton rfl, trim_star h]
    have hhead : ((d :: l ++ ['*']).head? == some '*') = false := head?_ne_star (l := d :: l) h
    rw [matchesLower, hcore, hhead, List.getLast?_concat]
    rfl

theorem matchesLower_star_cons (h : '*' ∉ l) (s : Text) :
    matchesLower ('*' :: l) s = l.isSuffixOf s := by
  rcases List.eq_nil_or_concat l with rfl | ⟨l, d, rfl⟩
  · have hempty : Text.contains s [] = true := Text.contains_iff_infix.mpr List.nil_infix
    simp [matchesLower, Text.trim, Text.trimEnd, hempty]
  · have hcore : Text.trim (· == '*') ('*' :: l.concat d) = l.concat d := by
      rw [Text.trim_cons rfl, trim_star h]
    have hlast : (('*' :: l.concat d).getLast? == some '*') = false := by
      rw [List.concat_eq_append, ← List.cons_append, List.getLast?_concat]
      simpa using getLast?_ne_star h
    rw [matchesLower, hcore, hlast]
    rfl

/-! ## Stars in place of a text -/

theorem matches?_self_of_not_mem (hc : '*' ∉ c) : matches? c c = true :=
  matches?_self (beq_eq_false_iff_ne.mp (head?_ne_star (Text.star_not_mem_lower hc)))
    (beq_eq_false_iff_ne.mp (getLast?_ne_star (Text.star_not_mem_lower hc)))

theorem matches?_append_star_iff (hc : '*' ∉ c) (b : Text) :
    matches? (c ++ ['*']) (c ++ b) = true ↔ c.KeepsWordEnds [] b := by
  have hlength : (Text.lower c).length = (lowerBetween [] b c).length := length_lower c
  rw [matches?, Text.lower_append_star, matchesLower_append_star (Text.star_not_mem_lower hc),
    List.isPrefixOf_iff_prefix, lower_append, Text.keepsWordEnds_iff, List.reverse_nil]
  constructor
  · intro hpre
    have hle := List.prefix_of_prefix_length_le hpre (List.prefix_append _ _) hlength.le
    exact (hle.eq_of_length hlength).symm
  · intro heq
    rw [heq]
    exact List.prefix_append _ _

theorem matches?_star_cons_iff (hc : '*' ∉ c) (a : Text) :
    matches? ('*' :: c) (a ++ c) = true ↔ c.KeepsWordEnds a [] := by
  have hlength : (Text.lower c).length = (lowerBetween a.reverse [] c).length := length_lower c
  rw [matches?, Text.lower_star_cons, matchesLower_star_cons (Text.star_not_mem_lower hc),
    List.isSuffixOf_iff_suffix, lower_append, Text.keepsWordEnds_iff]
  constructor
  · intro hsuf
    have hle := List.suffix_of_suffix_length_le hsuf (List.suffix_append _ _) hlength.le
    exact (hle.eq_of_length hlength).symm
  · intro heq
    rw [heq]
    exact List.suffix_append _ _

theorem matches?_star_star (hc : '*' ∉ c) (h : c.KeepsWordEnds a b) :
    matches? ('*' :: c ++ ['*']) (a ++ c ++ b) = true := by
  have hpattern : Text.lower ('*' :: c ++ ['*']) = '*' :: Text.lower c ++ ['*'] := by
    rw [Text.lower_append_star, Text.lower_star_cons]
  rw [matches?, hpattern, matchesLower_star_star (Text.star_not_mem_lower hc),
    Text.contains_iff_infix, List.append_assoc, lower_append, lowerBetween_append,
    List.append_nil, Text.keepsWordEnds_iff.mp h, ← List.append_assoc]
  exact List.infix_append _ _ _

/-- **What wildcards stand for.** A text without stars matches itself. With a star at its end it
matches every text that begins with it, and with a star at its start every text that ends with it,
exactly if the words end in it as they do there. If they do, it also matches between two stars. The
ends of words do not matter for a text without capital sigmas, nor where no letter is met on either
side. -/
theorem matches?_star {c : Text} (hc : '*' ∉ c) (a b : Text) :
    PatternStyle.wildcard.matches? c c = .ok true ∧
    (PatternStyle.wildcard.matches? (c ++ ['*']) (c ++ b) = .ok true ↔ c.KeepsWordEnds [] b) ∧
    (PatternStyle.wildcard.matches? ('*' :: c) (a ++ c) = .ok true ↔ c.KeepsWordEnds a []) ∧
    (c.KeepsWordEnds a b →
      PatternStyle.wildcard.matches? ('*' :: c ++ ['*']) (a ++ c ++ b) = .ok true) ∧
    ('\u03A3' ∉ c ∨ meetsCased a.reverse = false ∧ meetsCased b = false →
      c.KeepsWordEnds a b) := by
  simp only [PatternStyle.matches?_wildcard, Except.ok.injEq]
  refine ⟨matches?_self_of_not_mem hc, matches?_append_star_iff hc b, matches?_star_cons_iff hc a,
    matches?_star_star hc, ?_⟩
  rintro (h | ⟨ha, hb⟩)
  · exact Text.keepsWordEnds_of_not_mem h
  · exact Text.keepsWordEnds_of_meetsCased ha hb

theorem matches?_star_street :
    let c : Text := "ΟΔΟΣ".toList
    let a : Text := "Η ".toList
    let b : Text := " ΜΟΥ".toList
    ('*' ∉ c ∧ c.KeepsWordEnds a b) ∧
      PatternStyle.wildcard.matches? (c ++ ['*']) (c ++ b) = .ok true ∧
      PatternStyle.wildcard.matches? ('*' :: c) (a ++ c) = .ok true ∧
      PatternStyle.wildcard.matches? ('*' :: c ++ ['*']) (a ++ c ++ b) = .ok true := by
  intro c a b
  have hc : '*' ∉ c := by decide
  have ha : meetsCased a.reverse = false := by decide
  have hb : meetsCased b = false := by decide
  obtain ⟨-, hend, hstart, hmiddle, hkeeps⟩ := matches?_star hc a b
  have hkeep : c.KeepsWordEnds a b := hkeeps (.inr ⟨ha, hb⟩)
  exact ⟨⟨hc, hkeep⟩, hend.mpr (Text.keepsWordEnds_of_meetsCased rfl hb),
    hstart.mpr (Text.keepsWordEnds_of_meetsCased ha rfl), hmiddle hkeep⟩

/-- A sigma at the end of the pattern is in the middle of a word of the text. -/
theorem not_forall_matches?_star : ¬ ∀ c a b : Text, '*' ∉ c →
    PatternStyle.wildcard.matches? c c = .ok true ∧
    PatternStyle.wildcard.matches? (c ++ ['*']) (c ++ b) = .ok true ∧
    PatternStyle.wildcard.matches? ('*' :: c) (a ++ c) = .ok true ∧
    PatternStyle.wildcard.matches? ('*' :: c ++ ['*']) (a ++ c ++ b) = .ok true := by
  intro h
  obtain ⟨-, hend, -⟩ := h "ΑΣ".toList [] "Α".toList (by decide)
  have hnone : PatternStyle.wildcard.matches? "ΑΣ*".toList "ΑΣΑ".toList = .ok false := by decide
  cases hnone.symm.trans hend

end Wildcard

end Agenda
