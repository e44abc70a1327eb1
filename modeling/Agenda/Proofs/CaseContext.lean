import Agenda.Proofs.SmallForms

/-!
# Small forms in a context

The small form of a text is put together from the small forms of its characters, and of these only
the capital sigma looks around: it has its final form where a word ends. That is where a letter
stands before it and none behind it, points and marks being passed over on both sides.

A part of a text looks at the rest only through the letters that it meets there, so two contexts
give the part the same small form if they offer a letter on the same sides (`lowerBetween_congr`).
They do so exactly if no capital sigma of the part is the end of a word in one of them alone
(`lowerBetween_eq_iff`). A digit meets nothing, and a text can be cut in front of it
(`lower_append_cons_of_isDigit`).
-/

namespace Agenda

variable {before before' after after' s t : Text} {c : Char}

/-! ## Letters met -/

/-- A word ends between two texts: there is a letter before the place, the text before it being
given in reverse, and none behind it. -/
def endsWord (before after : Text) : Bool := meetsCased before && !meetsCased after

theorem meetsCased_append (s t : Text) : meetsCased (s ++ t) =
    if s.all (fun c ↦ inRanges caseIgnorableRanges c.toNat) then meetsCased t else meetsCased s := by
  induction s with
  | nil => rfl
  | cons c s ih =>
    rw [List.cons_append, meetsCased, meetsCased, ih, List.all_cons]
    cases inRanges caseIgnorableRanges c.toNat with
    | true => rfl
    | false => rfl

/-- Of what follows, only the letter met there counts. -/
theorem meetsCased_append_congr (s : Text) (h : meetsCased t = meetsCased after) :
    meetsCased (s ++ t) = meetsCased (s ++ after) := by
  rw [meetsCased_append, meetsCased_append, h]

theorem inRanges_of_isDigit {ranges : List (Nat × Nat)} (hranges : ranges.all (fun range ↦
      digitZeros.all fun z ↦ Nat.blt (z + 9) range.1 || Nat.blt range.2 z) = true)
    (hc : isDigit c = true) : inRanges ranges c.toNat = false := by
  rw [← Bool.not_eq_true]
  intro hmem
  obtain ⟨range, hrange, hlo, hhi⟩ := exists_of_inRanges hmem
  obtain ⟨z, hz, i, hi, hcode⟩ := exists_zero_of_isDigit hc
  have hpass := List.all_eq_true.mp (List.all_eq_true.mp hranges range hrange) z hz
  rw [Bool.or_eq_true, Nat.blt_eq, Nat.blt_eq] at hpass
  omega

theorem meetsCased_of_isDigit (hc : isDigit c = true) (s : Text) : meetsCased (c :: s) = false := by
  rw [meetsCased, inRanges_of_isDigit (by decide +kernel) hc,
    inRanges_of_isDigit (by decide +kernel) hc]
  rfl

/-! ## Parts of a text -/

/-- The small form of a character between two texts, the one before it being given in reverse. -/
def smallBetween (before after : Text) (c : Char) : Text :=
  if c.toNat == 0x130 then ['i', '\u0307']
  else if c.toNat == 0x3A3 then if endsWord before after then ['\u03C2'] else ['\u03C3']
  else [simpleSmall c]

theorem smallBetween_of_ne (hdot : c.toNat ≠ 0x130) (hsigma : c.toNat ≠ 0x3A3) :
    smallBetween before after c = [simpleSmall c] := by
  rw [smallBetween, beq_false_of_ne hdot, beq_false_of_ne hsigma]
  rfl

/-- The small form of a part of a text between what stands before it, given in reverse, and what
stands behind it. -/
def lowerBetween (before after : Text) : Text → Text
  | [] => []
  | c :: s => smallBetween before (s ++ after) c ++ lowerBetween (c :: before) after s

theorem lowerFrom_append (before s t : Text) :
    lowerFrom before (s ++ t) = lowerBetween before t s ++ lowerFrom (s.reverse ++ before) t := by
  induction s generalizing before with
  | nil => rfl
  | cons c s ih =>
    have hcons : lowerFrom before (c :: (s ++ t)) =
        smallBetween before (s ++ t) c ++ lowerFrom (c :: before) (s ++ t) := rfl
    rw [List.cons_append, hcons, ih, lowerBetween, List.append_assoc, List.reverse_cons,
      List.append_assoc, List.singleton_append]

theorem lowerBetween_nil (before s : Text) : lowerBetween before [] s = lowerFrom before s := by
  have happend := lowerFrom_append before s []
  rw [List.append_nil] at happend
  rw [happend]
  exact (List.append_nil _).symm

theorem lower_append (s t : Text) :
    Text.lower (s ++ t) = lowerBetween [] t s ++ lowerBetween s.reverse [] t := by
  rw [Text.lower, lowerFrom_append, List.append_nil, lowerBetween_nil]

theorem lower_eq_lowerBetween (s : Text) : Text.lower s = lowerBetween [] [] s :=
  (lowerBetween_nil [] s).symm

theorem lowerBetween_append (before after s t : Text) : lowerBetween before after (s ++ t) =
    lowerBetween before (t ++ after) s ++ lowerBetween (s.reverse ++ before) after t := by
  induction s generalizing before with
  | nil => rfl
  | cons c s ih =>
    rw [List.cons_append, lowerBetween, lowerBetween, ih, List.append_assoc, List.append_assoc,
      List.reverse_cons, List.append_assoc, List.singleton_append]

/-! ## Two contexts -/

theorem length_smallBetween (c : Char) :
    (smallBetween before after c).length = (smallBetween before' after' c).length := by
  rw [smallBetween, smallBetween]
  split
  · rfl
  split
  · split <;> split <;> rfl
  · rfl

theorem length_lowerBetween (s : Text) :
    (lowerBetween before after s).length = (lowerBetween before' after' s).length := by
  induction s generalizing before before' with
  | nil => rfl
  | cons c s ih =>
    rw [lowerBetween, lowerBetween, List.length_append, List.length_append, length_smallBetween,
      ih]

theorem length_lower (s : Text) :
    (Text.lower s).length = (lowerBetween before after s).length := by
  rw [lower_eq_lowerBetween]
  exact length_lowerBetween s

/-- Of all characters only the capital sigma looks around. -/
theorem smallBetween_eq_iff : smallBetween before after c = smallBetween before' after' c ↔
    (c = '\u03A3' → endsWord before after = endsWord before' after') := by
  have hsigma : c = '\u03A3' ↔ c.toNat = 0x3A3 := by
    constructor
    · rintro rfl
      rfl
    · intro hcode
      rw [← Char.ofNat_toNat c, hcode]
  rw [smallBetween, smallBetween, hsigma]
  split
  · next hdot => simp [beq_iff_eq.mp hdot]
  split
  · next hcode =>
    cases endsWord before after <;> cases endsWord before' after' <;> simp [beq_iff_eq.mp hcode]
  · next hcode => simp [beq_eq_false_iff_ne.mp (Bool.eq_false_iff.mpr hcode)]

/-- **A part in two contexts.** The small forms of a part agree exactly if the words end at the same
capital sigmas. -/
theorem lowerBetween_eq_iff (s : Text) :
    lowerBetween before after s = lowerBetween before' after' s ↔
      ∀ p q, s = p ++ '\u03A3' :: q → endsWord (p.reverse ++ before) (q ++ after) =
        endsWord (p.reverse ++ before') (q ++ after') := by
  induction s generalizing before before' with
  | nil => simp [lowerBetween]
  | cons c s ih =>
    -- a small form has the same length in every context, so two agree character by character
    have hsplit : lowerBetween before after (c :: s) = lowerBetween before' after' (c :: s) ↔
        smallBetween before (s ++ after) c = smallBetween before' (s ++ after') c ∧
          lowerBetween (c :: before) after s = lowerBetween (c :: before') after' s := by
      rw [lowerBetween, lowerBetween]
      refine ⟨fun h ↦ List.append_inj h (length_smallBetween c), ?_⟩
      rintro ⟨hc, hs⟩
      rw [hc, hs]
    rw [hsplit, smallBetween_eq_iff, ih]
    constructor
    · rintro ⟨hc, hs⟩ (_ | ⟨d, p⟩) q heq
      · obtain ⟨rfl, rfl⟩ := List.cons.inj heq
        exact hc rfl
      · obtain ⟨rfl, rfl⟩ := List.cons.inj heq
        simpa using hs p q rfl
    · refine fun h ↦ ⟨?_, fun p q heq ↦ ?_⟩
      · rintro rfl
        exact h [] s rfl
      · simpa using h (c :: p) q (congrArg (c :: ·) heq)

theorem lowerBetween_congr (hbefore : meetsCased before = meetsCased before')
    (hafter : meetsCased after = meetsCased after') (s : Text) :
    lowerBetween before after s = lowerBetween before' after' s := by
  refine (lowerBetween_eq_iff s).mpr fun p q _ ↦ ?_
  rw [endsWord, endsWord, meetsCased_append_congr p.reverse hbefore,
    meetsCased_append_congr q hafter]

theorem lower_append_cons_of_isDigit (hc : isDigit c = true) (s t : Text) :
    Text.lower (s ++ c :: t) = Text.lower s ++ c :: Text.lower t := by
  have hnone : ∀ u, meetsCased (c :: u) = meetsCased [] := fun u ↦ meetsCased_of_isDigit hc u
  obtain ⟨hself, hdot, hsigma⟩ := isSmall_of_isDigit hc
  rw [lower_append, lowerBetween_congr rfl (hnone t), lowerBetween, smallBetween_of_ne hdot hsigma,
    hself, lowerBetween_congr (hnone _) rfl, ← lower_eq_lowerBetween, ← lower_eq_lowerBetween,
    List.singleton_append]

end Agenda
