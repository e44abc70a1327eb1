import Agenda.Proofs.Grammar

/-!
# What small forms leave as it is

The small form of a text takes each character to its small letter, and a digit or sign to itself.
All small letters come behind the signs and the ASCII digits, and none of them is a digit of another
script. So a digit or sign in the small form of a text is one that the text has
(`mem_of_mem_lower`), and a small form of digits and signs alone is the text itself
(`lower_eq_self`).
-/

namespace Agenda

variable {s before : Text} {c d : Char}

/-- The character is its own small form, wherever it stands. -/
def IsSmall (c : Char) : Prop := simpleSmall c = c ∧ c.toNat ≠ 0x130 ∧ c.toNat ≠ 0x3A3

/-- A digit, or a character that comes before the small letters. -/
def IsFigure (c : Char) : Prop := c.toNat < 0x61 ∨ isDigit c = true

instance : DecidablePred IsFigure := fun _ ↦ inferInstanceAs (Decidable (_ ∨ _))

/-! ## Single characters -/

theorem exists_zero_of_isDigit (h : isDigit c = true) :
    ∃ z ∈ digitZeros, ∃ i < 10, c.toNat = z + i := by
  obtain ⟨n, hn⟩ := Option.isSome_iff_exists.mp h
  obtain ⟨z, hz, -⟩ := Option.map_eq_some_iff.mp hn
  have hrange := List.find?_some hz
  rw [Bool.and_eq_true, decide_eq_true_iff, decide_eq_true_iff] at hrange
  exact ⟨z, List.mem_of_find?_eq_some hz, c.toNat - z, by omega, by omega⟩

theorem not_isBlank_of_isDigit (h : isDigit c = true) : isBlank c = false := by
  have hzeros : ∀ z ∈ digitZeros, ∀ i < 10, isBlank (Char.ofNat (z + i)) = false := by
    decide +kernel
  obtain ⟨z, hz, i, hi, hc⟩ := exists_zero_of_isDigit h
  have hblank := hzeros z hz i hi
  rwa [← hc, Char.ofNat_toNat] at hblank

theorem smallCode_of_outside {runs : List (Nat × Nat × Nat × Nat)} {n : Nat}
    (h : ∀ run ∈ runs, n < run.1 ∨ run.2.1 < n) : smallCode runs n = n := by
  induction runs with
  | nil => rfl
  | cons run runs ih =>
    obtain ⟨lo, hi, step, small⟩ := run
    rw [smallCode]
    rcases h _ List.mem_cons_self with hlo | hhi
    · exact if_pos hlo
    · have hrun : ¬ n ≤ hi := Nat.not_le.mpr hhi
      rw [ih fun run hrun ↦ h run (List.mem_cons_of_mem _ hrun)]
      simp [hrun]

theorem exists_run_of_smallCode (runs : List (Nat × Nat × Nat × Nat)) (n : Nat) :
    smallCode runs n = n ∨ ∃ run ∈ runs, run.2.2.2 ≤ smallCode runs n ∧
      smallCode runs n ≤ run.2.2.2 + (run.2.1 - run.1) := by
  induction runs with
  | nil => exact .inl rfl
  | cons run runs ih =>
    obtain ⟨lo, hi, step, small⟩ := run
    rw [smallCode]
    split
    · exact .inl rfl
    split
    · next hrun =>
      rw [Bool.and_eq_true, decide_eq_true_iff] at hrun
      exact .inr ⟨_, List.mem_cons_self, Nat.le_add_right _ _,
        Nat.add_le_add_left (Nat.sub_le_sub_right hrun.1 lo) small⟩
    · obtain hself | ⟨run, hrun, hrange⟩ := ih
      · exact .inl hself
      · exact .inr ⟨run, List.mem_cons_of_mem _ hrun, hrange⟩

theorem isSmall_of_isDigit (h : isDigit c = true) : IsSmall c := by
  have hruns : smallRuns.all (fun run ↦
      digitZeros.all fun z ↦ Nat.blt (z + 9) run.1 || Nat.blt run.2.1 z) = true := by
    decide +kernel
  have hzeros : ∀ z ∈ digitZeros, z = 0x30 ∨ 0x3A3 < z := by decide
  obtain ⟨z, hz, i, hi, hc⟩ := exists_zero_of_isDigit h
  have hcode : smallCode smallRuns c.toNat = c.toNat := by
    refine smallCode_of_outside fun run hrun ↦ ?_
    have houtside := List.all_eq_true.mp (List.all_eq_true.mp hruns run hrun) z hz
    rw [Bool.or_eq_true, Nat.blt_eq, Nat.blt_eq] at houtside
    omega
  have hne : c.toNat ≠ 0x130 ∧ c.toNat ≠ 0x3A3 := by
    have := hzeros z hz
    omega
  refine ⟨?_, hne⟩
  rw [simpleSmall, if_neg (by simpa using hne.1), hcode, Char.ofNat_toNat]

theorem not_isFigure_of_mem_smallRuns {run : Nat × Nat × Nat × Nat} {n : Nat}
    (hrun : run ∈ smallRuns) (hlo : run.2.2.2 ≤ n) (hhi : n ≤ run.2.2.2 + (run.2.1 - run.1)) :
    ¬ IsFigure (Char.ofNat n) := by
  -- one check of the ends of all runs; all else is arithmetic
  have hruns : smallRuns.all (fun run ↦ Nat.ble 0x61 run.2.2.2 &&
      (Nat.blt (run.2.2.2 + (run.2.1 - run.1)) 0xD800 ||
        Nat.blt 0xDFFF run.2.2.2 && Nat.blt (run.2.2.2 + (run.2.1 - run.1)) 0x110000) &&
      digitZeros.all fun z ↦
        Nat.blt (run.2.2.2 + (run.2.1 - run.1)) z || Nat.blt (z + 9) run.2.2.2) = true := by
    decide +kernel
  have hcheck := List.all_eq_true.mp hruns run hrun
  simp only [Bool.and_eq_true, Bool.or_eq_true, Nat.ble_eq, Nat.blt_eq, List.all_eq_true] at hcheck
  obtain ⟨⟨hletter, hrange⟩, hdigits⟩ := hcheck
  have hvalid : n.isValidChar := by
    rw [Nat.isValidChar]
    omega
  have hcode : (Char.ofNat n).toNat = n := by
    rw [Char.ofNat, dif_pos hvalid]
    rfl
  rintro (h | h)
  · omega
  · obtain ⟨z, hz, i, hi, heq⟩ := exists_zero_of_isDigit h
    have := hdigits z hz
    omega

theorem simpleSmall_of_isFigure (h : IsFigure (simpleSmall c)) : simpleSmall c = c := by
  have hletter : ¬ IsFigure 'i' := by decide
  rw [simpleSmall] at h ⊢
  split at h
  · exact absurd h hletter
  · next hdot =>
    rw [if_neg hdot]
    obtain hself | ⟨run, hrun, hlo, hhi⟩ := exists_run_of_smallCode smallRuns c.toNat
    · rw [hself, Char.ofNat_toNat]
    · exact absurd h (not_isFigure_of_mem_smallRuns hrun hlo hhi)

/-! ## Texts -/

/-- What the next character adds to a small form: itself if it is its own small form, and else
letters that are no figures. -/
theorem exists_lowerFrom_cons (before s : Text) (c : Char) : ∃ small,
    lowerFrom before (c :: s) = small ++ lowerFrom (c :: before) s ∧
      (small = [c] ∧ IsSmall c ∨ small ≠ [] ∧ ∀ d ∈ small, ¬ IsFigure d) := by
  have hdotted : ∀ d ∈ ['i', '\u0307'], ¬ IsFigure d :=
    List.forall_mem_cons.mpr ⟨by decide, List.forall_mem_singleton.mpr (by decide)⟩
  have hfinal : ∀ d ∈ ['\u03C2'], ¬ IsFigure d := List.forall_mem_singleton.mpr (by decide)
  have hinner : ∀ d ∈ ['\u03C3'], ¬ IsFigure d := List.forall_mem_singleton.mpr (by decide)
  refine ⟨_, rfl, ?_⟩
  split
  · exact .inr ⟨List.cons_ne_nil _ _, hdotted⟩
  split
  · right
    split
    · exact ⟨List.cons_ne_nil _ _, hfinal⟩
    · exact ⟨List.cons_ne_nil _ _, hinner⟩
  · next hdot hsigma =>
    rw [beq_iff_eq] at hdot hsigma
    by_cases hsmall : simpleSmall c = c
    · exact .inl ⟨by rw [hsmall], hsmall, hdot, hsigma⟩
    · refine .inr ⟨by simp, List.forall_mem_singleton.mpr fun hfigure ↦ hsmall ?_⟩
      exact simpleSmall_of_isFigure hfigure

theorem lowerFrom_eq_self (h : ∀ d ∈ lowerFrom before s, IsFigure d) : lowerFrom before s = s := by
  induction s generalizing before with
  | nil => rfl
  | cons c s ih =>
    obtain ⟨small, heq, hsmall⟩ := exists_lowerFrom_cons before s c
    rw [heq] at h ⊢
    obtain ⟨hfigures, hrest⟩ := List.forall_mem_append.mp h
    rcases hsmall with ⟨rfl, -⟩ | ⟨hne, hletters⟩
    · rw [ih hrest, List.singleton_append]
    · obtain ⟨d, hd⟩ := List.exists_mem_of_ne_nil small hne
      exact absurd (hfigures d hd) (hletters d hd)

theorem lower_eq_self (h : ∀ d ∈ Text.lower s, IsFigure d) : Text.lower s = s :=
  lowerFrom_eq_self h

theorem mem_of_mem_lowerFrom (hd : IsFigure d) (h : d ∈ lowerFrom before s) : d ∈ s := by
  induction s generalizing before with
  | nil => cases h
  | cons c s ih =>
    obtain ⟨small, heq, hsmall⟩ := exists_lowerFrom_cons before s c
    rw [heq, List.mem_append] at h
    rcases h with h | h
    · rcases hsmall with ⟨rfl, -⟩ | ⟨-, hletters⟩
      · exact List.mem_singleton.mp h ▸ List.mem_cons_self
      · exact absurd hd (hletters d h)
    · exact List.mem_cons_of_mem c (ih h)

theorem mem_of_mem_lower (hd : IsFigure d) (h : d ∈ Text.lower s) : d ∈ s :=
  mem_of_mem_lowerFrom hd h

theorem lowerFrom_eq_map (before : Text) (h : ∀ c ∈ s, c.toNat ≠ 0x130 ∧ c.toNat ≠ 0x3A3) :
    lowerFrom before s = s.map simpleSmall := by
  induction s generalizing before with
  | nil => rfl
  | cons c s ih =>
    obtain ⟨⟨hdot, hsigma⟩, hs⟩ := List.forall_mem_cons.mp h
    rw [lowerFrom, beq_false_of_ne hdot, beq_false_of_ne hsigma, ih _ hs]
    rfl

theorem lower_of_isDigit (h : ∀ c ∈ s, isDigit c = true) : Text.lower s = s := by
  have hmap : s.map simpleSmall = s.map id :=
    List.map_congr_left fun c hc ↦ (isSmall_of_isDigit (h c hc)).1
  rw [Text.lower, lowerFrom_eq_map [] fun c hc ↦ (isSmall_of_isDigit (h c hc)).2, hmap, List.map_id]

theorem mem_lowerFrom_of_isDigit (before : Text) (h : isDigit c = true) (hc : c ∈ s) :
    c ∈ lowerFrom before s := by
  induction s generalizing before with
  | nil => cases hc
  | cons d s ih =>
    rw [lowerFrom, List.mem_append]
    rcases List.mem_cons.mp hc with rfl | hc
    · obtain ⟨hsmall, hdot, hsigma⟩ := isSmall_of_isDigit h
      left
      simp [hsmall, hdot, hsigma]
    · exact .inr (ih _ hc)

theorem mem_lower_of_isDigit (h : isDigit c = true) (hc : c ∈ s) : c ∈ Text.lower s :=
  mem_lowerFrom_of_isDigit [] h hc

/-! ## Letters -/

theorem small_of_isLatin (h : isLatin c = true) : isLatin (simpleSmall c) = true ∧
    simpleSmall (simpleSmall c) = simpleSmall c ∧ c.toNat ≠ 0x130 ∧ c.toNat ≠ 0x3A3 := by
  have hcodes : ∀ n < 123, isLatin (Char.ofNat n) = true →
      isLatin (simpleSmall (Char.ofNat n)) = true ∧
        simpleSmall (simpleSmall (Char.ofNat n)) = simpleSmall (Char.ofNat n) := by
    decide
  obtain ⟨-, hhi⟩ := Expression.toNat_of_isLatin h
  have hcode := hcodes c.toNat hhi
  rw [Char.ofNat_toNat] at hcode
  obtain ⟨hlatin, hsmall⟩ := hcode h
  exact ⟨hlatin, hsmall, by omega, by omega⟩

theorem lower_of_latin (h : ∀ c ∈ s, isLatin c = true) : Text.lower s = s.map simpleSmall :=
  lowerFrom_eq_map [] fun c hc ↦ (small_of_isLatin (h c hc)).2.2

/-- Small letters have no smaller form. -/
theorem lower_lower (h : ∀ c ∈ s, isLatin c = true) :
    Text.lower (Text.lower s) = Text.lower s := by
  have hsmall : ∀ c ∈ s.map simpleSmall, isLatin c = true := by
    intro small hsmall
    obtain ⟨c, hc, rfl⟩ := List.mem_map.mp hsmall
    exact (small_of_isLatin (h c hc)).1
  rw [lower_of_latin h, lower_of_latin hsmall, List.map_map]
  refine List.map_congr_left fun c hc ↦ ?_
  exact (small_of_isLatin (h c hc)).2.1

end Agenda
