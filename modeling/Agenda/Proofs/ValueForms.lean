import Agenda.Proofs.SmallForms
import Agenda.Proofs.TypedOrder
import Agenda.Proofs.Words
import Mathlib.Data.List.Find

/-!
# Values of the kind that their form tells

The kind of a value is told from its form, and then it is read by the reader of that kind. A whole
number and a duration are always read. The reader of whole numbers does not look at the small form
of the value, but a small form of digits and a sign is the value itself.

With sizes, two forms are told that are not read: digits and the letter `b` alone, and the letter of
a multiple with `i` and without `b` (`HasUnreadEnd`). The reader has no such ends in its list. So
these values are taken for sizes, and then they are not even equal to themselves
(`not_forall_valuesEqual_self`).
-/

namespace Agenda

variable {base : Date} {v s t digits ending : Text} {c : Char} {units : List Char} {n k : Nat}

/-- The ends of a size that are told by the form and not read. -/
def unreadEnds : List Text := ["b", "pi", "ti", "gi", "mi", "ki"].map String.toList

/-- Behind the digits, the value has an end that is not read. -/
def HasUnreadEnd (value : Text) : Prop := (Text.lower value).dropWhile isDigit ∈ unreadEnds

instance (value : Text) : Decidable (HasUnreadEnd value) := inferInstanceAs (Decidable (_ ∈ _))

theorem isNumber_takeWhile (h : s.takeWhile isDigit ≠ []) :
    Text.isNumber (s.takeWhile isDigit) = true :=
  Text.isNumber_iff.mpr ⟨h, fun _ hc ↦ List.mem_takeWhile_imp hc⟩

/-! ## Durations -/

theorem secondsFrom_digit (hc : isDigit c = true) (count : Option Nat) (s : Text) :
    secondsFrom count (c :: s) = secondsFrom (some (10 * count.getD 0 + digitValue c)) s := by
  obtain ⟨value, hvalue⟩ := Option.isSome_iff_exists.mp hc
  rw [secondsFrom.eq_def, digitValue]
  simp only [hvalue, Option.getD_some]

theorem secondsFrom_digits_append (hs : ∀ c ∈ s, isDigit c = true) (n : Nat) (t : Text) :
    secondsFrom (some n) (s ++ t) =
      secondsFrom (some (s.foldl (fun n c ↦ 10 * n + digitValue c) n)) t := by
  induction s generalizing n with
  | nil => rfl
  | cons c s ih =>
    obtain ⟨hc, hs⟩ := List.forall_mem_cons.mp hs
    rw [List.cons_append, secondsFrom_digit hc, Option.getD_some, ih hs, List.foldl_cons]

theorem secondsFrom_number_append (hs : Text.isNumber s = true) (t : Text) :
    secondsFrom none (s ++ t) = secondsFrom (some (Text.toNat s)) t := by
  obtain ⟨hne, hs⟩ := Text.isNumber_iff.mp hs
  obtain ⟨c, s, rfl⟩ := List.exists_cons_of_ne_nil hne
  obtain ⟨hc, hs⟩ := List.forall_mem_cons.mp hs
  rw [List.cons_append, secondsFrom_digit hc, Option.getD_none, secondsFrom_digits_append hs,
    Text.toNat, List.foldl_cons]

theorem secondsFrom_unit (hc : unitSeconds? c = some k) (n : Nat) (s : Text) :
    secondsFrom (some n) (c :: s) = (secondsFrom none s).map (n * k + ·) := by
  have hdigit : digitValue? c = none := by
    rw [unitSeconds?.eq_def] at hc
    split at hc
    all_goals first | rfl | cases hc
  rw [secondsFrom.eq_def]
  simp only [hdigit, hc]

theorem isSome_secondsFrom (hunits : ∀ unit ∈ units, (unitSeconds? unit).isSome = true)
    (h : ValueKind.isCountForm units s = true) : (secondsFrom none s).isSome = true := by
  induction units generalizing s with
  | nil =>
    obtain rfl := List.isEmpty_iff.mp h
    rfl
  | cons unit units ih =>
    obtain ⟨hunit, hunits⟩ := List.forall_mem_cons.mp hunits
    rw [ValueKind.isCountForm] at h
    split at h
    · next d ds c rest hdigits hrest =>
      split at h
      · next hc =>
        obtain ⟨k, hk⟩ := Option.isSome_iff_exists.mp hunit
        rw [← beq_iff_eq.mp hc] at hk
        have hnumber : Text.isNumber (s.takeWhile isDigit) = true :=
          isNumber_takeWhile (by simp [hdigits])
        rw [← List.takeWhile_append_dropWhile (p := isDigit) (l := s), hrest,
          secondsFrom_number_append hnumber, secondsFrom_unit hk, Option.isSome_map]
        exact ih hunits h
      · exact ih hunits h
    · exact ih hunits h

theorem isSome_readDuration? (h : (secondsFrom none (Text.lower v)).isSome = true) :
    (readDuration? v).isSome = true := by
  have hsign : ((Text.lower v).head? == some '-') = false := by
    cases hs : Text.lower v with
    | nil => rfl
    | cons c s =>
      -- a sign is neither a digit nor a unit
      rw [List.head?_cons, beq_eq_false_iff_ne, ne_eq, Option.some_inj]
      rintro rfl
      rw [hs] at h
      cases h
  obtain ⟨n, hn⟩ := Option.isSome_iff_exists.mp h
  rw [readDuration?, hsign, if_neg Bool.false_ne_true, hn]
  rfl

theorem not_hasUnreadEnd_of_secondsFrom (h : (secondsFrom none (Text.lower v)).isSome = true) :
    ¬ HasUnreadEnd v := by
  have hunread : ∀ ending ∈ unreadEnds, secondsFrom none ending = none ∧
      ∀ n, secondsFrom (some n) ending = none := by
    intro ending hmem
    simp only [unreadEnds, List.map_cons, List.map_nil, List.mem_cons, List.not_mem_nil,
      or_false] at hmem
    rcases hmem with rfl | rfl | rfl | rfl | rfl | rfl
    all_goals exact ⟨rfl, fun n ↦ rfl⟩
  intro hmem
  rw [← List.takeWhile_append_dropWhile (p := isDigit) (l := Text.lower v)] at h
  by_cases hne : (Text.lower v).takeWhile isDigit = []
  · rw [hne, List.nil_append, (hunread _ hmem).1] at h
    cases h
  · rw [secondsFrom_number_append (isNumber_takeWhile hne), (hunread _ hmem).2] at h
    cases h

/-! ## Whole numbers -/

theorem dropUnderscores?_of_not_mem (h : '_' ∉ s) (afterDigit : Bool) :
    dropUnderscores? afterDigit s = some s := by
  induction s generalizing afterDigit with
  | nil => rfl
  | cons c s ih =>
    obtain ⟨hc, hs⟩ := not_or.mp (List.mem_cons.not.mp h)
    rw [dropUnderscores?.eq_def]
    split
    · next hnil => cases hnil
    · next hunderscore => exact absurd (List.cons.inj hunderscore).1.symm hc
    · next hcons =>
      obtain ⟨rfl, rfl⟩ := List.cons.inj hcons
      rw [beq_false_of_ne (Ne.symm hc), ih hs]
      rfl

theorem eq_sign_append (s : Text) :
    ∃ sign ∈ ([[], ['-'], ['+']] : List Text), s = sign ++ (Text.sign s).2 := by
  unfold Text.sign
  split
  · exact ⟨['-'], by simp, rfl⟩
  · exact ⟨['+'], by simp, rfl⟩
  · exact ⟨[], by simp, rfl⟩

theorem mem_of_isIntegerForm (h : ValueKind.isIntegerForm s = true) (hc : c ∈ s) :
    isDigit c = true ∨ c = '-' ∨ c = '+' := by
  obtain ⟨sign, hsign, hs⟩ := eq_sign_append s
  rw [hs] at hc
  rcases List.mem_append.mp hc with hc | hc
  · right
    simp only [List.mem_cons, List.not_mem_nil, or_false] at hsign
    rcases hsign with rfl | rfl | rfl
    · cases hc
    · exact .inl (List.mem_singleton.mp hc)
    · exact .inr (List.mem_singleton.mp hc)
  · exact .inl ((Text.isNumber_iff.mp h).2 c hc)

theorem isSome_readInteger? (h : ValueKind.isIntegerForm s = true) :
    (readInteger? s).isSome = true := by
  have hblank : ∀ c ∈ s, isNumberBlank c = false := by
    intro c hc
    rw [isNumberBlank, Bool.and_eq_false_iff]
    left
    rcases mem_of_isIntegerForm h hc with hdigit | rfl | rfl
    · exact not_isBlank_of_isDigit hdigit
    · decide
    · decide
  have hunderscore : '_' ∉ (Text.sign s).2 := fun hmem ↦ by
    cases (Text.isNumber_iff.mp h).2 '_' hmem
  have hnumber : Text.isNumber (Text.sign s).2 = true := h
  have htrim : Text.trim isNumberBlank s = s :=
    Text.trim_eq_self (fun c hc ↦ hblank c (List.mem_of_head? hc))
      fun c hc ↦ hblank c (List.mem_of_getLast? hc)
  rw [readInteger?, htrim]
  simp [dropUnderscores?_of_not_mem hunderscore, hnumber]

/-! ## Sizes -/

theorem suffix_digits_append_iff (hdigits : ∀ c ∈ digits, isDigit c = true)
    (hs : ∀ c ∈ s, isDigit c = false) : s <:+ digits ++ ending ↔ s <:+ ending := by
  refine ⟨fun h ↦ ?_, List.suffix_append_of_suffix⟩
  rcases List.suffix_or_suffix_of_suffix h (List.suffix_append digits ending) with h' | ⟨t, rfl⟩
  · exact h'
  · rcases List.eq_nil_or_concat t with rfl | ⟨t, c, rfl⟩
    · exact List.suffix_rfl
    · -- a longer end would have one of the digits in it
      have hmem : c ∈ digits := by
        have hsuffix : t.concat c <:+ digits := List.suffix_append_self_iff.mp h
        exact hsuffix.mem (by simp)
      have hc := hs c (by simp)
      rw [hdigits c hmem] at hc
      cases hc

theorem find?_sizeEnds_append (hdigits : ∀ c ∈ digits, isDigit c = true) (ending : Text) :
    (sizeEnds.find? fun e ↦ e.1.isSuffixOf (digits ++ ending)) =
      sizeEnds.find? fun e ↦ e.1.isSuffixOf ending := by
  have hends : ∀ e ∈ sizeEnds, e.1.all (!isDigit ·) = true := by decide
  refine List.find?_congr fun e he ↦ ?_
  rw [Bool.eq_iff_iff, List.isSuffixOf_iff_suffix, List.isSuffixOf_iff_suffix]
  exact suffix_digits_append_iff hdigits (by simpa using hends e he)

/-- Of the ends that the form admits, all but the unread ones are found in the list. -/
theorem find?_sizeEnds_of_isSizeEnd (h : ValueKind.isSizeEnd ending = true) :
    (sizeEnds.find? fun e ↦ e.1.isSuffixOf ending).map Prod.fst =
      if ending ∈ unreadEnds then none else some ending := by
  have hends : ∀ ending ∈ ['p', 't', 'g', 'm', 'k'].flatMap fun c ↦
      [[], ['i'], ['b'], ['i', 'b']].map (c :: ·),
      (sizeEnds.find? fun e ↦ e.1.isSuffixOf ending).map Prod.fst =
        if ending ∈ unreadEnds then none else some ending := by decide
  unfold ValueKind.isSizeEnd at h
  split at h
  · rfl
  · rw [Bool.and_eq_true, List.contains_iff_mem, List.contains_iff_mem] at h
    exact hends _ (List.mem_flatMap.mpr ⟨_, h.1, List.mem_map_of_mem h.2⟩)
  · cases h

theorem find?_sizeEnds_lower (h : ValueKind.isSizeForm (Text.lower v) = true) :
    (sizeEnds.find? fun e ↦ e.1.isSuffixOf (Text.lower v)).map Prod.fst =
      if HasUnreadEnd v then none else some ((Text.lower v).dropWhile isDigit) := by
  have hdigits : ∀ c ∈ (Text.lower v).takeWhile isDigit, isDigit c = true :=
    fun c hc ↦ List.mem_takeWhile_imp hc
  have hfind := find?_sizeEnds_append hdigits ((Text.lower v).dropWhile isDigit)
  rw [List.takeWhile_append_dropWhile] at hfind
  rw [hfind]
  exact find?_sizeEnds_of_isSizeEnd (Bool.and_eq_true_iff.mp h).2

theorem take_length_sub (h : digits ++ ending = s) :
    s.take (s.length - ending.length) = digits := by
  rw [← h, List.length_append, Nat.add_sub_cancel, List.take_left]

theorem isSome_readSize?_iff (h : ValueKind.isSizeForm (Text.lower v) = true) :
    (readSize? v).isSome = true ↔ ¬ HasUnreadEnd v := by
  have hfind := find?_sizeEnds_lower h
  rw [readSize?]
  by_cases hunread : HasUnreadEnd v
  · rw [if_pos hunread, Option.map_eq_none_iff] at hfind
    -- a plain number has no end, and the empty end is read
    have hnumber : Text.isNumber v = false := by
      rw [← Bool.not_eq_true]
      intro hnumber
      have hall := (Text.isNumber_iff.mp hnumber).2
      rw [HasUnreadEnd, lower_of_isDigit hall, List.dropWhile_eq_nil_iff.mpr hall] at hunread
      exact absurd hunread (by decide)
    simp only [hfind, hnumber, hunread, Bool.false_eq_true, if_false, Option.isSome_none, not_true]
  · rw [if_neg hunread] at hfind
    obtain ⟨⟨ending, multiple⟩, hfound, rfl⟩ := Option.map_eq_some_iff.mp hfind
    have hdigits : (Text.lower v).take ((Text.lower v).length -
        ((Text.lower v).dropWhile isDigit).length) = (Text.lower v).takeWhile isDigit :=
      take_length_sub List.takeWhile_append_dropWhile
    have hnumber : Text.isNumber ((Text.lower v).takeWhile isDigit) = true :=
      isNumber_takeWhile (by simpa using (Bool.and_eq_true_iff.mp h).1)
    simp only [hfound, hdigits, hnumber, hunread, if_true, Option.isSome_some, not_false_eq_true]

/-! ## Values of their own kind -/

theorem chomp_lower (hline : '\n' ∉ v) : Text.chomp (Text.lower v) = Text.lower v :=
  Text.chomp_of_not_mem fun hmem ↦ hline (mem_of_mem_lower (.inl (by decide)) hmem)

theorem lower_of_isIntegerForm (h : ValueKind.isIntegerForm (Text.lower v) = true) :
    Text.lower v = v := by
  refine lower_eq_self fun c hc ↦ ?_
  rcases mem_of_isIntegerForm h hc with hdigit | rfl | rfl
  · exact .inr hdigit
  · exact .inl (by decide)
  · exact .inl (by decide)

theorem not_hasUnreadEnd_of_isIntegerForm (h : ValueKind.isIntegerForm (Text.lower v) = true) :
    ¬ HasUnreadEnd v := by
  have hletter : ∀ ending ∈ unreadEnds,
      ending.any (fun c ↦ !(isDigit c || c == '-' || c == '+')) = true := by
    decide
  intro hmem
  obtain ⟨c, hc, hother⟩ := List.any_eq_true.mp (hletter _ hmem)
  rw [Bool.not_eq_true'] at hother
  rcases mem_of_isIntegerForm h ((List.dropWhile_suffix isDigit).mem hc) with hdigit | rfl | rfl
  · simp [hdigit] at hother
  · cases hother
  · cases hother

/-- What the kind that is told says of the form. -/
theorem ValueKind.form_of_ofValue (hline : '\n' ∉ v) :
    (ofValue v = integer → isIntegerForm (Text.lower v) = true) ∧
    (ofValue v = duration → isCountForm ['w', 'd', 'h', 'm', 's'] (Text.lower v) = true) ∧
    (ofValue v = size → isSizeForm (Text.lower v) = true) := by
  rw [ofValue, chomp_lower hline]
  split
  · next hform => exact ⟨fun _ ↦ hform, nofun, nofun⟩
  split
  · exact ⟨nofun, nofun, nofun⟩
  split
  · exact ⟨nofun, nofun, nofun⟩
  split
  · next hform => exact ⟨nofun, fun _ ↦ hform, nofun⟩
  split
  · next hform => exact ⟨nofun, nofun, fun _ ↦ hform⟩
  split
  · exact ⟨nofun, nofun, nofun⟩
  · exact ⟨nofun, nofun, nofun⟩

/-- A whole number, a duration or a size is read by the reader of its kind, but for the sizes with
an end that is not read. -/
theorem ValueKind.isSome_read?_ofValue (base : Date) (hline : '\n' ∉ v)
    (hkind : ofValue v ∈ [integer, duration, size]) :
    (((ofValue v).read? base v).isSome = true ↔ ¬ HasUnreadEnd v) ∧
      (HasUnreadEnd v → ofValue v = size) := by
  have hunits : ∀ unit ∈ ['w', 'd', 'h', 'm', 's'], (unitSeconds? unit).isSome = true :=
    List.all_eq_true.mp (by decide)
  obtain ⟨hinteger, hduration, hsize⟩ := form_of_ofValue hline
  simp only [List.mem_cons, List.not_mem_nil, or_false] at hkind
  -- a whole number, a duration, a size
  rcases hkind with hkind | hkind | hkind
  · have hend := not_hasUnreadEnd_of_isIntegerForm (hinteger hkind)
    have hread := isSome_readInteger? (hinteger hkind)
    rw [lower_of_isIntegerForm (hinteger hkind)] at hread
    refine ⟨iff_of_true ?_ hend, fun h ↦ absurd h hend⟩
    rw [hkind, read?, Option.isSome_map]
    exact hread
  · have hseconds := isSome_secondsFrom hunits (hduration hkind)
    have hend := not_hasUnreadEnd_of_secondsFrom hseconds
    refine ⟨iff_of_true ?_ hend, fun h ↦ absurd h hend⟩
    rw [hkind, read?, Option.isSome_map]
    exact isSome_readDuration? hseconds
  · have hread : (size.read? base v).isSome = (readSize? v).isSome := by
      rw [read?]
      cases readSize? v with
      | none => rfl
      | some n => rfl
    rw [hkind, hread]
    exact ⟨isSome_readSize?_iff (hsize hkind), fun _ ↦ rfl⟩

/-- **Values of the kind that their form tells.** A value whose form is that of a whole number, of a
duration or of a size is read by the reader of that kind, equals itself and keeps to itself as a
bound, unless it is a size with an end that is not read. Then it does none of these. -/
theorem valuesEqual_self_ofValue (base : Date) (style : PatternStyle) {v : Text}
    (hline : '\n' ∉ v) (hkind : .ofValue v ∈ [ValueKind.integer, .duration, .size]) :
    (((ValueKind.ofValue v).read? base v).isSome = true ↔ ¬ HasUnreadEnd v) ∧
    valuesEqual (.ofValue v) base style v v = .ok (decide (¬ HasUnreadEnd v)) ∧
    (∀ bound, valuesCompare (.ofValue v) base bound v v = true ↔ ¬ HasUnreadEnd v) ∧
    (HasUnreadEnd v → ValueKind.ofValue v = .size) := by
  have hwhole : ValueKind.ofValue v ∈ wholeKinds := by
    have hsub : ∀ kind ∈ [ValueKind.integer, .duration, .size], kind ∈ wholeKinds := by decide
    exact hsub _ hkind
  obtain ⟨hread, hsize⟩ := ValueKind.isSome_read?_ofValue base hline hkind
  have hmeasure : (∃ n, (ValueKind.ofValue v).measure? base v = some n) ↔ ¬ HasUnreadEnd v :=
    (isSome_read?_iff (.inl hwhole)).symm.trans hread
  have hcompare : ∀ bound, valuesCompare (.ofValue v) base bound v v = true ↔
      ¬ HasUnreadEnd v := by
    intro bound
    rw [valuesCompare_iff (.inl hwhole), ← hmeasure]
    constructor
    · rintro ⟨m, -, hm, -⟩
      exact ⟨m, hm⟩
    · rintro ⟨n, hn⟩
      refine ⟨n, n, hn, hn, ?_⟩
      cases bound with
      | atMost => exact le_rfl
      | atLeast => exact le_rfl
  refine ⟨hread, ?_, hcompare, hsize⟩
  have hordered : (ValueKind.ofValue v).IsOrdered v := .inl hwhole
  rw [hordered.valuesEqual_eq, Except.ok.injEq, Bool.eq_iff_iff, Bool.and_eq_true, hcompare,
    hcompare, and_self, decide_eq_true_iff]

theorem valuesEqual_self_ofValue_size :
    ('\n' ∉ "٢MiB".toList ∧
      .ofValue "٢MiB".toList ∈ [ValueKind.integer, .duration, .size]) ∧
    ¬ HasUnreadEnd "٢MiB".toList ∧
    valuesEqual (.ofValue "٢MiB".toList) ⟨2020, 7, 9, by decide⟩ .wildcard "٢MiB".toList
      "٢MiB".toList = .ok true := by
  have hline : '\n' ∉ "٢MiB".toList := by decide
  have hkind : .ofValue "٢MiB".toList ∈ [ValueKind.integer, .duration, .size] := by decide
  have hend : ¬ HasUnreadEnd "٢MiB".toList := by decide
  refine ⟨⟨hline, hkind⟩, hend, ?_⟩
  rw [(valuesEqual_self_ofValue ⟨2020, 7, 9, by decide⟩ .wildcard hline hkind).2.1,
    decide_eq_true hend]

/-- Five bytes, told to be a size, are not equal to themselves. -/
theorem not_forall_valuesEqual_self : ¬ ∀ (base : Date) (style : PatternStyle) (v : Text),
    v ≠ [] → (∀ c ∈ v, isBlank c = false) →
      .ofValue v ∈ [ValueKind.integer, .duration, .size] →
        valuesEqual (.ofValue v) base style v v = .ok true := by
  intro h
  have hblank : ∀ c ∈ "5b".toList, isBlank c = false :=
    List.forall_mem_cons.mpr ⟨by decide, List.forall_mem_singleton.mpr (by decide)⟩
  have hequal := h ⟨2020, 7, 9, by decide⟩ .wildcard "5b".toList (by decide) hblank (by decide)
  exact absurd hequal (by decide)

end Agenda
