import Agenda.Proofs.DateText
import Agenda.Proofs.SmallForms
import Agenda.Recurrence

/-!
# The forms of a recurrence

A recurrence has one written form and many that are read: the count in the digits of any scripts and
with zeros in front, the letter of the unit in either case, and a line feed at the end if there is
one. `Recurrence.Spells` lists them without the reader, and the reader accepts these and no others
(`Recurrence.parse_eq_ok_iff`).

The written form is one of them, whatever the recurrence, and it spells the recurrence it was
written for (`Recurrence.spells_toText`). So to read a text and to write what was read is to bring
it into a normal form: the texts that stay as they are under it are the written ones.
-/

namespace Agenda

variable {s t digits letter : Text} {c : Char} {strict : Bool} {unit : TimeUnit}

/-! ## Line feeds at the end -/

namespace Text

theorem chomp_append_lineFeed (s : Text) : chomp (s ++ ['\n']) = s := by
  rw [chomp]
  simp

theorem eq_chomp_or (s : Text) : s = chomp s ∨ s = chomp s ++ ['\n'] := by
  rw [chomp]
  split
  · next hlast =>
    obtain ⟨body, rfl⟩ := List.getLast?_eq_some_iff.mp hlast
    exact .inr (by rw [List.dropLast_concat])
  · exact .inl rfl

theorem chomp_eq_iff (ht : '\n' ∉ t) : chomp s = t ↔ s = t ∨ s = t ++ ['\n'] := by
  constructor
  · rintro rfl
    exact eq_chomp_or s
  · rintro (rfl | rfl)
    · exact chomp_of_not_mem ht
    · exact chomp_append_lineFeed t

end Text

/-! ## Letters -/

theorem TimeUnit.ofLetter?_simpleSmall (h : isLatin c = true) :
    ofLetter? (simpleSmall c) = ofAnyLetter? c := by
  have hcodes : ∀ n < 123, isLatin (Char.ofNat n) = true →
      ofLetter? (simpleSmall (Char.ofNat n)) = ofAnyLetter? (Char.ofNat n) := by
    decide
  obtain ⟨-, hhi⟩ := Expression.toNat_of_isLatin h
  have hc := hcodes c.toNat hhi
  rw [Char.ofNat_toNat] at hc
  exact hc h

theorem TimeUnit.isLatin_of_ofAnyLetter? (h : ofAnyLetter? c = some unit) : isLatin c = true := by
  have hletters : "dwmyDWMY".toList.all isLatin = true := by decide
  exact List.all_eq_true.mp hletters c (Expression.isUnit_singleton_iff.mp (by rw [h]; rfl))

theorem TimeUnit.lower_of_ofAnyLetter? (h : ofAnyLetter? c = some unit) :
    Text.lower [c] = [unit.letter] := by
  have hlatin := isLatin_of_ofAnyLetter? h
  rw [← ofLetter?_simpleSmall hlatin, ofLetter?_eq_some_iff] at h
  rw [lower_of_latin (by simpa using hlatin), List.map_singleton, h]

theorem not_isDigit_of_isLatin (h : isLatin c = true) : isDigit c = false := by
  by_contra hdigit
  rw [Expression.not_isLatin_of_isDigit (Bool.eq_true_of_not_eq_false hdigit)] at h
  cases h

namespace Recurrence

/-! ## Parts -/

/-- The mark of a strict recurrence. -/
def mark (strict : Bool) : Text := if strict then ['+'] else []

/-- The texts that stand for a recurrence: its mark, a number for its count, a letter for its unit,
and a line feed or nothing. -/
inductive Spells : Text → Recurrence → Prop
  | intro {digits : Text} {c : Char} {unit : TimeUnit} {ending : Text} (strict : Bool)
    (hdigits : Text.isNumber digits = true) (hc : TimeUnit.ofAnyLetter? c = some unit)
    (hending : ending = [] ∨ ending = ['\n']) :
    Spells (mark strict ++ digits ++ [c] ++ ending) ⟨unit, Text.toNat digits, strict⟩

/-- What makes up the text of a recurrence: a mark, digits, and a letter or nothing. -/
structure HasParts (s : Text) (strict : Bool) (digits letter : Text) : Prop where
  eq : s = mark strict ++ (digits ++ letter)
  isDigit : ∀ c ∈ digits, isDigit c = true
  letter : letter = [] ∨ ∃ c, letter = [c] ∧ isLatin c = true

theorem HasParts.isLatin (h : HasParts s strict digits letter) :
    ∀ c ∈ letter, Agenda.isLatin c = true := by
  obtain rfl | ⟨d, rfl, hd⟩ := h.letter
  · exact nofun
  · simpa using hd

theorem hasParts_of_parts? (h : parts? s = some (strict, digits, letter)) :
    HasParts (Text.chomp s) strict digits letter := by
  -- what is behind the mark, if there is one
  obtain ⟨rest, hbody, hrest⟩ : ∃ rest, Text.chomp s = mark ((Text.chomp s).head? == some '+') ++
      rest ∧ rest = if (Text.chomp s).head? == some '+' then (Text.chomp s).drop 1
        else Text.chomp s := by
    refine ⟨_, ?_, rfl⟩
    rcases Text.chomp s with _ | ⟨d, body⟩
    · rfl
    · by_cases hd : d = '+'
      · subst hd
        rfl
      · simp [mark, hd]
  rw [parts?, ← hrest] at h
  have hspan : rest.takeWhile isDigit ++ rest.dropWhile isDigit = rest :=
    List.takeWhile_append_dropWhile
  have hdigit : ∀ c ∈ rest.takeWhile isDigit, isDigit c = true :=
    fun c hc ↦ List.mem_takeWhile_imp hc
  split at h
  · next hnil =>
    cases h
    rw [hnil] at hspan
    exact ⟨by rw [hspan, ← hbody], hdigit, .inl rfl⟩
  · next d hd =>
    split at h
    · next hlatin =>
      cases h
      rw [hd] at hspan
      exact ⟨by rw [hspan, ← hbody], hdigit, .inr ⟨d, rfl, hlatin⟩⟩
    · cases h
  · cases h

theorem HasParts.head? (h : HasParts s strict digits letter) :
    (s.head? == some '+') = strict := by
  rw [h.eq]
  cases strict with
  | true => rfl
  | false =>
    refine beq_false_of_ne fun hplus ↦ ?_
    have hplus : '+' ∈ digits ++ letter := List.mem_of_mem_head? hplus
    rcases List.mem_append.mp hplus with hmem | hmem
    · cases h.isDigit _ hmem
    · cases h.isLatin _ hmem

theorem HasParts.parts?_eq (h : HasParts (Text.chomp s) strict digits letter) :
    parts? s = some (strict, digits, letter) := by
  have hrest : (if strict then (Text.chomp s).drop 1 else Text.chomp s) = digits ++ letter := by
    rw [h.eq]
    cases strict <;> rfl
  have hstop : ∀ d u, letter = d :: u → Agenda.isDigit d = false := by
    rintro d u rfl
    exact not_isDigit_of_isLatin (h.isLatin d List.mem_cons_self)
  obtain ⟨htake, hdrop⟩ := Expression.span_append h.isDigit hstop
  rw [parts?, h.head?]
  simp only [hrest, htake, hdrop]
  obtain rfl | ⟨d, rfl, hd⟩ := h.letter
  · rfl
  · simp only [hd, if_true]

theorem chomp_spelled {ending : Text} (hdigits : ∀ c ∈ digits, isDigit c = true)
    (hc : isLatin c = true) (strict : Bool) (hending : ending = [] ∨ ending = ['\n']) :
    Text.chomp (mark strict ++ digits ++ [c] ++ ending) = mark strict ++ (digits ++ [c]) := by
  have hline : '\n' ∉ mark strict ++ (digits ++ [c]) := by
    intro hmem
    rcases List.mem_append.mp hmem with hmem | hmem
    · cases strict <;> simp [mark] at hmem
    · rcases List.mem_append.mp hmem with hmem | hmem
      · cases hdigits _ hmem
      · rw [← List.mem_singleton.mp hmem] at hc
        cases hc
  refine (Text.chomp_eq_iff hline).mpr ?_
  rcases hending with rfl | rfl
  · exact .inl (by simp)
  · exact .inr (by simp)

/-! ## Reading -/

variable {r : Recurrence}

theorem parse_of_parts? (h : parts? s = some (strict, digits, [c])) (hne : digits ≠ []) :
    parse s = match TimeUnit.ofAnyLetter? c with
      | some unit => .ok ⟨unit, Text.toNat digits, strict⟩
      | none => .error (.unknownUnit s [simpleSmall c]) := by
  have hlatin := (hasParts_of_parts? h).isLatin c List.mem_cons_self
  have hlower : Text.lower [c] = [simpleSmall c] := lower_of_latin (by simpa using hlatin)
  obtain ⟨d, rest, rfl⟩ := List.exists_cons_of_ne_nil hne
  rw [parse, h]
  cases hunit : TimeUnit.ofAnyLetter? c with
  | none => simp only [hlower, TimeUnit.ofLetter?_simpleSmall hlatin, hunit]
  | some unit => simp only [hlower, TimeUnit.ofLetter?_simpleSmall hlatin, hunit]

theorem exists_parts?_of_parse (h : parse s = .ok r) :
    ∃ strict digits c, parts? s = some (strict, digits, [c]) ∧ digits ≠ [] := by
  rw [parse] at h
  split at h
  · cases h
  · cases h
  · next strict digits letter hne hparts =>
    obtain rfl | ⟨c, rfl, -⟩ := (hasParts_of_parts? hparts).letter
    · cases h
    · exact ⟨strict, digits, c, hparts, hne⟩

/-- **What is read.** A text is read as a recurrence exactly if it spells it. -/
theorem parse_eq_ok_iff : parse s = .ok r ↔ Spells s r := by
  constructor
  · intro h
    obtain ⟨strict, digits, c, hparts, hne⟩ := exists_parts?_of_parse h
    rw [parse_of_parts? hparts hne] at h
    obtain ⟨hchomp, hdigit, -⟩ := hasParts_of_parts? hparts
    have hdigits : Text.isNumber digits = true := Text.isNumber_iff.mpr ⟨hne, hdigit⟩
    split at h
    · next unit hunit =>
      cases h
      -- a line feed at the end was dropped, if there is one
      rcases Text.eq_chomp_or s with hs | hs
      · rw [hs, hchomp]
        simpa using Spells.intro strict hdigits hunit (.inl rfl)
      · rw [hs, hchomp]
        simpa using Spells.intro strict hdigits hunit (.inr rfl)
    · cases h
  · rintro ⟨strict, hdigits, hunit, hending⟩
    obtain ⟨hne, hdigit⟩ := Text.isNumber_iff.mp hdigits
    have hlatin := TimeUnit.isLatin_of_ofAnyLetter? hunit
    have hparts := HasParts.parts?_eq ⟨chomp_spelled hdigit hlatin strict hending, hdigit,
      .inr ⟨_, rfl, hlatin⟩⟩
    rw [parse_of_parts? hparts hne, hunit]

/-! ## Writing -/

/-- The written form spells the recurrence. -/
theorem spells_toText (r : Recurrence) : Spells r.toText r := by
  have hdigits : Text.isNumber (Text.ofNat r.count) = true := Text.isNumber_ofNat r.count
  have hletter : TimeUnit.ofAnyLetter? r.unit.letter = some r.unit := by
    cases r.unit <;> rfl
  have h := Spells.intro r.strict hdigits hletter (.inl rfl)
  rwa [Text.toNat_ofNat, List.append_nil] at h

theorem parse_writtenForm (r : Recurrence) : parse r.toText = .ok r :=
  parse_eq_ok_iff.mpr (spells_toText r)

/-- **The written form is a normal form.** Every recurrence is read back from its written form. A
text is read as a recurrence exactly if it spells it, and then the written form is read as the same
one and stays as it is when it is read and written again, as no other texts do. -/
theorem toText_normal :
    (∀ r : Recurrence, parse r.toText = .ok r) ∧
    (∀ (s : Text) (r : Recurrence), parse s = .ok r ↔ Spells s r) ∧
    (∀ (s : Text) (r : Recurrence), parse s = .ok r →
      parse r.toText = parse s ∧ (parse r.toText).map toText = .ok r.toText) ∧
    ∀ s : Text, (parse s).map toText = .ok s ↔ ∃ r : Recurrence, s = r.toText := by
  have hfixed : ∀ r : Recurrence, (parse r.toText).map toText = .ok r.toText := by
    intro r
    rw [parse_writtenForm]
    rfl
  refine ⟨parse_writtenForm, fun s r ↦ parse_eq_ok_iff, fun s r h ↦ ?_, fun s ↦ ?_⟩
  · exact ⟨by rw [parse_writtenForm, h], hfixed r⟩
  · constructor
    · intro h
      cases hread : parse s with
      | error error =>
        rw [hread] at h
        cases h
      | ok r =>
        rw [hread] at h
        exact ⟨r, (Except.ok.inj h).symm⟩
    · rintro ⟨r, rfl⟩
      exact hfixed r

theorem toText_normal_weeks :
    let s := "+\u0660\u0660\u0667W\n".toList
    let r : Recurrence := ⟨.week, 7, true⟩
    parse s = .ok r ∧ r.toText = "+7w".toList ∧ parse "+7w".toList = parse s ∧
      (parse "+7w".toList).map toText = .ok "+7w".toList := by
  intro s r
  obtain ⟨-, hspells, hnormal, -⟩ := toText_normal
  have hdigits : Text.isNumber "\u0660\u0660\u0667".toList = true := by decide
  have hunit : TimeUnit.ofAnyLetter? 'W' = some .week := rfl
  have hread : parse s = .ok r := (hspells s r).mpr (.intro true hdigits hunit (.inr rfl))
  have hwritten : r.toText = "+7w".toList := by decide
  exact ⟨hread, hwritten, hwritten ▸ hnormal s r hread⟩

end Recurrence

end Agenda
