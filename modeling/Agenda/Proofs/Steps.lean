import Agenda.Proofs.RecurrenceForms

/-!
# The steps of an expression

An offset is read twice. The reader of expressions cuts it out by its form alone, and when it is
applied, the reader of recurrences takes it for a step. The forms are not the same: a unit alone is
an offset, and a plus sign in front belongs to a recurrence. But an offset that has a count is a
step of that count and unit, and never a strict one (`Expression.step_of_isCount`). The unit alone
is the only offset that is no step (`Expression.isToken_iff_bareUnit_or_count`), and it is refused
for its missing count.
-/

namespace Agenda

variable {s token : Text} {c : Char} {n : Nat} {unit : TimeUnit}

/-! ## Numbers -/

theorem not_mem_of_isNumber (hs : Text.isNumber s = true) (hc : isDigit c = false) : c ∉ s := by
  intro hmem
  rw [(Text.isNumber_iff.mp hs).2 c hmem] at hc
  cases hc

/-! ## Counts -/

theorem Recurrence.parse_append_letter (hs : Text.isNumber s = true)
    (hc : TimeUnit.ofAnyLetter? c = some unit) :
    Recurrence.parse (s ++ [c]) = .ok ⟨unit, Text.toNat s, false⟩ := by
  have h := parse_eq_ok_iff.mpr (Spells.intro false hs hc (.inl rfl))
  rwa [List.append_nil] at h

namespace Expression

/-- So many of a unit: a number for days, or a number with the letter of the unit in either case. -/
inductive IsCount : TimeUnit → Nat → Text → Prop
  | days {n : Nat} {digits : Text} (hs : Text.isNumber digits = true)
    (hn : Text.toNat digits = n) : IsCount .day n digits
  | units {unit : TimeUnit} {n : Nat} {digits : Text} {c : Char} (hs : Text.isNumber digits = true)
    (hn : Text.toNat digits = n) (hc : TimeUnit.ofAnyLetter? c = some unit) :
    IsCount unit n (digits ++ [c])

theorem IsCount.isToken (h : IsCount unit n token) : IsToken token := by
  cases h with
  | days hs _ =>
    obtain ⟨hne, hdigits⟩ := Text.isNumber_iff.mp hs
    rw [← List.append_nil token]
    exact .count hne hdigits (.inl rfl)
  | units hs _ hc =>
    obtain ⟨hne, hdigits⟩ := Text.isNumber_iff.mp hs
    exact .count hne hdigits (.inr ⟨_, isUnit_singleton_iff.mp (by rw [hc]; rfl), rfl⟩)

theorem step_of_isNumber (hs : Text.isNumber s = true) :
    step s = .ok ⟨.day, Text.toNat s, false⟩ := by
  rw [step, if_pos hs]
  exact Recurrence.parse_append_letter hs rfl

theorem step_of_isCount (h : IsCount unit n token) : step token = .ok ⟨unit, n, false⟩ := by
  cases h with
  | days hs hn =>
    rw [← hn]
    exact step_of_isNumber hs
  | @units unit n digits c hs hn hc =>
    have hletter : ¬ Text.isNumber (digits ++ [c]) = true := by
      intro hnumber
      have hdigit := not_isDigit_of_isLatin (TimeUnit.isLatin_of_ofAnyLetter? hc)
      exact not_mem_of_isNumber hnumber hdigit (by simp)
    rw [step, if_neg hletter, ← hn]
    exact Recurrence.parse_append_letter hs hc

theorem IsCount.unique {unit' : TimeUnit} {n' : Nat} (h : IsCount unit n token)
    (h' : IsCount unit' n' token) : unit' = unit ∧ n' = n := by
  have hstep := step_of_isCount h
  rw [step_of_isCount h'] at hstep
  cases hstep
  exact ⟨rfl, rfl⟩

theorem IsCount.not_mem_lineFeed (h : IsCount unit n token) : '\n' ∉ token := by
  cases h with
  | days hs _ => exact not_mem_of_isNumber hs (by decide)
  | @units unit n digits c hs _ hc =>
    intro hmem
    rcases List.mem_append.mp hmem with hmem | hmem
    · exact not_mem_of_isNumber hs (by decide) hmem
    · rw [← List.mem_singleton.mp hmem] at hc
      cases hc

/-- Steps that are not strict are counts, but for a line feed at the end. -/
theorem step_eq_ok_iff :
    step token = .ok ⟨unit, n, false⟩ ∧ '\n' ∉ token ↔ IsCount unit n token := by
  constructor
  · rintro ⟨hstep, hline⟩
    by_cases hs : Text.isNumber token = true
    · rw [step_of_isNumber hs] at hstep
      cases hstep
      exact .days hs rfl
    · rw [step, if_neg hs, Recurrence.parse_eq_ok_iff] at hstep
      cases hstep with
      | intro _ hdigits hc hending =>
        rcases hending with rfl | rfl
        · rw [List.append_nil]
          exact .units hdigits rfl hc
        · exact absurd (List.mem_append_right _ List.mem_cons_self) hline
  · exact fun h ↦ ⟨step_of_isCount h, h.not_mem_lineFeed⟩

/-! ## Units without a count -/

/-- The letter of a unit in either case, without a count. -/
def IsBareUnit (token : Text) : Prop := ∃ c ∈ "dwmyDWMY".toList, token = [c]

theorem IsBareUnit.not_isDigit (h : IsBareUnit token) : ∀ c ∈ token, isDigit c = false := by
  obtain ⟨d, hd, rfl⟩ := h
  exact fun c hc ↦ IsUnit.not_isDigit (.inr ⟨d, hd, rfl⟩) hc

theorem IsBareUnit.parse (h : IsBareUnit token) :
    Recurrence.parse token = .error (.countExpected token) := by
  obtain ⟨c, hc, rfl⟩ := h
  obtain ⟨unit, hunit⟩ := Option.isSome_iff_exists.mp (isUnit_singleton_iff.mpr hc)
  have hlatin := TimeUnit.isLatin_of_ofAnyLetter? hunit
  have hchomp : Text.chomp [c] = [c] :=
    Recurrence.chomp_spelled (List.forall_mem_nil _) hlatin false (.inl rfl)
  have hparts : Recurrence.parts? [c] = some (false, [], [c]) :=
    Recurrence.HasParts.parts?_eq ⟨hchomp, List.forall_mem_nil _, .inr ⟨c, rfl, hlatin⟩⟩
  rw [Recurrence.parse, hparts]

theorem IsBareUnit.step (h : IsBareUnit token) :
    Expression.step token = .error (.countExpected token) := by
  have hnumber : ¬ Text.isNumber token = true := by
    intro hs
    obtain ⟨hne, hdigits⟩ := Text.isNumber_iff.mp hs
    obtain ⟨c, hc⟩ := List.exists_mem_of_ne_nil token hne
    have hdigit := hdigits c hc
    rw [h.not_isDigit c hc] at hdigit
    cases hdigit
  rw [Expression.step, if_neg hnumber, h.parse]

theorem IsBareUnit.not_isCount (h : IsBareUnit token) : ¬ IsCount unit n token := by
  intro hcount
  have hstep := h.step
  rw [step_of_isCount hcount] at hstep
  cases hstep

/-- An offset is a unit alone or has a count. -/
theorem isToken_iff_bareUnit_or_count :
    IsToken token ↔ IsBareUnit token ∨ ∃ unit n, IsCount unit n token := by
  constructor
  · rintro (@⟨digits, letter, hne, hd, hu⟩ | ⟨hne, hu⟩)
    · have hs : Text.isNumber digits = true := Text.isNumber_iff.mpr ⟨hne, hd⟩
      rcases hu with rfl | ⟨c, hc, rfl⟩
      · rw [List.append_nil]
        exact .inr ⟨_, _, .days hs rfl⟩
      · obtain ⟨unit, hunit⟩ := Option.isSome_iff_exists.mp (isUnit_singleton_iff.mpr hc)
        exact .inr ⟨_, _, .units hs rfl hunit⟩
    · exact .inl (hu.resolve_left hne)
  · rintro (⟨c, hc, rfl⟩ | ⟨unit, n, h⟩)
    · exact .unit (List.cons_ne_nil c []) (.inr ⟨c, hc, rfl⟩)
    · exact h.isToken

theorem exists_isCount_of_isToken (h : IsToken token) (hdigit : ∃ c ∈ token, isDigit c = true) :
    ∃ unit n, IsCount unit n token := by
  refine (isToken_iff_bareUnit_or_count.mp h).resolve_left fun hbare ↦ ?_
  obtain ⟨c, hc, hdigit⟩ := hdigit
  rw [hbare.not_isDigit c hc] at hdigit
  cases hdigit

end Expression

end Agenda
