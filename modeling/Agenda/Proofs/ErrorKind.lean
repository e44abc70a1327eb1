import Agenda.Evaluation

/-!
# Which errors arise where

Each layer between a date word and the value of an expression has its own kinds of errors, and hands
the errors of the layer below on unchanged. The kinds are given as lists, so that a later layer can
look up whether an error of one kind may have come from below. Two absences matter most: a word is
refused for being an absolute day only by the reader of date words itself, and none of the layers
below the references between tags says that a chain of references is too deep.
-/

namespace Agenda

open DateError (Kind)

theorem DateError.kind_eq_absolute_iff {error : DateError} :
    error.kind = .absolute ↔ ∃ token, error = .absolute token := by
  constructor
  · intro h
    cases error <;> first | exact ⟨_, rfl⟩ | cases h
  · rintro ⟨token, rfl⟩
    rfl

/-! ## Date words -/

namespace DateWord

theorem kind_of_dayOfMonth {base : Date} {token : Text} {error : DateError}
    (h : dayOfMonth base token = .error error) : error.kind ∈ [Kind.date, .dayOfMonth] := by
  rw [dayOfMonth] at h
  split at h
  · cases h; simp [DateError.kind]
  · dsimp only at h
    split at h
    · cases h
    · cases h; simp [DateError.kind]

theorem kind_of_monthDay {base : Date} {token month day : Text} {error : DateError}
    (h : monthDay base token month day = .error error) : error.kind = .date := by
  rw [monthDay] at h
  split at h
  · cases h; rfl
  · split at h
    · cases h; rfl
    · dsimp only at h
      split at h
      · cases h; rfl
      · split at h
        · cases h; rfl
        · split at h
          · cases h
          · cases h; rfl

theorem kind_of_offset {base : Date} {token : Text} {error : DateError}
    (h : offset base token = .error error) : error.kind = .date := by
  rw [offset] at h
  split at h
  · split at h
    · cases h; rfl
    · cases h
  · cases h; rfl

theorem kind_of_spoken {base : Date} {soonDays : Int} {token : Text} {error : DateError}
    (h : spoken base soonDays token = .error error) : error.kind = .date := by
  rw [spoken] at h
  split at h
  · cases h
  · cases h; rfl
  · cases h; rfl

theorem kind_of_resolve {base : Date} {soonDays : Int} {token : Text} {error : DateError}
    (h : resolve base soonDays token = .error error) :
    error.kind ∈ [Kind.absolute, .empty, .date, .dayOfMonth] := by
  rw [resolve] at h
  split at h
  · cases h; simp [DateError.kind]
  · split at h
    · have hkind := kind_of_dayOfMonth h
      simp only [List.mem_cons, List.not_mem_nil, or_false] at hkind ⊢
      exact Or.inr (Or.inr hkind)
    · split at h
      · split at h
        · split at h
          · cases h; simp [DateError.kind]
          · simp [kind_of_monthDay h]
        · cases h; simp [DateError.kind]
      · split at h
        · simp [kind_of_offset h]
        · simp [kind_of_spoken h]

/-- A word is declined as an absolute day exactly if it consists of digits and dashes and has two
dashes or more. -/
theorem resolve_eq_absolute_iff {base : Date} {soonDays : Int} {token word : Text} :
    resolve base soonDays token = .error (.absolute word) ↔
      word = token ∧ isDashed token = true ∧ 2 ≤ token.count '-' := by
  have hdash : ∀ {month day : Text}, Text.cut? ['-'] token = some (month, day) →
      token.count '-' = 1 + day.count '-' := by
    intro month day hcut
    obtain ⟨htoken, hmonth⟩ := Text.cut?_singleton_eq_some_iff.mp hcut
    rw [htoken, List.count_append, List.count_eq_zero.mpr hmonth, List.count_cons_self]
    omega
  have hchomp : '-' ∈ Text.chomp token ↔ '-' ∈ token := Text.mem_chomp_iff (by decide)
  constructor
  · intro h
    rw [resolve] at h
    split at h
    · cases h
    · split at h
      · have hkind := kind_of_dayOfMonth h
        simp [DateError.kind] at hkind
      · next hnumber =>
        split at h
        · next hdashed =>
          cases hcut : Text.cut? ['-'] token with
          | none =>
            -- without a dash the word is a number
            rw [Text.cut?_singleton_eq_none_iff, ← hchomp] at hcut
            refine absurd ?_ hnumber
            rw [isDashed, Bool.and_eq_true, List.all_eq_true] at hdashed
            rw [isDayOfMonth, Text.isNumber, Bool.and_eq_true, List.all_eq_true]
            refine ⟨hdashed.1, fun c hc ↦ ?_⟩
            have hne : (c == '-') = false := by
              rw [beq_eq_false_iff_ne]
              rintro rfl
              exact hcut hc
            have hdigit := hdashed.2 c hc
            rwa [hne, Bool.or_false] at hdigit
          | some parts =>
            obtain ⟨month, day⟩ := parts
            rw [hcut] at h
            dsimp only at h
            split at h
            · next hmem =>
              cases h
              have hpos : 0 < day.count '-' := List.count_pos_iff.mpr hmem
              exact ⟨rfl, hdashed, by rw [hdash hcut]; omega⟩
            · cases kind_of_monthDay h
        · split at h
          · cases kind_of_offset h
          · cases kind_of_spoken h
  · rintro ⟨rfl, hdashed, hcount⟩
    have hmem : '-' ∈ word := List.count_pos_iff.mp (by omega)
    have hnumber : isDayOfMonth word = false := by
      rw [isDayOfMonth, Text.isNumber, Bool.and_eq_false_iff]
      exact Or.inr (List.all_eq_false.mpr ⟨'-', hchomp.mpr hmem, by decide⟩)
    have hne : word.isEmpty = false := List.isEmpty_eq_false_iff.mpr (List.ne_nil_of_mem hmem)
    rw [resolve, hne, hnumber, hdashed]
    cases hcut : Text.cut? ['-'] word with
    | none => rfl
    | some parts =>
      obtain ⟨month, day⟩ := parts
      have hday : '-' ∈ day := by
        rw [hdash hcut] at hcount
        exact List.count_pos_iff.mp (by omega)
      simp [hday]

end DateWord

/-! ## Expressions -/

/-- A day is what a token is taken for once the reader of date words declines it, so no error for
being an absolute day is left. -/
theorem kind_of_literalDate {base : Date} {soonDays : Int} {token : Text} {error : DateError}
    (h : literalDate base soonDays token = .error error) :
    error.kind ∈ [Kind.empty, .date, .dayOfMonth] := by
  rw [literalDate] at h
  split at h
  · split at h
    · cases h
    · cases h; simp [DateError.kind]
  · next hne =>
    -- the only error of that kind is the one that was caught
    have habsolute : error.kind ≠ .absolute := by
      rw [ne_eq, DateError.kind_eq_absolute_iff]
      rintro ⟨token, rfl⟩
      exact hne token h
    exact (List.mem_cons.mp (DateWord.kind_of_resolve h)).resolve_left habsolute

namespace Expression

theorem kind_of_step {token : Text} {error : DateError} (h : step token = .error error) :
    error.kind = .step := by
  rw [step, Recurrence.parse] at h
  split at h
  · cases h; rfl
  · cases h; rfl
  · split at h
    · split at h
      · cases h
      · cases h; rfl
    · cases h; rfl

theorem kind_of_offsetsFrom {expr : Text} {fuel : Nat} {rest : Text} {error : DateError}
    (h : offsetsFrom expr fuel rest = .error error) : error.kind = .offset := by
  induction fuel generalizing rest error with
  | zero =>
    match rest with
    | [] => cases h
    | [_] => cases h; rfl
    | _ :: _ :: _ => cases h; rfl
  | succ fuel ih =>
    match rest with
    | [] => cases h
    | [_] => cases h; rfl
    | c :: d :: rest =>
      rw [offsetsFrom] at h
      · split at h
        · cases h; rfl
        · split at h
          · cases h; rfl
          · split at h
            · cases h
            · next hrest =>
              cases h
              exact ih hrest
      · simp

theorem kind_of_parse {expr : Text} {error : DateError} (h : parse expr = .error error) :
    error.kind = if base? expr = none then .base else .offset := by
  rw [parse] at h
  split at h
  · next hbase =>
    cases h
    rw [if_pos hbase]
    rfl
  · next base hbase =>
    split at h
    · cases h
    · next hoffsets =>
      cases h
      rw [if_neg (by simp [hbase])]
      exact kind_of_offsetsFrom hoffsets

end Expression

theorem kind_of_applyOffsets {d : Date} {offsets : List Offset} {error : DateError}
    (h : applyOffsets d offsets = .error error) : error.kind ∈ [Kind.step, .offset] := by
  induction offsets generalizing d with
  | nil => cases h
  | cons o offsets ih =>
    rw [applyOffsets] at h
    split at h
    · next hstep =>
      cases h
      simp [Expression.kind_of_step hstep]
    · split at h
      · exact ih h
      · cases h; simp [DateError.kind]

end Agenda
