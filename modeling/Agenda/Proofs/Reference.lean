import Agenda.Proofs.ErrorKind
import Mathlib.Logic.Basic

/-!
# References between tags

The base of an expression may name a tag whose value is an expression again. Since an expression has
one base, it makes at most one such reference, so following references never branches: from every
expression there is one path through the table, which ends at an expression that makes no reference
or runs on for ever.

This is all that evaluation asks of a table. One step of it either answers at once, without a look
at any other expression, or answers for the text that the reference leads to, applies the offsets
and notes the day for the tag (`evaluateWithin_of_none`, `evaluateWithin_of_some`). Everything
else that is proved about evaluation goes through these two equations.
-/

namespace Agenda

open DateError (Kind)

/-- A reference that an expression makes. -/
structure Reference where
  /-- The tag that the base names. -/
  name : Text
  /-- The text of that tag. -/
  text : Text
  /-- The offsets behind the base. -/
  offsets : List Offset

namespace TagTable

/-- The reference that an expression makes: its base names a tag that is a text so far. -/
def reference? (tags : TagTable) (expr : Text) : Option Reference :=
  match Expression.parse expr with
  | .error _ => none
  | .ok e =>
    (referenceName? e.base).bind fun name ↦
      match tags.value? name with
      | some (.raw text) => some ⟨name, text, e.offsets⟩
      | _ => none

/-- The answer to an expression that makes no reference. -/
def directDate (tags : TagTable) (base : Date) (soonDays : Int) (expr : Text) :
    Except DateError Date :=
  if expr.isEmpty then .error .emptyExpression
  else
    match Expression.parse expr with
    | .error error => .error error
    | .ok e =>
      let start : Except DateError Date :=
        match (referenceName? e.base).bind tags.value? with
        | some (.date d) => .ok d
        | _ => literalDate base soonDays e.base
      start.bind (applyOffsets · e.offsets)

/-- The table with an answer noted for a name, if there is one. -/
def note (tags : TagTable) (name : Text) : Except DateError Date → TagTable
  | .ok d => tags.set name d
  | .error _ => tags

/-- The expression is well formed, its base is a word of letters, and the first tag of that name in
small letters has no day yet and the given text for its value. -/
def RefersTo (tags : TagTable) (expr text : Text) : Prop :=
  ∃ e, Expression.parse expr = .ok e ∧ (e.base ≠ [] ∧ ∀ c ∈ e.base, isLatin c = true) ∧
    ∃ entry, tags.find? (Text.lower e.base) = some entry ∧ entry.date = none ∧
      entry.raw = some text

/-- The text reached by following so many references. -/
def follow (tags : TagTable) : Nat → Text → Option Text
  | 0, expr => some expr
  | n + 1, expr => (tags.reference? expr).bind fun r ↦ tags.follow n r.text

/-- The tags passed while following so many references, or as many as there are. -/
def trail (tags : TagTable) : Nat → Text → List Text
  | 0, _ => []
  | n + 1, expr =>
    match tags.reference? expr with
    | some r => r.name :: tags.trail n r.text
    | none => []

/-! ## What a table says of a name -/

theorem value?_eq_raw_iff {tags : TagTable} {name text : Text} :
    tags.value? name = some (.raw text) ↔
      ∃ entry, tags.find? name = some entry ∧ entry.date = none ∧ entry.raw = some text := by
  rw [value?, Option.bind_eq_some_iff]
  constructor
  · rintro ⟨entry, hfind, hvalue⟩
    refine ⟨entry, hfind, ?_⟩
    rw [TagEntry.value?] at hvalue
    split at hvalue
    · cases hvalue
    · next hdate hraw =>
      cases hvalue
      exact ⟨hdate, hraw⟩
    · cases hvalue
  · rintro ⟨entry, hfind, hdate, hraw⟩
    exact ⟨entry, hfind, by rw [TagEntry.value?, hdate, hraw]⟩

end TagTable

theorem error_of_bind {ε α β : Type} {x : Except ε α} {f : α → Except ε β} {error : ε}
    (h : x.bind f = .error error) : x = .error error ∨ ∃ a, x = .ok a ∧ f a = .error error := by
  cases x with
  | error e => exact Or.inl (by cases h; rfl)
  | ok a => exact Or.inr ⟨a, rfl, h⟩

theorem bind_applyOffsets_nil (answer : Except DateError Date) :
    answer.bind (applyOffsets · []) = answer := by
  cases answer <;> rfl

theorem eq_ok_of_toOption {ε α : Type} {x : Except ε α} {a : α} (h : x.toOption = some a) :
    x = .ok a := by
  cases x with
  | error => cases h
  | ok b =>
    cases h
    rfl

theorem referenceName?_eq_some_iff {token name : Text} : referenceName? token = some name ↔
    (token ≠ [] ∧ ∀ c ∈ token, isLatin c = true) ∧ Text.lower token = name := by
  rw [referenceName?]
  constructor
  · intro h
    split at h
    · next hword =>
      cases h
      simpa using hword
    · cases h
  · rintro ⟨hword, rfl⟩
    rw [if_pos (by simpa using hword)]

/-! ## References -/

namespace TagTable

variable {tags : TagTable} {expr : Text} {r : Reference}

theorem reference?_eq_some_iff : tags.reference? expr = some r ↔
    ∃ e, Expression.parse expr = .ok e ∧ referenceName? e.base = some r.name ∧
      tags.value? r.name = some (.raw r.text) ∧ e.offsets = r.offsets := by
  rw [reference?]
  constructor
  · intro h
    split at h
    · cases h
    · next e he =>
      obtain ⟨name, hname, hvalue⟩ := Option.bind_eq_some_iff.mp h
      split at hvalue
      · next text htext =>
        cases hvalue
        exact ⟨e, he, hname, htext, rfl⟩
      · cases hvalue
  · rintro ⟨e, he, hname, hvalue, hoffsets⟩
    simp only [he, hname, Option.bind_some, hvalue, hoffsets]

theorem value?_ne_raw_of_none {e : Expression} {name text : Text} (h : tags.reference? expr = none)
    (he : Expression.parse expr = .ok e) (hname : referenceName? e.base = some name) :
    tags.value? name ≠ some (.raw text) := by
  intro hvalue
  have hsome : tags.reference? expr = some ⟨name, text, e.offsets⟩ :=
    reference?_eq_some_iff.mpr ⟨e, he, hname, hvalue, rfl⟩
  rw [h] at hsome
  cases hsome

theorem refersTo_iff {text : Text} :
    tags.RefersTo expr text ↔ ∃ r, tags.reference? expr = some r ∧ r.text = text := by
  constructor
  · rintro ⟨e, he, hword, hentry⟩
    refine ⟨⟨_, text, e.offsets⟩, reference?_eq_some_iff.mpr ⟨e, he,
      referenceName?_eq_some_iff.mpr ⟨hword, rfl⟩, value?_eq_raw_iff.mpr hentry, rfl⟩, rfl⟩
  · rintro ⟨r, hr, rfl⟩
    obtain ⟨e, he, hname, hvalue, -⟩ := reference?_eq_some_iff.mp hr
    obtain ⟨hword, hlower⟩ := referenceName?_eq_some_iff.mp hname
    rw [← hlower] at hvalue
    exact ⟨e, he, hword, value?_eq_raw_iff.mp hvalue⟩

/-! ## Direct answers -/

theorem isEmpty_of_parse {e : Expression} (he : Expression.parse expr = .ok e) :
    expr.isEmpty = false := by
  cases expr with
  | nil => cases he
  | cons c s => rfl

theorem directDate_of_parse {base : Date} {soonDays : Int} {e : Expression}
    (he : Expression.parse expr = .ok e) :
    tags.directDate base soonDays expr =
      (match (referenceName? e.base).bind tags.value? with
        | some (.date d) => Except.ok d
        | _ => literalDate base soonDays e.base).bind (applyOffsets · e.offsets) := by
  simp only [directDate, he, isEmpty_of_parse he, Bool.false_eq_true, if_false]

theorem directDate_of_date {base : Date} {soonDays : Int} {e : Expression} {name : Text} {d : Date}
    (he : Expression.parse expr = .ok e) (hname : referenceName? e.base = some name)
    (hvalue : tags.value? name = some (.date d)) :
    tags.directDate base soonDays expr = applyOffsets d e.offsets := by
  rw [directDate_of_parse he, hname, Option.bind_some, hvalue]
  rfl

/-- A direct answer depends on the table only through what it says of the base. -/
theorem directDate_congr {tags' : TagTable} (base : Date) (soonDays : Int)
    (h : ∀ e, Expression.parse expr = .ok e →
      (referenceName? e.base).bind tags.value? = (referenceName? e.base).bind tags'.value?) :
    tags.directDate base soonDays expr = tags'.directDate base soonDays expr := by
  rw [directDate, directDate]
  cases he : Expression.parse expr with
  | error error => rfl
  | ok e => simp only [h e he]

theorem kind_of_directDate {base : Date} {soonDays : Int} {error : DateError}
    (h : tags.directDate base soonDays expr = .error error) :
    error.kind ∈ [Kind.empty, .date, .dayOfMonth, .base, .step, .offset] := by
  rw [directDate] at h
  split at h
  · cases h
    decide
  · split at h
    · next herror =>
      cases h
      rw [Expression.kind_of_parse herror]
      split <;> decide
    · rcases error_of_bind h with hstart | ⟨d, -, happly⟩
      · split at hstart
        · cases hstart
        · exact List.mem_append_left [Kind.base, .step, .offset] (kind_of_literalDate hstart)
      · exact List.mem_append_right [Kind.empty, .date, .dayOfMonth, .base]
          (kind_of_applyOffsets happly)

end TagTable

/-! ## One step of evaluation -/

variable {base : Date} {soonDays : Int} {tags : TagTable} {expr : Text}

theorem evaluateWithin_of_none (budget : Nat) (h : tags.reference? expr = none) :
    evaluateWithin base soonDays (budget + 1) tags expr =
      (tags.directDate base soonDays expr, tags) := by
  rw [evaluateWithin, TagTable.directDate]
  cases hempty : expr.isEmpty with
  | true => rfl
  | false =>
    cases he : Expression.parse expr with
    | error error => rfl
    | ok e =>
      cases hname : referenceName? e.base with
      | none =>
        simp only [hname, Option.bind_none]
        cases literalDate base soonDays e.base <;> rfl
      | some name =>
        cases hvalue : tags.value? name with
        | none =>
          simp only [hname, Option.bind_some, hvalue, Option.map_none]
          cases literalDate base soonDays e.base <;> rfl
        | some value =>
          cases value with
          | date d => simp [hname, hvalue, Except.bind]
          | raw text => exact absurd hvalue (TagTable.value?_ne_raw_of_none h he hname)

theorem evaluateWithin_of_some (budget : Nat) {r : Reference} (h : tags.reference? expr = some r) :
    evaluateWithin base soonDays (budget + 1) tags expr =
      ((evaluateWithin base soonDays budget tags r.text).1.bind (applyOffsets · r.offsets),
        (evaluateWithin base soonDays budget tags r.text).2.note r.name
          (evaluateWithin base soonDays budget tags r.text).1) := by
  obtain ⟨e, he, hname, hvalue, hoffsets⟩ := TagTable.reference?_eq_some_iff.mp h
  rw [evaluateWithin]
  simp only [TagTable.isEmpty_of_parse he, he, hname, hvalue, Option.bind_some, Option.map_some,
    hoffsets]
  generalize evaluateWithin base soonDays budget tags r.text = nested
  obtain ⟨answer, tags'⟩ := nested
  cases answer <;> rfl

end Agenda
