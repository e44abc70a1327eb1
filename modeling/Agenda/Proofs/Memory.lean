import Agenda.Proofs.Nesting
import Mathlib.Data.List.Forall2

/-!
# Noted days

Evaluation notes the day of every tag that it resolves, and later evaluations take the noted day for
the text. The reference point is evaluation that notes nothing and gives up at no depth. It need not
come to an end, so it is a relation, `Denotes`; it has at most one answer, and that is the answer of
evaluation with a budget that is large enough (`denotes_iff_evaluateWithin`).

## The invariant

A table may come to know more than it did at the start. What it `Learns` are days of single entries:
no entry is added, dropped or moved, none changes its name or its text, and none is told a second
day. Every day learned is the one that the text denotes *over the table of the start*. This is what
makes the invariant go through. A learned day stands for a text in every later step, so a step over
the table as it is now answers as the steps over the first table do, and what it goes on to note is
right for the first table again (`evaluateWithin_sound`).

That an evaluation fails further up does not matter: the days below were found by evaluations that
succeeded. Nor do cycles, since no tag on the way to one denotes a day.
-/

namespace Agenda

/-! ## Evaluation without memory -/

/-- The answer to an expression if nothing is noted and references are followed to their end. -/
inductive Denotes (base : Date) (soonDays : Int) (tags : TagTable) :
    Text → Except DateError Date → Prop
  | direct {expr : Text} (h : tags.reference? expr = none) :
      Denotes base soonDays tags expr (tags.directDate base soonDays expr)
  | reference {expr : Text} {r : Reference} {answer : Except DateError Date}
      (h : tags.reference? expr = some r) (hr : Denotes base soonDays tags r.text answer) :
      Denotes base soonDays tags expr (answer.bind (applyOffsets · r.offsets))

/-- A day is the one answer to an expression. -/
def Gives (base : Date) (soonDays : Int) (tags : TagTable) (expr : Text) (d : Date) : Prop :=
  ∀ answer, Denotes base soonDays tags expr answer ↔ answer = .ok d

/-- An entry keeps what it has, except that one with a text may learn a right day for it. -/
inductive TagEntry.Learns (right : Text → Date → Prop) : TagEntry → TagEntry → Prop
  | refl (e : TagEntry) : Learns right e e
  | day (name : Text) {text : Text} {d : Date} (h : right text d) :
      Learns right ⟨name, some text, none⟩ ⟨name, some text, some d⟩

/-- The entries of a table, one by one, keep what they have or learn a right day. -/
def TagTable.Learns (right : Text → Date → Prop) (tags tags' : TagTable) : Prop :=
  List.Forall₂ (TagEntry.Learns right) tags.entries tags'.entries

/-- The table after the evaluation of expressions in turn, whatever their answers. -/
def tableAfter (base : Date) (soonDays : Int) (tags : TagTable) (exprs : List Text) : TagTable :=
  exprs.foldl (fun tags expr ↦ (evaluate base soonDays tags expr).2) tags

variable {base : Date} {soonDays : Int} {tags tags' tags'' : TagTable} {expr : Text}

theorem Denotes.unique {answer answer' : Except DateError Date}
    (h : Denotes base soonDays tags expr answer) (h' : Denotes base soonDays tags expr answer') :
    answer = answer' := by
  induction h generalizing answer' with
  | direct h =>
    cases h' with
    | direct => rfl
    | reference hr => cases h.symm.trans hr
  | reference h _ ih =>
    cases h' with
    | direct hr => cases hr.symm.trans h
    | reference hr hnested =>
      cases h.symm.trans hr
      rw [ih hnested]

theorem gives_iff {d : Date} :
    Gives base soonDays tags expr d ↔ Denotes base soonDays tags expr (.ok d) := by
  constructor
  · intro h
    exact (h _).mpr rfl
  · rintro h answer
    refine ⟨fun hanswer ↦ hanswer.unique h, ?_⟩
    rintro rfl
    exact h

theorem Gives.unique {d d' : Date} (h : Gives base soonDays tags expr d)
    (h' : Gives base soonDays tags expr d') : d = d' := by
  cases (h _).mp (gives_iff.mp h')
  rfl

/-! ## Learning -/

section Learns

variable {right : Text → Date → Prop}

theorem TagEntry.Learns.trans {e e' e'' : TagEntry} (h : e.Learns right e')
    (h' : e'.Learns right e'') : e.Learns right e'' := by
  cases h with
  | refl => exact h'
  | day name hright =>
    -- with a day there is no more to learn
    cases h'
    exact .day name hright

theorem TagEntry.Learns.name_eq {e e' : TagEntry} (h : e.Learns right e') : e'.name = e.name := by
  cases h <;> rfl

namespace TagTable

theorem Learns.refl (right : Text → Date → Prop) (tags : TagTable) : tags.Learns right tags :=
  List.forall₂_same.mpr fun e _ ↦ .refl e

theorem Learns.trans (h : tags.Learns right tags') (h' : tags'.Learns right tags'') :
    tags.Learns right tags'' := by
  obtain ⟨es⟩ := tags
  obtain ⟨es'⟩ := tags'
  obtain ⟨es''⟩ := tags''
  simp only [Learns] at h h' ⊢
  induction h generalizing es'' with
  | nil => exact h'
  | cons he _ ih =>
    cases h' with
    | cons he' hes' => exact .cons (he.trans he') (ih _ hes')

theorem Learns.find? (h : tags.Learns right tags') (name : Text) :
    Option.Rel (TagEntry.Learns right) (tags.find? name) (tags'.find? name) := by
  obtain ⟨es⟩ := tags
  obtain ⟨es'⟩ := tags'
  simp only [Learns] at h
  simp only [TagTable.find?]
  induction h with
  | nil => exact .none
  | @cons e e' es es' he _ ih =>
    rw [List.find?_cons, List.find?_cons, he.name_eq]
    cases e.name == name with
    | true => exact .some he
    | false => exact ih

/-- The table says what it said of a name, or gives a right day for the text it gave. -/
theorem Learns.value? (h : tags.Learns right tags') (name : Text) :
    tags'.value? name = tags.value? name ∨ ∃ text d, tags.value? name = some (.raw text) ∧
      tags'.value? name = some (.date d) ∧ right text d := by
  have hrel := h.find? name
  rw [TagTable.value?, TagTable.value?]
  generalize tags.find? name = found, tags'.find? name = found' at hrel
  cases hrel with
  | none => exact Or.inl rfl
  | some he =>
    cases he with
    | refl => exact Or.inl rfl
    | day _ hright => exact Or.inr ⟨_, _, rfl, rfl, hright⟩

theorem learns_set {name : Text} {d : Date}
    (h : ∀ e, tags.find? name = some e → e.Learns right { e with date := some d }) :
    tags.Learns right (tags.set name d) := by
  obtain ⟨es⟩ := tags
  simp only [TagTable.find?] at h
  simp only [Learns, set]
  induction es with
  | nil => exact .nil
  | cons e es ih =>
    rw [setEntries]
    split
    · next hname =>
      exact .cons (h e (by simp [hname])) (List.forall₂_same.mpr fun e _ ↦ .refl e)
    · next hname =>
      refine .cons (.refl e) (ih fun e' he' ↦ h e' ?_)
      rw [List.find?_cons_of_neg (by simpa using hname)]
      exact he'

/-- Setting the right day of a text is learning, also if the table has learned it in between. -/
theorem Learns.set {name text : Text} {d : Date} (h : tags.Learns right tags')
    (hvalue : tags.value? name = some (.raw text)) (hd : right text d)
    (hunique : ∀ d', right text d' → d' = d) : tags.Learns right (tags'.set name d) := by
  refine h.trans (learns_set fun e' he' ↦ ?_)
  obtain ⟨⟨name', _, _⟩, he, hdate, hraw⟩ := value?_eq_raw_iff.mp hvalue
  cases hdate
  cases hraw
  have hrel := h.find? name
  rw [he, he'] at hrel
  cases hrel with
  | some hlearns =>
    cases hlearns with
    | refl => exact .day name' hd
    | day _ hd' =>
      rw [hunique _ hd']
      exact .refl _

/-! ## References in a table that has learned -/

theorem Learns.reference?_of_some {r : Reference} (h : tags.Learns right tags')
    (hr : tags'.reference? expr = some r) : tags.reference? expr = some r := by
  obtain ⟨e, he, hname, hvalue, hoffsets⟩ := reference?_eq_some_iff.mp hr
  refine reference?_eq_some_iff.mpr ⟨e, he, hname, ?_, hoffsets⟩
  rcases h.value? r.name with heq | ⟨_, _, _, hdate, _⟩
  · rw [← heq, hvalue]
  · rw [hvalue] at hdate
    cases hdate

theorem Learns.reference?_or {r : Reference} (h : tags.Learns right tags')
    (hr : tags.reference? expr = some r) :
    tags'.reference? expr = some r ∨ tags'.reference? expr = none ∧
      ∃ d, tags'.value? r.name = some (.date d) ∧ right r.text d := by
  obtain ⟨e, he, hname, hvalue, hoffsets⟩ := reference?_eq_some_iff.mp hr
  rcases h.value? r.name with heq | ⟨text, d, htext, hdate, hright⟩
  · exact Or.inl (reference?_eq_some_iff.mpr ⟨e, he, hname, heq.trans hvalue, hoffsets⟩)
  · rw [hvalue] at htext
    cases htext
    refine Or.inr ⟨?_, d, hdate, hright⟩
    simp only [reference?, he, hname, Option.bind_some, hdate]

end TagTable

end Learns

/-! ## Soundness -/

/-- An expression that makes no reference any more still has the answer it had at the start. -/
theorem denotes_directDate (h : tags.Learns (Gives base soonDays tags) tags')
    (hr : tags'.reference? expr = none) :
    Denotes base soonDays tags expr (tags'.directDate base soonDays expr) := by
  cases hfirst : tags.reference? expr with
  | none =>
    have heq : tags.directDate base soonDays expr = tags'.directDate base soonDays expr := by
      refine TagTable.directDate_congr base soonDays fun e he ↦ ?_
      cases hname : referenceName? e.base with
      | none => rfl
      | some name =>
        rcases h.value? name with heq | ⟨_, _, htext, _⟩
        · exact heq.symm
        · exact absurd htext (TagTable.value?_ne_raw_of_none hfirst he hname)
    rw [← heq]
    exact .direct hfirst
  | some r =>
    obtain ⟨e, he, hname, -, hoffsets⟩ := TagTable.reference?_eq_some_iff.mp hfirst
    rcases h.reference?_or hfirst with hsome | ⟨-, d, hdate, hd⟩
    · rw [hr] at hsome
      cases hsome
    · rw [TagTable.directDate_of_date he hname hdate, hoffsets]
      exact .reference hfirst (gives_iff.mp hd)

/-- **One evaluation.** Over a table that has learned right days, an evaluation only learns right
days, and answers what evaluation without memory answers unless it is too deep. -/
theorem evaluateWithin_sound (h : tags.Learns (Gives base soonDays tags) tags') (n : Nat)
    (expr : Text) :
    tags'.Learns (Gives base soonDays tags) (evaluateWithin base soonDays n tags' expr).2 ∧
    (¬ IsTooDeep (evaluateWithin base soonDays n tags' expr).1 →
      Denotes base soonDays tags expr (evaluateWithin base soonDays n tags' expr).1) := by
  induction n generalizing expr with
  | zero => exact ⟨.refl _ _, fun hdeep ↦ absurd (isTooDeep_tooDeep expr) hdeep⟩
  | succ n ih =>
    cases hr : tags'.reference? expr with
    | none =>
      rw [evaluateWithin_of_none n hr]
      exact ⟨.refl _ _, fun _ ↦ denotes_directDate h hr⟩
    | some r =>
      obtain ⟨hlearns, hanswer⟩ := ih r.text
      rw [evaluateWithin_of_some n hr]
      refine ⟨?_, fun hdeep ↦ ?_⟩
      · cases hd : (evaluateWithin base soonDays n tags' r.text).1 with
        | error error => exact hlearns
        | ok d =>
          -- the nested evaluation may have noted the tag already, but then with this day
          rw [hd] at hanswer
          have hgives : Gives base soonDays tags r.text d :=
            gives_iff.mpr (hanswer not_isTooDeep_ok)
          obtain ⟨_, _, _, hvalue, _⟩ := TagTable.reference?_eq_some_iff.mp hr
          exact hlearns.set hvalue hgives fun d' hd' ↦ hd'.unique hgives
      · exact .reference (h.reference?_of_some hr)
          (hanswer fun hnested ↦ hdeep (isTooDeep_bind_iff.mpr hnested))

/-- Evaluation without memory is evaluation with as much budget as it takes. -/
theorem denotes_iff_evaluateWithin {answer : Except DateError Date} :
    Denotes base soonDays tags expr answer ↔
      ¬ IsTooDeep answer ∧ ∃ n, (evaluateWithin base soonDays n tags expr).1 = answer := by
  constructor
  · intro h
    induction h with
    | direct h => exact ⟨not_isTooDeep_directDate, 1, by rw [evaluateWithin_of_none 0 h]⟩
    | reference h _ ih =>
      obtain ⟨hdeep, n, hn⟩ := ih
      exact ⟨isTooDeep_bind_iff.not.mpr hdeep, n + 1, by rw [evaluateWithin_of_some n h, hn]⟩
  · rintro ⟨hdeep, n, rfl⟩
    exact (evaluateWithin_sound (.refl _ tags) n _).2 hdeep

/-! ## Runs -/

theorem tableAfter_append (exprs exprs' : List Text) :
    tableAfter base soonDays tags (exprs ++ exprs') =
      tableAfter base soonDays (tableAfter base soonDays tags exprs) exprs' :=
  List.foldl_append

theorem learns_tableAfter (h : tags.Learns (Gives base soonDays tags) tags') (exprs : List Text) :
    tags'.Learns (Gives base soonDays tags) (tableAfter base soonDays tags' exprs) := by
  -- every evaluation learns, and what was learned stays
  induction exprs generalizing tags' with
  | nil => exact .refl _ _
  | cons expr exprs ih =>
    have hstep : tags'.Learns _ (evaluate base soonDays tags' expr).2 :=
      (evaluateWithin_sound h nestingLimit expr).1
    exact hstep.trans (ih (h.trans hstep))

/-- **Memory is sound.** In any run of evaluations over a table, from any moment to any later one,
the table learns nothing but days that the texts denote over the first table; and every day that is
an answer, whatever was evaluated before, is the one that the expression denotes there. -/
theorem tableAfter_sound (base : Date) (soonDays : Int) (tags : TagTable) :
    (∀ earlier later, (tableAfter base soonDays tags earlier).Learns (Gives base soonDays tags)
      (tableAfter base soonDays tags (earlier ++ later))) ∧
    ∀ history expr d,
      (evaluate base soonDays (tableAfter base soonDays tags history) expr).1 = .ok d →
        Gives base soonDays tags expr d := by
  refine ⟨fun earlier later ↦ ?_, fun history expr d hd ↦ ?_⟩
  · rw [tableAfter_append]
    exact learns_tableAfter (learns_tableAfter (.refl _ tags) earlier) later
  · have hlearns := learns_tableAfter (.refl (Gives base soonDays tags) tags) history
    have hanswer := (evaluateWithin_sound hlearns nestingLimit expr).2
    rw [← evaluate, hd] at hanswer
    exact gives_iff.mpr (hanswer not_isTooDeep_ok)

end Agenda
