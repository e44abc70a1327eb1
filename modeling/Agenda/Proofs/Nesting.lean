import Agenda.Proofs.Reference
import Mathlib.Logic.Relation

/-!
# The limit on nested references

Evaluation carries a budget of nested evaluations and gives up when it is spent. The budget is spent
exactly if as many references can be followed one after the other, whatever stands at the end: the
last text is not looked at before the limit is, and everything on the way has to be well formed as a
whole before its base is followed. So the limit of ten references is a property of the path alone
(`evaluate_tooDeep_iff`): the evaluation fails if the path has eleven references, on a cycle in
particular, and fails in no other way for being too deep.

A day is noted for a tag only when its text has been evaluated. An evaluation that is too deep has
evaluated nothing on its path, and leaves the table as it was.

## Termination

The budget also makes evaluation a recursion on a number. That is a matter of presentation: the same
recursion with its depth counted upwards, and the comparison with the limit as the only thing to
stop it, is the relation `Evaluates`, and it arrives at one result from every start
(`evaluates_iff`).
-/

namespace Agenda

/-- The answer is that a chain of references is too deep. -/
def IsTooDeep (answer : Except DateError Date) : Prop :=
  ∃ error, answer = .error error ∧ error.kind = .depth

theorem isTooDeep_tooDeep (expr : Text) : IsTooDeep (.error (.tooDeep expr)) := ⟨_, rfl, rfl⟩

theorem not_isTooDeep_ok {d : Date} : ¬ IsTooDeep (.ok d) := by
  rintro ⟨_, hok, _⟩
  cases hok

variable {base : Date} {soonDays : Int} {tags : TagTable} {expr : Text}

theorem not_isTooDeep_directDate : ¬ IsTooDeep (tags.directDate base soonDays expr) :=
  fun ⟨_, hanswer, hkind⟩ ↦
    ne_of_mem_of_not_mem (TagTable.kind_of_directDate hanswer) (by decide) hkind

/-- Offsets do not make an answer too deep, and do not help one that is. -/
theorem isTooDeep_bind_iff {answer : Except DateError Date} {offsets : List Offset} :
    IsTooDeep (answer.bind (applyOffsets · offsets)) ↔ IsTooDeep answer := by
  constructor
  · rintro ⟨error, hanswer, hkind⟩
    rcases error_of_bind hanswer with hanswer | ⟨d, -, happly⟩
    · exact ⟨error, hanswer, hkind⟩
    · exact absurd hkind (ne_of_mem_of_not_mem (kind_of_applyOffsets happly) (by decide))
  · rintro ⟨error, rfl, hkind⟩
    exact ⟨error, rfl, hkind⟩

/-! ## The path and the budget -/

/-- A path as long as the budget uses it up, and nothing is noted on the way. -/
theorem evaluateWithin_of_follow {n : Nat} {last : Text} (h : tags.follow n expr = some last) :
    evaluateWithin base soonDays n tags expr = (.error (.tooDeep last), tags) := by
  induction n generalizing expr with
  | zero =>
    cases h
    rw [evaluateWithin]
  | succ n ih =>
    obtain ⟨r, hr, hlast⟩ := Option.bind_eq_some_iff.mp h
    rw [evaluateWithin_of_some n hr, ih hlast]
    rfl

theorem not_isTooDeep_of_follow {n : Nat} (h : tags.follow n expr = none) :
    ¬ IsTooDeep (evaluateWithin base soonDays n tags expr).1 := by
  induction n generalizing expr with
  | zero => cases h
  | succ n ih =>
    cases hr : tags.reference? expr with
    | none =>
      rw [evaluateWithin_of_none n hr]
      exact not_isTooDeep_directDate
    | some r =>
      rw [TagTable.follow, hr, Option.bind_some] at h
      rw [evaluateWithin_of_some n hr, isTooDeep_bind_iff]
      exact ih h

theorem isTooDeep_iff_follow {n : Nat} :
    IsTooDeep (evaluateWithin base soonDays n tags expr).1 ↔
      ∃ last, tags.follow n expr = some last := by
  constructor
  · intro h
    cases hlast : tags.follow n expr with
    | none => exact absurd h (not_isTooDeep_of_follow hlast)
    | some last => exact ⟨last, rfl⟩
  · rintro ⟨last, hlast⟩
    rw [evaluateWithin_of_follow hlast]
    exact isTooDeep_tooDeep last

namespace TagTable

theorem follow_succ_iff {n : Nat} {last : Text} : tags.follow (n + 1) expr = some last ↔
    ∃ text, tags.RefersTo expr text ∧ tags.follow n text = some last := by
  rw [follow, Option.bind_eq_some_iff]
  constructor
  · rintro ⟨r, hr, hlast⟩
    exact ⟨r.text, refersTo_iff.mpr ⟨r, hr, rfl⟩, hlast⟩
  · rintro ⟨text, htext, hlast⟩
    obtain ⟨r, hr, rfl⟩ := refersTo_iff.mp htext
    exact ⟨r, hr, hlast⟩

theorem exists_follow_iff {n : Nat} : (∃ last, tags.follow n expr = some last) ↔
    ∃ chain : Nat → Text, chain 0 = expr ∧ ∀ i < n, tags.RefersTo (chain i) (chain (i + 1)) := by
  induction n generalizing expr with
  | zero => exact ⟨fun _ ↦ ⟨fun _ ↦ expr, rfl, by simp⟩, fun _ ↦ ⟨expr, rfl⟩⟩
  | succ n ih =>
    constructor
    · rintro ⟨last, hlast⟩
      obtain ⟨text, htext, hlast⟩ := follow_succ_iff.mp hlast
      obtain ⟨chain, rfl, hchain⟩ := ih.mp ⟨last, hlast⟩
      refine ⟨fun i ↦ i.casesOn expr chain, rfl, fun i hi ↦ ?_⟩
      cases i with
      | zero => exact htext
      | succ i => exact hchain i (by omega)
    · rintro ⟨chain, rfl, hchain⟩
      obtain ⟨last, hlast⟩ := ih.mpr ⟨fun i ↦ chain (i + 1), rfl,
        fun i hi ↦ hchain (i + 1) (by omega)⟩
      exact ⟨last, follow_succ_iff.mpr ⟨chain 1, hchain 0 (by omega), hlast⟩⟩

/-- A path that runs into a cycle is as long as one likes. -/
theorem exists_follow_of_cycle {text : Text} (hpath : Relation.ReflTransGen tags.RefersTo expr text)
    (hcycle : Relation.TransGen tags.RefersTo text text) (n : Nat) :
    ∃ last, tags.follow n expr = some last := by
  induction n generalizing expr with
  | zero => exact ⟨expr, rfl⟩
  | succ n ih =>
    -- one more reference can be followed, and the cycle is still ahead
    obtain ⟨next, hnext, hrest⟩ : ∃ next, tags.RefersTo expr next ∧
        Relation.ReflTransGen tags.RefersTo next text := by
      rcases Relation.ReflTransGen.cases_head hpath with rfl | hstep
      · exact Relation.TransGen.head'_iff.mp hcycle
      · exact hstep
    obtain ⟨last, hlast⟩ := ih hrest
    exact ⟨last, follow_succ_iff.mpr ⟨next, hnext, hlast⟩⟩

end TagTable

/-! ## Counting upwards -/

/-- Evaluation at a depth, which is compared with the limit before anything else. -/
inductive Evaluates (base : Date) (soonDays : Int) (tags : TagTable) :
    Nat → Text → Except DateError Date × TagTable → Prop
  | tooDeep {depth : Nat} {expr : Text} (h : 10 < depth) :
      Evaluates base soonDays tags depth expr (.error (.tooDeep expr), tags)
  | direct {depth : Nat} {expr : Text} (h : depth ≤ 10) (hr : tags.reference? expr = none) :
      Evaluates base soonDays tags depth expr (tags.directDate base soonDays expr, tags)
  | nested {depth : Nat} {expr : Text} {r : Reference} {result : Except DateError Date × TagTable}
      (h : depth ≤ 10) (hr : tags.reference? expr = some r)
      (hnested : Evaluates base soonDays tags (depth + 1) r.text result) :
      Evaluates base soonDays tags depth expr
        (result.1.bind (applyOffsets · r.offsets), result.2.note r.name result.1)

/-- Evaluation at every depth arrives at one result, that of the budget still left. -/
theorem evaluates_iff {depth : Nat} {result : Except DateError Date × TagTable} :
    Evaluates base soonDays tags depth expr result ↔
      result = evaluateWithin base soonDays (11 - depth) tags expr := by
  constructor
  · intro h
    -- the budget and the depth add up to eleven all the way down
    induction h with
    | tooDeep h =>
      rw [show 11 - _ = 0 from by omega, evaluateWithin]
    | @direct depth expr h hr =>
      rw [show 11 - depth = 10 - depth + 1 by omega, evaluateWithin_of_none _ hr]
    | @nested depth expr r result h hr _ ih =>
      rw [show 11 - depth = 11 - (depth + 1) + 1 by omega, evaluateWithin_of_some _ hr, ← ih]
  · rintro rfl
    induction hn : 11 - depth generalizing depth expr with
    | zero =>
      rw [evaluateWithin]
      exact .tooDeep (by omega)
    | succ n ih =>
      cases hr : tags.reference? expr with
      | none =>
        rw [evaluateWithin_of_none n hr]
        exact .direct (by omega) hr
      | some r =>
        rw [evaluateWithin_of_some n hr]
        exact .nested (by omega) hr (ih (by omega))

/-! ## The limit -/

/-- **The limit is exact.** An evaluation is too deep if and only if eleven references can be
followed from its expression; running into a cycle is one way for that to happen. Every evaluation
arrives at one result, and one that is too deep leaves the table as it was. -/
theorem evaluate_tooDeep_iff (base : Date) (soonDays : Int) (tags : TagTable) (expr : Text) :
    (IsTooDeep (evaluate base soonDays tags expr).1 ↔
      ∃ chain : Nat → Text, chain 0 = expr ∧ ∀ i ≤ 10, tags.RefersTo (chain i) (chain (i + 1))) ∧
    (∀ text, Relation.ReflTransGen tags.RefersTo expr text →
      Relation.TransGen tags.RefersTo text text → IsTooDeep (evaluate base soonDays tags expr).1) ∧
    (∀ result, Evaluates base soonDays tags 0 expr result ↔
      result = evaluate base soonDays tags expr) ∧
    (IsTooDeep (evaluate base soonDays tags expr).1 →
      (evaluate base soonDays tags expr).2 = tags) := by
  refine ⟨?_, fun text hpath hcycle ↦ ?_, fun result ↦ evaluates_iff, fun hdeep ↦ ?_⟩
  · rw [evaluate, isTooDeep_iff_follow, TagTable.exists_follow_iff]
    simp only [nestingLimit, Nat.lt_succ_iff]
  · exact isTooDeep_iff_follow.mpr (TagTable.exists_follow_of_cycle hpath hcycle nestingLimit)
  · obtain ⟨last, hlast⟩ := isTooDeep_iff_follow.mp hdeep
    rw [evaluate, evaluateWithin_of_follow hlast]

end Agenda
