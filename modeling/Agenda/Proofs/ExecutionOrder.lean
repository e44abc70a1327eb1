import Agenda.Proofs.Memory

/-!
# Does the order of evaluations matter?

A noted day cuts a path short: the references behind it need not be followed again, and so do not
count against the limit either. Otherwise a noted day stands for the same answer as its text. What
an evaluation answers therefore depends on the evaluations before it in one case only. The
expression leads through more references than the limit allows, and one of the first eleven tags on
its path has been noted by an evaluation that started nearer to the end. Then the answer is the one
without a limit, where an untouched table would have the evaluation fail (`evaluate_after_ne_iff`).

The case does occur. Along the chain of tags `ladder`, the last tag is too far from the first, and
has a day once the one before it has been asked for (`outcome_depends_on_order`).
-/

namespace Agenda

variable {base : Date} {soonDays : Int} {tags tags' : TagTable} {expr : Text}

/-! ## Paths through a table that has learned -/

namespace TagTable

variable {right : Text → Date → Prop}

theorem Learns.follow_of_some (h : tags.Learns right tags') {n : Nat} {last : Text}
    (hlast : tags'.follow n expr = some last) : tags.follow n expr = some last := by
  induction n generalizing expr with
  | zero => exact hlast
  | succ n ih =>
    obtain ⟨r, hr, hrest⟩ := Option.bind_eq_some_iff.mp hlast
    rw [follow, h.reference?_of_some hr, Option.bind_some]
    exact ih hrest

/-- A path is cut short where a tag on it has been noted, and nowhere else. -/
theorem Learns.follow_eq_none_iff (h : tags.Learns right tags') {n : Nat} {last : Text}
    (hlast : tags.follow n expr = some last) : tags'.follow n expr = none ↔
      ∃ name ∈ tags.trail n expr, ∃ d, tags'.value? name = some (.date d) := by
  induction n generalizing expr with
  | zero => simp [follow, trail]
  | succ n ih =>
    obtain ⟨r, hr, hrest⟩ := Option.bind_eq_some_iff.mp hlast
    simp only [follow, trail, hr, List.exists_mem_cons_iff]
    rcases h.reference?_or hr with hsame | ⟨hnone, d, hdate, -⟩
    · -- the tag is still a text, so it is a later one that has been noted
      obtain ⟨_, _, _, hvalue, _⟩ := reference?_eq_some_iff.mp hsame
      rw [hsame, Option.bind_some, ih hrest]
      constructor
      · exact Or.inr
      · rintro (⟨d, hd⟩ | hlater)
        · rw [hvalue] at hd
          cases hd
        · exact hlater
    · rw [hnone, Option.bind_none]
      exact ⟨fun _ ↦ Or.inl ⟨d, hdate⟩, fun _ ↦ rfl⟩

end TagTable

/-! ## Answers over a table that has learned -/

theorem evaluateWithin_eq_of_isTooDeep (h : tags.Learns (Gives base soonDays tags) tags') {n : Nat}
    (hdeep : IsTooDeep (evaluateWithin base soonDays n tags' expr).1) :
    (evaluateWithin base soonDays n tags' expr).1 =
      (evaluateWithin base soonDays n tags expr).1 := by
  obtain ⟨last, hlast⟩ := isTooDeep_iff_follow.mp hdeep
  rw [evaluateWithin_of_follow hlast, evaluateWithin_of_follow (h.follow_of_some hlast)]

theorem evaluateWithin_eq_of_not_isTooDeep (h : tags.Learns (Gives base soonDays tags) tags')
    {n : Nat} (hdeep : ¬ IsTooDeep (evaluateWithin base soonDays n tags expr).1) :
    (evaluateWithin base soonDays n tags' expr).1 =
      (evaluateWithin base soonDays n tags expr).1 := by
  by_contra hne
  have hfresh := (evaluateWithin_sound (.refl _ tags) n expr).2 hdeep
  have hlater := (evaluateWithin_sound h n expr).2
    fun hdeep' ↦ hne (evaluateWithin_eq_of_isTooDeep h hdeep')
  exact hne (hlater.unique hfresh)

theorem evaluateWithin_ne_iff (h : tags.Learns (Gives base soonDays tags) tags') {n : Nat} :
    (evaluateWithin base soonDays n tags' expr).1 ≠ (evaluateWithin base soonDays n tags expr).1 ↔
      IsTooDeep (evaluateWithin base soonDays n tags expr).1 ∧
        ∃ name ∈ tags.trail n expr, ∃ d, tags'.value? name = some (.date d) := by
  by_cases hdeep : IsTooDeep (evaluateWithin base soonDays n tags expr).1
  · -- the answers differ exactly if the path is cut short
    obtain ⟨last, hlast⟩ := isTooDeep_iff_follow.mp hdeep
    rw [and_iff_right hdeep, ← h.follow_eq_none_iff hlast]
    constructor
    · intro hne
      cases hlast' : tags'.follow n expr with
      | none => rfl
      | some last' =>
        refine absurd (evaluateWithin_eq_of_isTooDeep h ?_) hne
        exact isTooDeep_iff_follow.mpr ⟨last', hlast'⟩
    · intro hnone heq
      rw [← heq] at hdeep
      exact not_isTooDeep_of_follow hnone hdeep
  · refine iff_of_false ?_ fun ⟨hdeep', _⟩ ↦ hdeep hdeep'
    rw [not_ne_iff]
    exact evaluateWithin_eq_of_not_isTooDeep h hdeep

/-! ## Runs -/

/-- **Where the order matters.** After any evaluations, an expression has the answer that it has
over the untouched table, message included, unless that answer is that the path is too deep and a
day has been noted for one of the first eleven tags on the path. In that case, and in no other, the
answer differs; it is not too deep then, and is what the expression denotes. -/
theorem evaluate_after_ne_iff (base : Date) (soonDays : Int) (tags : TagTable) (history : List Text)
    (expr : Text) :
    ((evaluate base soonDays (tableAfter base soonDays tags history) expr).1 ≠
        (evaluate base soonDays tags expr).1 ↔
      IsTooDeep (evaluate base soonDays tags expr).1 ∧ ∃ name ∈ tags.trail nestingLimit expr,
        ∃ d, (tableAfter base soonDays tags history).value? name = some (.date d)) ∧
    ((evaluate base soonDays (tableAfter base soonDays tags history) expr).1 ≠
        (evaluate base soonDays tags expr).1 →
      ¬ IsTooDeep (evaluate base soonDays (tableAfter base soonDays tags history) expr).1 ∧
      Denotes base soonDays tags expr
        (evaluate base soonDays (tableAfter base soonDays tags history) expr).1) := by
  have h := learns_tableAfter (.refl (Gives base soonDays tags) tags) history
  refine ⟨evaluateWithin_ne_iff h, fun hne ↦ ?_⟩
  -- an answer that is still too deep would be the same
  have hdeep :
      ¬ IsTooDeep (evaluate base soonDays (tableAfter base soonDays tags history) expr).1 :=
    fun hdeep ↦ hne (evaluateWithin_eq_of_isTooDeep h hdeep)
  exact ⟨hdeep, (evaluateWithin_sound h nestingLimit expr).2 hdeep⟩

/-- Eleven tags, `a` to `k`, each the day after the one before. -/
def ladder : TagTable :=
  ⟨⟨['a'], some "2020-01-01".toList, none⟩ ::
    ("bcdefghijk".toList.zip "abcdefghij".toList).map fun (name, below) ↦
      ⟨[name], some (below :: "+1d".toList), none⟩⟩

/-- The order matters: on the ladder, `k` alone is too deep, and has a day after `j`. -/
theorem outcome_depends_on_order :
    ¬ ∀ (base : Date) (soonDays : Int) (tags : TagTable) (history : List Text) (expr : Text),
      (evaluate base soonDays (tableAfter base soonDays tags history) expr).1.mapError
        DateError.kind = (evaluate base soonDays tags expr).1.mapError DateError.kind := by
  intro h
  let base : Date := ⟨2020, 3, 15, by decide⟩
  have heq := h base 6 ladder [['j']] ['k']
  obtain ⟨error, halone, -⟩ : IsTooDeep (evaluate base 6 ladder ['k']).1 :=
    isTooDeep_iff_follow.mpr ⟨"2020-01-01".toList, by decide +kernel⟩
  have hafter : (evaluate base 6 (tableAfter base 6 ladder [['j']]) ['k']).1.toOption =
      some ⟨2020, 1, 11, by decide⟩ := by decide +kernel
  cases hlater : (evaluate base 6 (tableAfter base 6 ladder [['j']]) ['k']).1 with
  | error =>
    rw [hlater] at hafter
    cases hafter
  | ok d =>
    rw [hlater, halone] at heq
    cases heq

end Agenda
