import Agenda.Proofs.MainTags

/-!
# What a rewritten text means

Rewriting writes out days. From the year 1000 on a written day is read back as itself, so a table in
which texts have been written out as the days that they denote (`WrittenOut`) answers every
expression that the first table answers, and with the same day. Its paths are not longer, so the
limit on nested references is no obstacle either; the converse fails for that reason.

A rewritten text has such a table. So it means what the text meant (`evaluate_resolveText`), even
though the first occurrence of a value is replaced where the last one is read.

## Rewriting twice

That difference shows when a rewritten text is rewritten again. Each word is replaced once, so where
a value that is read stands in the text several times, the last one is still there afterwards and is
replaced the next time. Where each stands there once, one time is enough
(`resolveText_resolveText_iff`).
-/

namespace Agenda

variable {base : Date} {soonDays : Int} {tags tags' : TagTable} {expr text r : Text} {d : Date}

/-! ## Writing out days -/

/-- The tables differ in texts that one of them has written out as the days that they denote. -/
def TagTable.WrittenOut (base : Date) (soonDays : Int) (tags tags' : TagTable) : Prop :=
  ∀ name, tags'.value? name = tags.value? name ∨
    ∃ text d, tags.value? name = some (.raw text) ∧ tags'.value? name = some (.raw d.toText) ∧
      Gives base soonDays tags text d ∧ 1000 ≤ d.year

namespace TagTable

theorem WrittenOut.reference?_of_none (h : tags.WrittenOut base soonDays tags')
    (hr : tags.reference? expr = none) : tags'.reference? expr = none := by
  by_contra hsome
  obtain ⟨r, hr'⟩ := Option.ne_none_iff_exists'.mp hsome
  obtain ⟨e, he, hname, hvalue, -⟩ := reference?_eq_some_iff.mp hr'
  obtain ⟨text, htext⟩ : ∃ text, tags.value? r.name = some (.raw text) := by
    rcases h r.name with heq | ⟨text, -, htext, -⟩
    · exact ⟨r.text, by rw [← heq, hvalue]⟩
    · exact ⟨text, htext⟩
  have hfound : tags.reference? expr = some ⟨r.name, text, e.offsets⟩ :=
    reference?_eq_some_iff.mpr ⟨e, he, hname, htext, rfl⟩
  rw [hr] at hfound
  cases hfound

theorem WrittenOut.directDate_eq (h : tags.WrittenOut base soonDays tags')
    (hr : tags.reference? expr = none) :
    tags'.directDate base soonDays expr = tags.directDate base soonDays expr := by
  refine directDate_congr base soonDays fun e he ↦ ?_
  cases hname : referenceName? e.base with
  | none => rfl
  | some name =>
    rcases h name with heq | ⟨text, -, htext, -⟩
    · exact heq
    · have hfound : tags.reference? expr = some ⟨name, text, e.offsets⟩ :=
        reference?_eq_some_iff.mpr ⟨e, he, hname, htext, rfl⟩
      rw [hr] at hfound
      cases hfound

end TagTable

/-- **Days may be written out.** An evaluation that answers with a day does so, with the same
budget, over a table in which texts are written out as their days. -/
theorem evaluateWithin_of_writtenOut (h : tags.WrittenOut base soonDays tags') {n : Nat}
    (hd : (evaluateWithin base soonDays n tags expr).1 = .ok d) :
    (evaluateWithin base soonDays n tags' expr).1 = .ok d := by
  induction n generalizing expr d with
  | zero =>
    rw [evaluateWithin] at hd
    cases hd
  | succ n ih =>
    cases hr : tags.reference? expr with
    | none =>
      rw [evaluateWithin_of_none n hr] at hd
      rw [evaluateWithin_of_none n (h.reference?_of_none hr), h.directDate_eq hr]
      exact hd
    | some r =>
      obtain ⟨e, he, hname, hvalue, hoffsets⟩ := TagTable.reference?_eq_some_iff.mp hr
      rw [evaluateWithin_of_some n hr] at hd
      cases hnested : (evaluateWithin base soonDays n tags r.text).1 with
      | error error =>
        rw [hnested] at hd
        cases hd
      | ok d' =>
        rw [hnested] at hd
        have happly : applyOffsets d' r.offsets = .ok d := hd
        -- the name refers to the same text as before, or to a day written in its place
        rcases h r.name with heq | ⟨text, d'', htext, hwritten, hgives, hyear⟩
        · have hr' : tags'.reference? expr = some r :=
            TagTable.reference?_eq_some_iff.mpr ⟨e, he, hname, heq.trans hvalue, hoffsets⟩
          rw [evaluateWithin_of_some n hr', ih hnested]
          exact happly
        · -- the nested evaluation has found the day that is written out
          cases hvalue.symm.trans htext
          have hdenotes := denotes_iff_evaluateWithin.mpr ⟨not_isTooDeep_ok, n, hnested⟩
          cases (hgives _).mp hdenotes
          have hr' : tags'.reference? expr = some ⟨r.name, d'.toText, r.offsets⟩ :=
            TagTable.reference?_eq_some_iff.mpr ⟨e, he, hname, hwritten, hoffsets⟩
          cases n with
          | zero =>
            rw [evaluateWithin] at hnested
            cases hnested
          | succ n =>
            rw [evaluateWithin_of_some _ hr', evaluateWithin_toText hyear]
            exact happly

/-! ## Rewritten texts -/

theorem writtenOut_of_resolveText (hr : resolveText base soonDays text = .ok r)
    (hyear : ∀ name value d, Rewrites base soonDays text name value d → 1000 ≤ d.year) :
    (TagTable.ofText text base).WrittenOut base soonDays (.ofText r base) := by
  intro name
  by_cases hrewrites : ∃ value d, Rewrites base soonDays text name value d
  · obtain ⟨value, d, h⟩ := hrewrites
    have hget := h.get?_eq hr
    have hvalue := (value?_ofText_eq_raw_iff h.isMain base).mpr (rewrites_iff.mp h).2.1
    by_cases honce : (Text.words text).count (tagWord name value) = 1
    · rw [if_pos honce] at hget
      exact Or.inr ⟨value, d, hvalue, (value?_ofText_eq_raw_iff h.isMain base).mpr hget, h.gives,
        hyear name value d h⟩
    · rw [if_neg honce] at hget
      exact Or.inl (((value?_ofText_eq_raw_iff h.isMain base).mpr hget).trans hvalue.symm)
  · have hsame := get?_eq_of_not_rewrites (fun value d h ↦ hrewrites ⟨value, d, h⟩) hr
    refine Or.inl ?_
    rw [TagTable.value?_ofText, TagTable.value?_ofText, hsame]

theorem year_of_all (h : (resolveMainTags base soonDays (.ofText text base)).2.entries.all
    fun e ↦ e.date.all (1000 ≤ ·.year)) :
    ∀ name value d, Rewrites base soonDays text name value d → 1000 ≤ d.year := by
  intro name value d hrewrites
  simpa using List.all_eq_true.mp h _ hrewrites.isEntry

/-- **Rewriting preserves meaning.** If a text is rewritten, and no day written lies before the year
1000, then every expression that denotes a day over the text denotes that day over the rewritten
text, and the tags other than the main ones have the values that they had. -/
theorem evaluate_resolveText (base : Date) (soonDays : Int) (text r : Text)
    (hr : resolveText base soonDays text = .ok r)
    (hyear : ∀ name value d, Rewrites base soonDays text name value d → 1000 ≤ d.year) :
    (∀ expr d, (evaluate base soonDays (.ofText text base) expr).1 = .ok d →
      (evaluate base soonDays (.ofText r base) expr).1 = .ok d) ∧
    ∀ name ∉ mainTags, (extractTags r).get? name = (extractTags text).get? name := by
  refine ⟨fun expr d hd ↦ ?_, fun name hname ↦ ?_⟩
  · exact evaluateWithin_of_writtenOut (writtenOut_of_resolveText hr hyear) hd
  · exact get?_eq_of_not_rewrites (fun value d h ↦ hname h.isMain) hr

theorem resolveText_rent :
    resolveText ⟨2020, 7, 9, by decide⟩ 7 "pay rent due:fri+1w t:due-2d".toList =
      .ok "pay rent due:2020-07-17 t:2020-07-15".toList :=
  eq_ok_of_toOption (by decide +kernel)

theorem evaluate_resolveText_rent :
    (evaluate ⟨2020, 7, 9, by decide⟩ 7
      (.ofText "pay rent due:2020-07-17 t:2020-07-15".toList ⟨2020, 7, 9, by decide⟩)
      "t+1w".toList).1 = .ok ⟨2020, 7, 22, by decide⟩ := by
  refine (evaluate_resolveText _ _ _ _ resolveText_rent (year_of_all (by decide))).1 _ _ ?_
  exact eq_ok_of_toOption (by decide +kernel)

/-! ## Rewriting twice -/

/-- There is nothing left to do in a rewritten text if no value that was replaced is still read. -/
theorem isSettled_resolveText_iff (hr : resolveText base soonDays text = .ok r)
    (hyear : ∀ name value d, Rewrites base soonDays text name value d → 1000 ≤ d.year) :
    (∀ name ∈ mainTags, IsSettled base soonDays (.ofText r base) name) ↔
      ∀ name value d, Rewrites base soonDays text name value d → d.toText ≠ value →
        (Text.words text).count (tagWord name value) = 1 := by
  constructor
  · intro hsettled name value d h hne
    by_contra hcount
    have hget := h.get?_eq hr
    rw [if_neg hcount] at hget
    -- the old value is still read, so it is written like its day, which is the same as before
    obtain ⟨d', rfl, hd'⟩ := hsettled name h.isMain value
      ((value?_ofText_eq_raw_iff h.isMain base).mpr hget)
    have hbefore := evaluate_toText_of_ok hd' (.ofText text base)
    have hgives := gives_of_evaluate (.refl _ _) (congrArg Prod.fst hbefore)
    exact hne (by rw [h.gives.unique hgives])
  · intro hcounts name hname
    by_cases hrewrites : ∃ value d, Rewrites base soonDays text name value d
    · obtain ⟨value, d, h⟩ := hrewrites
      have hget : (extractTags r).get? name = some d.toText := by
        rw [h.get?_eq hr]
        by_cases hsame : d.toText = value
        · rw [hsame, ite_self]
        · rw [if_pos (hcounts name value d h hsame)]
      intro value' hvalue'
      rw [value?_ofText_eq_raw_iff hname, hget] at hvalue'
      cases hvalue'
      exact ⟨d, rfl, congrArg Prod.fst (evaluateWithin_toText (hyear name value d h) 10 _)⟩
    · have hsame := get?_eq_of_not_rewrites (fun value d h ↦ hrewrites ⟨value, d, h⟩) hr
      have hsettled := isSettled_of_not_rewrites hr hname
        fun value d h ↦ absurd ⟨value, d, h⟩ hrewrites
      intro value hvalue
      rw [value?_ofText_eq_raw_iff hname, hsame] at hvalue
      obtain ⟨d, rfl, hd⟩ := hsettled value ((value?_ofText_eq_raw_iff hname base).mpr hvalue)
      exact ⟨d, rfl, congrArg Prod.fst (evaluate_toText_of_ok hd _)⟩

/-- **When one time is enough.** If a text is rewritten, and no day written lies before the year
1000, then rewriting it again changes nothing if and only if each value that is replaced by
something else stands in the text once. In that case the main tags of the rewritten text are written
days that stand for themselves. -/
theorem resolveText_resolveText_iff (base : Date) (soonDays : Int) (text r : Text)
    (hr : resolveText base soonDays text = .ok r)
    (hyear : ∀ name value d, Rewrites base soonDays text name value d → 1000 ≤ d.year) :
    (resolveText base soonDays r = .ok r ↔
      ∀ name value d, Rewrites base soonDays text name value d → d.toText ≠ value →
        (Text.words text).count (tagWord name value) = 1) ∧
    (resolveText base soonDays r = .ok r → ∀ name ∈ mainTags, ∀ value,
      (extractTags r).get? name = some value → ∃ d : Date, d.toText = value ∧
        evaluate base soonDays (.ofText r base) value = (.ok d, .ofText r base)) := by
  refine ⟨?_, fun hagain name hname value hvalue ↦ ?_⟩
  · rw [resolveText_eq_self_iff, isSettled_resolveText_iff hr hyear]
  · have hsettled := resolveText_eq_self_iff.mp hagain name hname
    obtain ⟨d, rfl, hd⟩ := hsettled value ((value?_ofText_eq_raw_iff hname base).mpr hvalue)
    exact ⟨d, rfl, evaluate_toText_of_ok hd _⟩

theorem resolveText_resolveText_iff_rent :
    resolveText ⟨2020, 7, 9, by decide⟩ 7 "pay rent due:2020-07-17 t:2020-07-15".toList =
      .ok "pay rent due:2020-07-17 t:2020-07-15".toList := by
  refine (resolveText_resolveText_iff _ _ _ _ resolveText_rent
    (year_of_all (by decide))).1.mpr ?_
  have honce : (resolveMainTags ⟨2020, 7, 9, by decide⟩ 7 (.ofText
      "pay rent due:fri+1w t:due-2d".toList ⟨2020, 7, 9, by decide⟩)).2.entries.all (fun e ↦
        e.name ∉ mainTags || e.raw.all fun value ↦
          (Text.words "pay rent due:fri+1w t:due-2d".toList).count (tagWord e.name value) == 1) :=
    by decide
  intro name value d h _
  simpa [h.isMain] using List.all_eq_true.mp honce _ h.isEntry

/-- A value that stands in the text twice is replaced one occurrence at a time. -/
theorem resolveText_not_idempotent :
    ¬ ∀ (base : Date) (soonDays : Int) (text r : Text), resolveText base soonDays text = .ok r →
      resolveText base soonDays r = .ok r := by
  intro h
  let base : Date := ⟨2020, 3, 15, by decide⟩
  have hfirst : resolveText base 7 "due:fri due:fri".toList =
      .ok "due:2020-03-20 due:fri".toList := eq_ok_of_toOption (by decide +kernel)
  have hsecond : resolveText base 7 "due:2020-03-20 due:fri".toList =
      .ok "due:2020-03-20 due:2020-03-20".toList := eq_ok_of_toOption (by decide +kernel)
  have heq := Except.ok.inj ((h _ _ _ _ hfirst).symm.trans hsecond)
  revert heq
  decide

end Agenda
