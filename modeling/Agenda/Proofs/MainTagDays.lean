import Agenda.Proofs.ExecutionOrder
import Agenda.Proofs.NamedTags

/-!
# Asking for a main tag and rewriting it

The day of a main tag can be asked for by its name, and it is found when the text is rewritten. Both
follow the same chain of references, from two starting points. Asking starts at the name, so the
step from the name to its value is the first reference of the chain. Rewriting starts at the value,
one reference later, and resolves `due` before `t` over one table. The limit therefore falls
differently: the chain from the name may have ten references in the table of the text when it is
asked for, and eleven in the table as it is at its turn when it is rewritten
(`evaluate_name_eq_ok_iff`, `dayFound?_eq_some_iff`).

Both answers are what the name denotes, so wherever asking has an answer rewriting has the same
one, and where only rewriting has an answer asking is too deep (`resolveText_iff_evaluate`). That
does occur, with a chain of eleven references (`not_forall_resolveText_iff`).
-/

namespace Agenda

variable {base : Date} {soonDays : Int} {tags tags' : TagTable} {text expr name value : Text}
  {d : Date} {n : Nat}

/-! ## Answers and the length of the path -/

theorem TagTable.follow_succ_eq_none (h : tags.follow n expr = none) :
    tags.follow (n + 1) expr = none := by
  induction n generalizing expr with
  | zero => cases h
  | succ n ih =>
    rw [follow] at h ⊢
    cases hr : tags.reference? expr with
    | none => rfl
    | some r =>
      rw [hr, Option.bind_some] at h
      exact ih h

/-- Over a table that has learned, an evaluation answers with a day if and only if the expression
denotes the day and its path is shorter than the budget. -/
theorem evaluateWithin_eq_ok_iff (h : tags.Learns (Gives base soonDays tags) tags') :
    (evaluateWithin base soonDays n tags' expr).1 = .ok d ↔
      Gives base soonDays tags expr d ∧ tags'.follow n expr = none := by
  have hanswer := (evaluateWithin_sound h n expr).2
  constructor
  · intro hd
    rw [hd] at hanswer
    refine ⟨gives_iff.mpr (hanswer not_isTooDeep_ok), ?_⟩
    by_contra hsome
    obtain ⟨last, hlast⟩ := Option.ne_none_iff_exists'.mp hsome
    have hdeep : IsTooDeep (evaluateWithin base soonDays n tags' expr).1 :=
      isTooDeep_iff_follow.mpr ⟨last, hlast⟩
    rw [hd] at hdeep
    exact not_isTooDeep_ok hdeep
  · rintro ⟨hgives, hnone⟩
    exact (hgives _).mp (hanswer (not_isTooDeep_of_follow hnone))

/-! ## From a name to its value -/

theorem TagTable.reference?_of_main (hname : name ∈ mainTags)
    (hvalue : tags.value? name = some (.raw value)) :
    tags.reference? name = some ⟨name, value, []⟩ := by
  have hletters : ∀ name ∈ mainTags,
      name ≠ [] ∧ name.all isLatin = true ∧ Text.lower name = name := by decide
  obtain ⟨hne, hlatin, hlower⟩ := hletters name hname
  have href := reference?_of_latin hne (List.all_eq_true.mp hlatin) (hlower.symm ▸ hvalue)
  rwa [hlower] at href

theorem gives_name_iff (hname : name ∈ mainTags) (hvalue : tags.value? name = some (.raw value)) :
    Gives base soonDays tags name d ↔ Gives base soonDays tags value d := by
  have href := TagTable.reference?_of_main hname hvalue
  rw [gives_iff, gives_iff]
  constructor
  · intro h
    generalize hanswer : (.ok d : Except DateError Date) = answer at h
    cases h with
    | direct hr => cases hr.symm.trans href
    | reference hr hnested =>
      cases hr.symm.trans href
      rwa [bind_applyOffsets_nil]
  · intro h
    rw [← bind_applyOffsets_nil (.ok d)]
    exact .reference href h

/-! ## One tag after the other -/

/-- The table as it is when the turn of a main tag comes. -/
def tableAt (base : Date) (soonDays : Int) (text name : Text) : TagTable :=
  (resolveTags base soonDays (mainTags.takeWhile (· != name)) (.ofText text base)).2

/-- The day that a main tag is resolved to: the one noted before its turn comes, or the answer to
its value at its turn. -/
def dayFound? (base : Date) (soonDays : Int) (text name : Text) : Option Date :=
  match (tableAt base soonDays text name).value? name with
  | some (.date d) => some d
  | some (.raw value) => (evaluate base soonDays (tableAt base soonDays text name) value).1.toOption
  | none => none

theorem learns_tableAt (base : Date) (soonDays : Int) (text name : Text) :
    (TagTable.ofText text base).Learns (Gives base soonDays (.ofText text base))
      (tableAt base soonDays text name) :=
  (resolveTags_sound (.refl _ _) _).1

theorem exists_resolveTags_cons_iff {names : List Text} :
    (∃ rewritten, (resolveTags base soonDays (name :: names) tags).1 = .ok rewritten) ↔
      (∀ value, tags.value? name = some (.raw value) →
        ∃ d, (evaluate base soonDays tags value).1 = .ok d) ∧
      ∃ rewritten,
        (resolveTags base soonDays names (resolveTags base soonDays [name] tags).2).1 =
          .ok rewritten := by
  by_cases hraw : ∃ value, tags.value? name = some (.raw value)
  · obtain ⟨value, hvalue⟩ := hraw
    have hfirst : (∀ value', tags.value? name = some (.raw value') →
        ∃ d, (evaluate base soonDays tags value').1 = .ok d) ↔
          ∃ d, (evaluate base soonDays tags value).1 = .ok d := by
      simp [hvalue]
    rw [hfirst, resolveTags_of_raw hvalue, resolveTags_of_raw hvalue]
    rcases evaluate base soonDays tags value with ⟨error | d, tags'⟩
    · simp
    · by_cases hsame : d.toText = value
      · simp [hsame, resolveTags]
      · rcases hrest : resolveTags base soonDays names (tags'.set name d) with
          ⟨error | rewritten, tags''⟩
        · simp [hsame, resolveTags, hrest, Except.map]
        · simp [hsame, resolveTags, hrest, Except.map]
  · have hnone : ∀ value, tags.value? name ≠ some (.raw value) :=
      fun value hvalue ↦ hraw ⟨value, hvalue⟩
    rw [resolveTags_of_not_raw hnone, resolveTags_of_not_raw hnone]
    simp [hnone, resolveTags]

/-- A text is rewritten if and only if a day is found for each main tag that stands in it. -/
theorem exists_resolveText_iff : (∃ r, resolveText base soonDays text = .ok r) ↔
    ∀ name ∈ mainTags, ∀ value, (extractTags text).get? name = some value →
      ∃ d, dayFound? base soonDays text name = some d := by
  have hok : (∃ r, resolveText base soonDays text = .ok r) ↔ ∃ rewritten,
      (resolveTags base soonDays mainTags (.ofText text base)).1 = .ok rewritten := by
    rw [resolveText, resolveMainTags]
    rcases resolveTags base soonDays mainTags (.ofText text base) with
      ⟨error | rewritten, tags⟩
    · simp
    · cases rewritten <;> simp
  -- each tag is evaluated over the table that the tags before it have left
  have hsteps : (∃ r, resolveText base soonDays text = .ok r) ↔ ∀ name ∈ mainTags, ∀ value,
      (tableAt base soonDays text name).value? name = some (.raw value) →
        ∃ d, (evaluate base soonDays (tableAt base soonDays text name) value).1 = .ok d := by
    have hdue : tableAt base soonDays text "due".toList = .ofText text base := rfl
    have ht : tableAt base soonDays text "t".toList =
        (resolveTags base soonDays ["due".toList] (.ofText text base)).2 := rfl
    rw [hok, mainTags, exists_resolveTags_cons_iff, exists_resolveTags_cons_iff,
      List.forall_mem_cons, List.forall_mem_singleton, hdue, ht]
    simp [resolveTags]
  rw [hsteps]
  refine forall₂_congr fun name hname ↦ ?_
  have hlearns := learns_tableAt base soonDays text name
  constructor
  · intro h value hget
    have hraw := (value?_ofText_eq_raw_iff hname base).mpr hget
    rw [dayFound?]
    -- the value is still a text at its turn, or an earlier tag has asked for it
    rcases hlearns.value? name with heq | ⟨text', d, htext, hdate, -⟩
    · obtain ⟨d, hd⟩ := h value (heq.trans hraw)
      exact ⟨d, by rw [heq, hraw]; exact congrArg Except.toOption hd⟩
    · exact ⟨d, by rw [hdate]⟩
  · intro h value hvalue
    have hget := (value?_ofText_eq_raw_iff hname base).mp (hlearns.value?_of_raw hvalue)
    obtain ⟨d, hd⟩ := h value hget
    rw [dayFound?, hvalue] at hd
    exact ⟨d, eq_ok_of_toOption hd⟩

/-! ## Two starting points -/

/-- Asking for a name has the answer that the name denotes, if its chain has at most ten
references. -/
theorem evaluate_name_eq_ok_iff :
    (evaluate base soonDays tags name).1 = .ok d ↔
      Gives base soonDays tags name d ∧ tags.follow 11 name = none :=
  evaluateWithin_eq_ok_iff (.refl _ tags)

/-- Rewriting finds the day that the name denotes, if its chain has at most eleven references at the
turn of the name. A tag resolved before ends the chain. -/
theorem dayFound?_eq_some_iff (hname : name ∈ mainTags)
    (hget : (extractTags text).get? name = some value) :
    dayFound? base soonDays text name = some d ↔
      Gives base soonDays (.ofText text base) name d ∧
        (tableAt base soonDays text name).follow 12 name = none := by
  have hraw := (value?_ofText_eq_raw_iff hname base).mpr hget
  have hlearns := learns_tableAt base soonDays text name
  rw [gives_name_iff hname hraw, dayFound?]
  rcases hlearns.value? name with heq | ⟨text', d', htext, hdate, hd'⟩
  · -- the value is still a text, and its chain is the rest of that of the name
    have hraw' := heq.trans hraw
    have hfollow : (tableAt base soonDays text name).follow 12 name =
        (tableAt base soonDays text name).follow 11 value := by
      rw [TagTable.follow, TagTable.reference?_of_main hname hraw', Option.bind_some]
    rw [hraw', hfollow, ← evaluateWithin_eq_ok_iff hlearns]
    exact ⟨eq_ok_of_toOption, congrArg Except.toOption⟩
  · cases hraw.symm.trans htext
    have hfollow : (tableAt base soonDays text name).follow 12 name = none := by
      have hnone : (tableAt base soonDays text name).reference? name = none := by
        by_contra hsome
        obtain ⟨r, hr⟩ := Option.ne_none_iff_exists'.mp hsome
        cases (TagTable.reference?_of_main hname hraw).symm.trans (hlearns.reference?_of_some hr)
        obtain ⟨_, _, _, hvalue, _⟩ := TagTable.reference?_eq_some_iff.mp hr
        cases hdate.symm.trans hvalue
      rw [TagTable.follow, hnone, Option.bind_none]
    rw [hdate, hfollow]
    refine ⟨fun h ↦ ⟨?_, rfl⟩, fun h ↦ congrArg some (hd'.unique h.1)⟩
    cases h
    exact hd'

/-- **Asking and rewriting.** A text is rewritten if and only if for each main tag in it asking for
the tag has an answer, or is too deep although the tag denotes a day and its chain has at most
eleven references at its turn. The day found for the value, which is the one written unless the
value is written like it, is the answer to the name wherever that is not too deep, and is what the
name denotes everywhere. -/
theorem resolveText_iff_evaluate (base : Date) (soonDays : Int) (text : Text) :
    ((∃ r, resolveText base soonDays text = .ok r) ↔
      ∀ name ∈ mainTags, ∀ value, (extractTags text).get? name = some value →
        (∃ d, (evaluate base soonDays (.ofText text base) name).1 = .ok d) ∨
          IsTooDeep (evaluate base soonDays (.ofText text base) name).1 ∧
            (∃ d, Gives base soonDays (.ofText text base) name d) ∧
            (tableAt base soonDays text name).follow 12 name = none) ∧
    ∀ r, resolveText base soonDays text = .ok r →
      ∀ name ∈ mainTags, ∀ value, (extractTags text).get? name = some value →
        ∃ d, dayFound? base soonDays text name = some d ∧
          (d.toText = value ∨ Rewrites base soonDays text name value d) ∧
          ((evaluate base soonDays (.ofText text base) name).1 = .ok d ∨
            IsTooDeep (evaluate base soonDays (.ofText text base) name).1 ∧
              Gives base soonDays (.ofText text base) name d) := by
  have hdepth : ∀ name, IsTooDeep (evaluate base soonDays (.ofText text base) name).1 ∨
      (TagTable.ofText text base).follow 11 name = none := by
    intro name
    cases hlast : (TagTable.ofText text base).follow 11 name with
    | none => exact .inr rfl
    | some last => exact .inl (isTooDeep_iff_follow.mpr ⟨last, hlast⟩)
  constructor
  · rw [exists_resolveText_iff]
    refine forall₄_congr fun name hname value hget ↦ ?_
    have hlearns := learns_tableAt base soonDays text name
    simp only [dayFound?_eq_some_iff hname hget, evaluate_name_eq_ok_iff, exists_and_right]
    constructor
    · rintro ⟨hd, hrewriting⟩
      rcases hdepth name with hdeep | hasking
      · exact .inr ⟨hdeep, hd, hrewriting⟩
      · exact .inl ⟨hd, hasking⟩
    · rintro (⟨hd, hasking⟩ | ⟨-, hd, hrewriting⟩)
      · refine ⟨hd, ?_⟩
        -- the chain is not longer at the turn of the name
        by_contra hsome
        obtain ⟨last, hlast⟩ := Option.ne_none_iff_exists'.mp hsome
        cases (hlearns.follow_of_some hlast).symm.trans (TagTable.follow_succ_eq_none hasking)
      · exact ⟨hd, hrewriting⟩
  · intro r hr name hname value hget
    obtain ⟨d, hfound⟩ := exists_resolveText_iff.mp ⟨r, hr⟩ name hname value hget
    obtain ⟨hd, -⟩ := (dayFound?_eq_some_iff hname hget).mp hfound
    refine ⟨d, hfound, ?_, ?_⟩
    · have hraw := (value?_ofText_eq_raw_iff hname base).mpr hget
      obtain ⟨⟨rewritten, hok⟩, -⟩ := eq_updateText_of_resolveText hr
      obtain ⟨hresolved, -⟩ :=
        (resolveMainTags_sound base soonDays (.ofText text base)).2 rewritten hok
      obtain ⟨d', hd', hwritten⟩ := hresolved name hname value hraw
      cases hd'.unique ((gives_name_iff hname hraw).mp hd)
      exact hwritten.imp_right fun hdate ↦ rewrites_iff.mpr ⟨hname, hget, hdate⟩
    · rcases hdepth name with hdeep | hasking
      · exact .inr ⟨hdeep, hd⟩
      · exact .inl (evaluate_name_eq_ok_iff.mpr ⟨hd, hasking⟩)

/-- A chain of ten references from the value of `due` is followed when the text is rewritten, and is
too long when `due` is asked for. -/
theorem not_forall_resolveText_iff :
    ¬ ∀ (base : Date) (soonDays : Int) (text : Text),
      (∃ r, resolveText base soonDays text = .ok r) ↔
        ∀ name ∈ mainTags, ∀ value, (extractTags text).get? name = some value →
          ∃ d, (evaluate base soonDays (.ofText text base) name).1 = .ok d := by
  intro h
  let base : Date := ⟨2020, 3, 15, by decide⟩
  let text : Text := "due:a a:b b:c c:d d:e e:f f:g g:h h:i i:j j:2020-01-01".toList
  have hwritten : (resolveText base 7 text).toOption =
      some "due:2020-01-01 a:b b:c c:d d:e e:f f:g g:h h:i i:j j:2020-01-01".toList := by
    decide +kernel
  have hget : (extractTags text).get? "due".toList = some "a".toList := by decide +kernel
  obtain ⟨d, hd⟩ := (h base 7 text).mp ⟨_, eq_ok_of_toOption hwritten⟩ _ (by decide) _ hget
  have hasked : (evaluate base 7 (.ofText text base) "due".toList).1.toOption = none := by
    decide +kernel
  rw [hd] at hasked
  cases hasked

end Agenda
