import Agenda.Proofs.MainTags

/-!
# What resolving reports

Resolving the main tags answers whether it has changed one of them, and updating the text writes the
days of all main tags that the table knows. The answer tells what resolving adds: it is yes exactly
if the updated text is not the one that the table would have made of the text before
(`resolveMainTags_report`).

It does not tell whether the text has to be rewritten. An expression that refers to a main tag,
evaluated before, notes its day in the table. Resolving passes such a tag over, and updating the
text writes its day all the same (`not_forall_changed_iff`). Over a table in which no main tag has
been noted with a day that is written otherwise, the answer is right.
-/

namespace Agenda

variable {base : Date} {soonDays : Int} {tags tags' tags'' : TagTable} {names : List Text}
  {text name : Text}

/-- A main tag stands in the text with a value that is not written like the day that the table
knows. -/
def IsPending (text : Text) (tags : TagTable) (name : Text) : Prop :=
  ∃ value d, (extractTags text).get? name = some value ∧ tags.value? name = some (.date d) ∧
    d.toText ≠ value

/-! ## The answer -/

theorem IsChanged.of_learns {right : Text → Date → Prop} (hlearns : tags.Learns right tags')
    (h : IsChanged tags' tags'' name) : IsChanged tags tags'' name := by
  obtain ⟨value, d, hvalue, hdate, hne⟩ := h
  exact ⟨value, d, hlearns.value?_of_raw hvalue, hdate, hne⟩

theorem IsChanged.mono {right : Text → Date → Prop} (h : IsChanged tags tags' name)
    (hlearns : tags'.Learns right tags'') : IsChanged tags tags'' name := by
  obtain ⟨value, d, hvalue, hdate, hne⟩ := h
  exact ⟨value, d, hvalue, hlearns.value?_of_date hdate, hne⟩

theorem exists_isChanged_of_resolveTags (h : tags.Learns (Gives base soonDays tags) tags')
    (hok : (resolveTags base soonDays names tags').1 = .ok true) :
    ∃ name ∈ names, IsChanged tags' (resolveTags base soonDays names tags').2 name := by
  induction names generalizing tags' with
  | nil => cases hok
  | cons name names ih =>
    rcases resolveTags_cons h name names with
      ⟨error, tags'', -, heq⟩ | ⟨first, tags'', hlearns, -, hchanged, -, heq⟩
    · rw [heq] at hok
      cases hok
    · have hrest := (resolveTags_sound (h.trans hlearns) names).1
      rw [heq] at hok ⊢
      cases first with
      | true => exact ⟨name, List.mem_cons_self, (hchanged rfl).mono hrest⟩
      | false =>
        have hid : ∀ answer : Except DateError Bool, answer.map (false || ·) = answer := by
          rintro (_ | _) <;> rfl
        rw [hid] at hok
        obtain ⟨name', hname', h'⟩ := ih (h.trans hlearns) hok
        exact ⟨name', List.mem_cons_of_mem _ hname', h'.of_learns hlearns⟩

/-! ## The text -/

/-- Updating a text leaves it as it is exactly if no main tag in it is pending. -/
theorem updateText_ne_self_iff {right : Text → Date → Prop}
    (h : (TagTable.ofText text base).Learns right tags) :
    updateText tags text ≠ text ↔ ∃ name ∈ mainTags, IsPending text tags name := by
  constructor
  · intro hne
    by_contra hnone
    refine hne (foldl_updateTag_eq_self fun e he ↦ ?_)
    by_cases hwritten : ∃ value d, e.name ∈ mainTags ∧ e = ⟨e.name, some value, some d⟩
    · obtain ⟨value, d, hname, heq⟩ := hwritten
      rw [heq] at he
      obtain ⟨hget, hdate⟩ := (h.mem_entries_iff hname).mp he
      have hsame : d.toText = value := by
        by_contra hne
        exact hnone ⟨e.name, hname, value, d, hget, hdate, hne⟩
      rw [heq, updateTag_of_main hname, hsame, Text.replaceWord_self]
    · exact updateTag_eq_self (fun value d hname heq ↦ hwritten ⟨value, d, hname, heq⟩) text
  · rintro ⟨name, hname, value, d, hget, hdate, hne⟩ heq
    have hvalues := h.tagValues_updateText_of_date hname hget hdate
    rw [heq] at hvalues
    rw [get?_extractTags] at hget
    exact hne (eq_of_replace_eq_self (List.mem_of_getLast? hget) hvalues.symm)

theorem IsChanged.isPending {right : Text → Date → Prop}
    (h : (TagTable.ofText text base).Learns right tags) (hname : name ∈ mainTags)
    (hchanged : IsChanged tags tags' name) : IsPending text tags' name := by
  obtain ⟨value, d, hvalue, hdate, hne⟩ := hchanged.of_learns h
  exact ⟨value, d, (value?_ofText_eq_raw_iff hname base).mp hvalue, hdate, hne⟩

/-- The table updates the text to another one than before it learned a tag that is changed. -/
theorem updateText_ne_of_isChanged {right : Text → Date → Prop}
    (h : (TagTable.ofText text base).Learns right tags) (hlearns : tags.Learns right tags')
    (hname : name ∈ mainTags) (hchanged : IsChanged tags tags' name) :
    updateText tags' text ≠ updateText tags text := by
  obtain ⟨value, d, hget, hdate, hne⟩ := hchanged.isPending h hname
  have hbefore : tagValues name (updateText tags text) = tagValues name text := by
    obtain ⟨value', -, hvalue', -, -⟩ := hchanged
    refine h.tagValues_updateText_of_ne fun d' _ hdate' ↦ ?_
    cases hvalue'.symm.trans hdate'
  have hafter := (h.trans hlearns).tagValues_updateText_of_date hname hget hdate
  intro heq
  rw [heq, hbefore] at hafter
  rw [get?_extractTags] at hget
  exact hne (eq_of_replace_eq_self (List.mem_of_getLast? hget) hafter.symm)

/-- **The answer of resolving.** After any evaluations over the table of a text, resolving the main
tags answers that something was changed exactly if the table updates the text to something else than
it did before. The text is rewritten exactly if that is the answer or a main tag was pending. -/
theorem resolveMainTags_report (base : Date) (soonDays : Int) (text : Text) (history : List Text)
    (changed : Bool) (tags : TagTable)
    (h : resolveMainTags base soonDays (tableAfter base soonDays (.ofText text base) history) =
      (.ok changed, tags)) :
    (changed = true ↔ updateText tags text ≠
      updateText (tableAfter base soonDays (.ofText text base) history) text) ∧
    (updateText tags text ≠ text ↔ changed = true ∨ ∃ name ∈ mainTags,
      IsPending text (tableAfter base soonDays (.ofText text base) history) name) := by
  have hbefore := learns_tableAfter (.refl (Gives base soonDays (.ofText text base)) _) history
  generalize tableAfter base soonDays (.ofText text base) history = before at h hbefore ⊢
  obtain ⟨hlearns, hanswer⟩ := resolveTags_sound hbefore mainTags
  rw [← resolveMainTags, h] at hlearns hanswer
  -- the answer is yes only if a tag was changed, and no only if the table is as it was
  have hchanged : changed = true → ∃ name ∈ mainTags, IsChanged before tags name := by
    rintro rfl
    have hok : (resolveTags base soonDays mainTags before).1 = .ok true := by
      rw [← resolveMainTags, h]
    have hexists := exists_isChanged_of_resolveTags hbefore hok
    rwa [← resolveMainTags, h] at hexists
  have hsame : changed = false → tags = before := fun hfalse ↦ ((hanswer changed rfl).2 hfalse).1
  constructor
  · constructor
    · intro htrue
      obtain ⟨name, hname, hname'⟩ := hchanged htrue
      exact updateText_ne_of_isChanged hbefore hlearns hname hname'
    · intro hne
      by_contra hfalse
      exact hne (by rw [hsame (Bool.not_eq_true _ ▸ hfalse)])
  · rw [updateText_ne_self_iff (hbefore.trans hlearns)]
    constructor
    · rintro ⟨name, hname, hpending⟩
      cases changed with
      | true => exact Or.inl rfl
      | false =>
        rw [hsame rfl] at hpending
        exact Or.inr ⟨name, hname, hpending⟩
    · rintro (htrue | ⟨name, hname, value, d, hget, hdate, hne⟩)
      · obtain ⟨name, hname, hname'⟩ := hchanged htrue
        exact ⟨name, hname, hname'.isPending hbefore hname⟩
      · exact ⟨name, hname, value, d, hget, hlearns.value?_of_date hdate, hne⟩

theorem resolveMainTags_report_rent :
    updateText (resolveMainTags ⟨2020, 7, 9, by decide⟩ 7
      (tableAfter ⟨2020, 7, 9, by decide⟩ 7
        (.ofText "pay rent due:fri t:due-2d".toList ⟨2020, 7, 9, by decide⟩) ["due".toList])).2
      "pay rent due:fri t:due-2d".toList ≠
    updateText (tableAfter ⟨2020, 7, 9, by decide⟩ 7
      (.ofText "pay rent due:fri t:due-2d".toList ⟨2020, 7, 9, by decide⟩) ["due".toList])
      "pay rent due:fri t:due-2d".toList :=
  (resolveMainTags_report _ _ _ _ true _
    (Prod.ext (eq_ok_of_toOption (by decide)) rfl)).1.mp rfl

/-- A main tag that an expression referred to before is not reported, but written. -/
theorem not_forall_changed_iff : ¬ ∀ (base : Date) (soonDays : Int) (text : Text)
    (history : List Text) (changed : Bool) (tags : TagTable),
    resolveMainTags base soonDays (tableAfter base soonDays (.ofText text base) history) =
      (.ok changed, tags) → (changed = true ↔ updateText tags text ≠ text) := by
  intro h
  have hdue := h ⟨2020, 3, 15, by decide⟩ 7 "due:fri".toList ["due".toList] false _
    (Prod.ext (eq_ok_of_toOption (by decide +kernel)) rfl)
  exact Bool.false_ne_true (hdue.mpr (by decide +kernel))

end Agenda
