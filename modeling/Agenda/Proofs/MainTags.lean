import Agenda.Proofs.DateText
import Agenda.Proofs.Memory
import Agenda.Proofs.SmallForms
import Agenda.Proofs.TagValues
import Agenda.Rewriting

/-!
# Resolving and rewriting the main tags

What rewriting does to a text comes down to a list of facts of one form, `Rewrites`: the value of a
main tag is replaced by a day. There is at most one for each main tag, since a table made from a
text has one entry for each key. The value replaced is the one read from the text (`rewrites_iff`),
and the day is the one that the value denotes (`Rewrites.gives`). The values that another main tag,
or any tag at all, has in the text stay as they are
(`TagTable.Learns.tagValues_updateText_of_ne`).

## What is left alone

A main tag that is not rewritten is missing from the text, or was resolved to a day that is written
like its value. Such a value begins with a digit, so it denotes the same day over every table, and
finding the day notes nothing. The texts that are left alone as a whole are those in which every
main tag is like that (`resolveText_eq_self_iff`).
-/

namespace Agenda

/-- Rewriting the main tags of a text puts a day in the place of the value of a tag. -/
structure Rewrites (base : Date) (soonDays : Int) (text name value : Text) (d : Date) : Prop where
  isMain : name ∈ mainTags
  /-- Once the main tags are resolved, an entry of the tag has both the value and the day. -/
  isEntry : ⟨name, some value, some d⟩ ∈
    (resolveMainTags base soonDays (.ofText text base)).2.entries

/-- The value of a main tag is the written form of the day that it stands for. -/
def IsSettled (base : Date) (soonDays : Int) (tags : TagTable) (name : Text) : Prop :=
  ∀ value, tags.value? name = some (.raw value) →
    ∃ d : Date, d.toText = value ∧ (evaluate base soonDays tags value).1 = .ok d

/-- The value that a tag has in the first table denotes a day, which is written like the value or
noted in the second one. -/
def IsResolved (base : Date) (soonDays : Int) (tags tags' : TagTable) (name : Text) : Prop :=
  ∀ value, tags.value? name = some (.raw value) → ∃ d, Gives base soonDays tags value d ∧
    (d.toText = value ∨ tags'.value? name = some (.date d))

/-- The text that a tag has in the first table has become a day, which is not written like it. -/
def IsChanged (tags tags' : TagTable) (name : Text) : Prop :=
  ∃ value d, tags.value? name = some (.raw value) ∧ tags'.value? name = some (.date d) ∧
    d.toText ≠ value

/-! ## Written days as values -/

theorem IsTag.toText {key value : Text} (h : IsTag key value) (d : Date) : IsTag key d.toText := by
  obtain ⟨c, s, hcons, hc⟩ := d.exists_digit_toText
  refine ⟨h.key_ne_nil, h.not_mem_key, by simp [hcons], ?_⟩
  have hslash : ('/' == c) = false := by
    rw [beq_eq_false_iff_ne]
    rintro rfl
    revert hc
    decide
  rw [hcons]
  exact congrArg (· && _) hslash

theorem isWord_tagWord_toText {key value : Text} (h : Text.IsWord (tagWord key value)) (d : Date) :
    Text.IsWord (tagWord key d.toText) := by
  refine ⟨by simp [tagWord], fun c hc ↦ ?_⟩
  rcases List.mem_append.mp hc with hkey | hday
  · exact h.2 c (List.mem_append_left value hkey)
  · rcases Date.mem_toText hday with hdigit | rfl
    · exact not_isBlank_of_isDigit hdigit
    · decide

/-! ## The table of a text -/

namespace TagTable

variable {tags tags' : TagTable} {text name value : Text} {today : Date} {e : TagEntry}

theorem find?_ofTags (dict : Dictionary) (name : Text) :
    (ofTags dict).find? (·.name == name) =
      (dict.get? name).map fun value ↦ ⟨name, some value, none⟩ := by
  induction dict with
  | nil => rfl
  | cons binding dict ih =>
    obtain ⟨k, v⟩ := binding
    rw [ofTags, List.map_cons, ← ofTags, List.find?_cons, Dictionary.get?_cons]
    by_cases hk : k = name
    · subst hk
      simp
    · rw [beq_false_of_ne hk, if_neg (Ne.symm hk), ← ih]

theorem value?_ofText (text : Text) (today : Date) (name : Text) :
    (ofText text today).value? name = (((extractTags text).get? name).or
      (if name = "created".toList then some today.toText else none)).map .raw := by
  rw [value?, find?, ofText, List.find?_append, find?_ofTags]
  cases (extractTags text).get? name with
  | some value => rfl
  | none =>
    by_cases hname : name = "created".toList
    · subst hname
      rfl
    · have hcreated : ("created".toList == name) = false := beq_false_of_ne (Ne.symm hname)
      rw [List.find?_cons, hcreated, if_neg hname]
      rfl

theorem created_not_mem_mainTags : "created".toList ∉ mainTags := by decide

theorem value?_ofText_of_main (hname : name ∈ mainTags) (text : Text) (today : Date) :
    (ofText text today).value? name = ((extractTags text).get? name).map .raw := by
  have hcreated : name ≠ "created".toList := by
    rintro rfl
    exact created_not_mem_mainTags hname
  rw [value?_ofText, if_neg hcreated, Option.or_none]

/-- No main tag has two entries. -/
def MainOnce (tags : TagTable) : Prop :=
  (tags.entries.map TagEntry.name).Pairwise fun name name' ↦ name ∈ mainTags → name ≠ name'

theorem mainOnce_ofText (text : Text) (today : Date) : (ofText text today).MainOnce := by
  have hnames : (ofTags (extractTags text)).map TagEntry.name =
      (extractTags text).map Prod.fst := List.map_map
  rw [MainOnce, ofText, List.map_append, hnames, List.pairwise_append]
  have hkeys := Dictionary.nodup_ofBindings ((Text.words text).filterMap tagOfWord?)
  refine ⟨hkeys.imp ?_, List.pairwise_singleton _ _, ?_⟩
  · intro name name' hne _
    exact hne
  · intro name _ name' hname' hmain
    rw [List.mem_singleton.mp hname']
    rintro rfl
    exact created_not_mem_mainTags hmain

theorem find?_of_mem (h : tags.MainOnce) (he : e ∈ tags.entries) (hmain : e.name ∈ mainTags) :
    tags.find? e.name = some e := by
  rw [MainOnce] at h
  rw [find?]
  generalize tags.entries = es at h he
  induction es with
  | nil => cases he
  | cons e' es ih =>
    obtain ⟨hfirst, hrest⟩ := List.pairwise_cons.mp h
    rcases List.mem_cons.mp he with rfl | he
    · exact List.find?_cons_of_pos (by simp)
    · have hne : (e'.name == e.name) = false := by
        rw [beq_eq_false_iff_ne]
        intro heq
        exact hfirst e.name (List.mem_map_of_mem he) (heq ▸ hmain) heq
      rw [List.find?_cons, hne]
      exact ih hrest he

theorem Learns.mainOnce {right : Text → Date → Prop} (h : tags.Learns right tags')
    (hmain : tags.MainOnce) : tags'.MainOnce := by
  have hnames : tags'.entries.map TagEntry.name = tags.entries.map TagEntry.name := by
    rw [Learns] at h
    generalize tags.entries = es, tags'.entries = es' at h
    induction h with
    | nil => rfl
    | cons he _ ih => rw [List.map_cons, List.map_cons, he.name_eq, ih]
  rw [MainOnce, hnames]
  exact hmain

end TagTable

/-! ## Resolving -/

section Resolving

variable {base : Date} {soonDays : Int} {tags tags' tags'' : TagTable} {names : List Text}
  {name value : Text} {d d' : Date}

namespace TagTable

variable {right : Text → Date → Prop}

theorem Learns.value?_of_date (h : tags.Learns right tags')
    (hd : tags.value? name = some (.date d)) : tags'.value? name = some (.date d) := by
  rcases h.value? name with heq | ⟨_, _, hraw, _⟩
  · rw [heq, hd]
  · rw [hd] at hraw
    cases hraw

theorem Learns.value?_of_raw (h : tags.Learns right tags')
    (hvalue : tags'.value? name = some (.raw value)) : tags.value? name = some (.raw value) := by
  rcases h.value? name with heq | ⟨_, _, _, hdate, _⟩
  · rw [← heq, hvalue]
  · rw [hvalue] at hdate
    cases hdate

theorem Learns.exists_find? (h : tags.Learns right tags') {e : TagEntry}
    (he : tags.find? name = some e) : ∃ e', tags'.find? name = some e' ∧ e.Learns right e' := by
  have hrel := h.find? name
  rw [he] at hrel
  cases hfound : tags'.find? name with
  | none =>
    rw [hfound] at hrel
    cases hrel
  | some e' =>
    rw [hfound] at hrel
    cases hrel with
    | some hlearns => exact ⟨e', rfl, hlearns⟩

theorem Learns.value?_set (h : tags.Learns right tags')
    (hvalue : tags.value? name = some (.raw value)) (d : Date) :
    (tags'.set name d).value? name = some (.date d) := by
  obtain ⟨e, he, -⟩ := value?_eq_raw_iff.mp hvalue
  obtain ⟨e', he', -⟩ := h.exists_find? he
  exact value?_set_self he' d

end TagTable

theorem gives_of_evaluate (h : tags.Learns (Gives base soonDays tags) tags') {expr : Text}
    (hd : (evaluate base soonDays tags' expr).1 = .ok d) : Gives base soonDays tags expr d := by
  have hanswer := (evaluateWithin_sound h nestingLimit expr).2
  rw [← evaluate, hd] at hanswer
  exact gives_iff.mpr (hanswer not_isTooDeep_ok)

theorem evaluate_toText (base : Date) (soonDays : Int) (tags : TagTable) (d : Date) :
    evaluate base soonDays tags d.toText =
      (TagTable.empty.directDate base soonDays d.toText, tags) := by
  obtain ⟨c, s, hcons, hc⟩ := d.exists_digit_toText
  rw [hcons]
  exact evaluateWithin_of_digit hc 10 tags

theorem evaluate_toText_of_ok (h : (evaluate base soonDays tags d.toText).1 = .ok d')
    (tags' : TagTable) : evaluate base soonDays tags' d.toText = (.ok d', tags') := by
  rw [evaluate_toText] at h ⊢
  rw [← h]

theorem evaluate_of_gives (h : Gives base soonDays tags d.toText d') (tags' : TagTable) :
    evaluate base soonDays tags' d.toText = (.ok d', tags') := by
  have hdirect := evaluate_toText base soonDays tags d
  have hdenotes : Denotes base soonDays tags d.toText (evaluate base soonDays tags d.toText).1 := by
    refine (evaluateWithin_sound (.refl _ tags) nestingLimit d.toText).2 ?_
    rw [← evaluate, hdirect]
    exact not_isTooDeep_directDate
  rw [hdirect] at hdenotes
  rw [evaluate_toText]
  exact congrArg (·, tags') ((h _).mp hdenotes)

theorem resolveTags_of_not_raw (h : ∀ value, tags.value? name ≠ some (.raw value)) :
    resolveTags base soonDays (name :: names) tags = resolveTags base soonDays names tags := by
  rw [resolveTags]
  split
  · next value hvalue => exact absurd hvalue (h value)
  · rfl

theorem resolveTags_of_raw (hvalue : tags.value? name = some (.raw value)) (base : Date)
    (soonDays : Int) (names : List Text) : resolveTags base soonDays (name :: names) tags =
      match evaluate base soonDays tags value with
      | (.error error, tags) => (.error error, tags)
      | (.ok d, tags) =>
        if d.toText = value then resolveTags base soonDays names tags
        else ((resolveTags base soonDays names (tags.set name d)).1.map fun _ ↦ true,
          (resolveTags base soonDays names (tags.set name d)).2) := by
  simp only [resolveTags, hvalue]
  rcases evaluate base soonDays tags value with ⟨error | d, tags'⟩
  · rfl
  · dsimp only
    split
    · rfl
    · rcases resolveTags base soonDays names (tags'.set name d) with ⟨error | rewritten, tags''⟩
      · rfl
      · rfl

/-- Where the value is written like the day it stands for, nothing happens. -/
theorem resolveTags_of_isSettled (h : IsSettled base soonDays tags name) :
    resolveTags base soonDays (name :: names) tags = resolveTags base soonDays names tags := by
  by_cases hraw : ∃ value, tags.value? name = some (.raw value)
  · obtain ⟨value, hvalue⟩ := hraw
    obtain ⟨d, rfl, hanswer⟩ := h value hvalue
    rw [resolveTags_of_raw hvalue, evaluate_toText_of_ok hanswer tags]
    exact if_pos rfl
  · exact resolveTags_of_not_raw fun value hvalue ↦ hraw ⟨value, hvalue⟩

theorem IsResolved.mono {right : Text → Date → Prop} (h : IsResolved base soonDays tags tags' name)
    (hlearns : tags'.Learns right tags'') : IsResolved base soonDays tags tags'' name := by
  intro value hvalue
  obtain ⟨d, hd, hsame | hdate⟩ := h value hvalue
  · exact ⟨d, hd, Or.inl hsame⟩
  · exact ⟨d, hd, Or.inr (hlearns.value?_of_date hdate)⟩

/-- A value that has become a day is right, since only right days are noted. -/
theorem isResolved_of_not_raw (h : tags.Learns (Gives base soonDays tags) tags')
    (hnone : ∀ value, tags'.value? name ≠ some (.raw value)) :
    IsResolved base soonDays tags tags' name := by
  intro value hvalue
  rcases h.value? name with heq | ⟨text, d, htext, hdate, hd⟩
  · exact absurd (heq.trans hvalue) (hnone value)
  · cases hvalue.symm.trans htext
    exact ⟨d, hd, Or.inr hdate⟩

theorem isResolved_set {right : Text → Date → Prop} (hlearns : tags.Learns right tags')
    (hvalue : tags.value? name = some (.raw value)) (hd : Gives base soonDays tags value d) :
    IsResolved base soonDays tags (tags'.set name d) name := by
  intro value' hvalue'
  cases hvalue.symm.trans hvalue'
  exact ⟨d, hd, Or.inr (hlearns.value?_set hvalue d)⟩

/-- **Resolving one tag.** It fails, or goes on with a table in which the tag is resolved. Either
the tag is changed and the answer says so, or the table is as before and the tag was settled. -/
theorem resolveTags_cons (h : tags.Learns (Gives base soonDays tags) tags') (name : Text)
    (names : List Text) :
    (∃ error tags'', tags'.Learns (Gives base soonDays tags) tags'' ∧
      resolveTags base soonDays (name :: names) tags' = (.error error, tags'')) ∨
    ∃ rewritten tags'', tags'.Learns (Gives base soonDays tags) tags'' ∧
      IsResolved base soonDays tags tags'' name ∧
      (rewritten = true → IsChanged tags' tags'' name) ∧
      (rewritten = false → tags'' = tags' ∧ IsSettled base soonDays tags' name) ∧
      resolveTags base soonDays (name :: names) tags' =
        ((resolveTags base soonDays names tags'').1.map (rewritten || ·),
          (resolveTags base soonDays names tags'').2) := by
  have hid : ∀ answer : Except DateError Bool, answer.map (false || ·) = answer := by
    rintro (_ | _) <;> rfl
  -- a tag that is no text any more, or is missing, is passed over
  by_cases hraw : ∃ value, tags'.value? name = some (.raw value)
  · obtain ⟨value, hvalue⟩ := hraw
    have hfirst := h.value?_of_raw hvalue
    have hlearns := (evaluateWithin_sound h nestingLimit value).1
    rw [← evaluate] at hlearns
    have hgives : ∀ d, (evaluate base soonDays tags' value).1 = .ok d →
        Gives base soonDays tags value d := fun d ↦ gives_of_evaluate h
    have hstep := resolveTags_of_raw hvalue base soonDays names
    rcases hresult : evaluate base soonDays tags' value with ⟨error | d, tags''⟩
    · rw [hresult] at hstep hlearns
      exact Or.inl ⟨error, tags'', hlearns, hstep⟩
    · rw [hresult] at hstep hlearns hgives
      have hd := hgives d rfl
      refine Or.inr ?_
      by_cases hsame : d.toText = value
      · -- the value is a written day, over which evaluation has noted nothing
        have hresolved : IsResolved base soonDays tags tags' name := by
          intro value' hvalue'
          cases hfirst.symm.trans hvalue'
          exact ⟨d, hd, Or.inl hsame⟩
        have hsettled : IsSettled base soonDays tags' name := by
          intro value' hvalue'
          cases hvalue.symm.trans hvalue'
          exact ⟨d, hsame, by rw [hresult]⟩
        refine ⟨false, tags', .refl _ _, hresolved, by simp, fun _ ↦ ⟨rfl, hsettled⟩, ?_⟩
        rw [resolveTags_of_isSettled hsettled, hid]
      · have hset := hlearns.set hvalue hd fun d' hd' ↦ hd'.unique hd
        have hresolved := isResolved_set (h.trans hlearns) hfirst hd
        have hchanged : IsChanged tags' (tags''.set name d) name :=
          ⟨value, d, hvalue, hlearns.value?_set hvalue d, hsame⟩
        exact ⟨true, tags''.set name d, hset, hresolved, fun _ ↦ hchanged, by simp,
          hstep.trans (if_neg hsame)⟩
  · have hnone : ∀ value, tags'.value? name ≠ some (.raw value) :=
      fun value hvalue ↦ hraw ⟨value, hvalue⟩
    have hsettled : IsSettled base soonDays tags' name :=
      fun value hvalue ↦ absurd hvalue (hnone value)
    refine Or.inr ⟨false, tags', .refl _ _, isResolved_of_not_raw h hnone, by simp,
      fun _ ↦ ⟨rfl, hsettled⟩, ?_⟩
    rw [resolveTags_of_not_raw hnone, hid]

/-- **Resolving tags.** Only right days are learned. If all goes well, then every one of the tags is
resolved; and if nothing was rewritten, then it was settled before, and the table is as it was. -/
theorem resolveTags_sound (h : tags.Learns (Gives base soonDays tags) tags') (names : List Text) :
    tags'.Learns (Gives base soonDays tags) (resolveTags base soonDays names tags').2 ∧
    ∀ rewritten, (resolveTags base soonDays names tags').1 = .ok rewritten →
      (∀ name ∈ names,
        IsResolved base soonDays tags (resolveTags base soonDays names tags').2 name) ∧
      (rewritten = false → (resolveTags base soonDays names tags').2 = tags' ∧
        ∀ name ∈ names, IsSettled base soonDays tags' name) := by
  induction names generalizing tags' with
  | nil => exact ⟨.refl _ _, fun _ _ ↦ ⟨by simp, fun _ ↦ ⟨rfl, by simp⟩⟩⟩
  | cons name names ih =>
    rcases resolveTags_cons h name names with
      ⟨error, tags'', hlearns, heq⟩ | ⟨first, tags'', hlearns, hresolved, -, hsettled, heq⟩
    · rw [heq]
      exact ⟨hlearns, by simp⟩
    · obtain ⟨ihlearns, ihanswer⟩ := ih (h.trans hlearns)
      rw [heq]
      refine ⟨hlearns.trans ihlearns, fun rewritten hok ↦ ?_⟩
      obtain ⟨rest, hrest, rfl⟩ : ∃ rest, (resolveTags base soonDays names tags'').1 = .ok rest ∧
          (first || rest) = rewritten := by
        cases hrest : (resolveTags base soonDays names tags'').1 with
        | error error =>
          rw [hrest] at hok
          cases hok
        | ok rest =>
          rw [hrest] at hok
          exact ⟨rest, rfl, Except.ok.inj hok⟩
      obtain ⟨ihresolved, ihsettled⟩ := ihanswer rest hrest
      refine ⟨List.forall_mem_cons.mpr ⟨hresolved.mono ihlearns, ihresolved⟩, fun hfalse ↦ ?_⟩
      -- neither this tag nor a later one was rewritten, so the table is the same throughout
      obtain ⟨hfirst, hrestFalse⟩ := Bool.or_eq_false_iff.mp hfalse
      obtain ⟨rfl, hname⟩ := hsettled hfirst
      obtain ⟨htable, hnames⟩ := ihsettled hrestFalse
      exact ⟨htable, List.forall_mem_cons.mpr ⟨hname, hnames⟩⟩

theorem resolveMainTags_sound (base : Date) (soonDays : Int) (tags : TagTable) :
    tags.Learns (Gives base soonDays tags) (resolveMainTags base soonDays tags).2 ∧
    ∀ rewritten, (resolveMainTags base soonDays tags).1 = .ok rewritten →
      (∀ name ∈ mainTags,
        IsResolved base soonDays tags (resolveMainTags base soonDays tags).2 name) ∧
      (rewritten = false → (resolveMainTags base soonDays tags).2 = tags ∧
        ∀ name ∈ mainTags, IsSettled base soonDays tags name) :=
  resolveTags_sound (.refl _ tags) mainTags

theorem resolveTags_eq_of_isSettled (h : ∀ name ∈ names, IsSettled base soonDays tags name) :
    resolveTags base soonDays names tags = (.ok false, tags) := by
  induction names with
  | nil => rfl
  | cons name names ih =>
    obtain ⟨hname, hnames⟩ := List.forall_mem_cons.mp h
    rw [resolveTags_of_isSettled hname, ih hnames]

end Resolving

/-! ## Rewriting -/

section Rewriting

variable {base : Date} {soonDays : Int} {text r name value : Text} {d : Date}

theorem isTag_of_get? (h : (extractTags text).get? name = some value) :
    IsTag name value ∧ Text.IsWord (tagWord name value) := by
  rw [get?_extractTags] at h
  obtain ⟨hword, htag⟩ := mem_tagValues_iff.mp (List.mem_of_getLast? h)
  exact ⟨htag, Text.isWord_of_mem_words hword⟩

theorem value?_ofText_eq_raw_iff (hname : name ∈ mainTags) (today : Date) :
    (TagTable.ofText text today).value? name = some (.raw value) ↔
      (extractTags text).get? name = some value := by
  rw [TagTable.value?_ofText_of_main hname, Option.map_eq_some_iff]
  constructor
  · rintro ⟨value, hvalue, heq⟩
    cases heq
    exact hvalue
  · intro hvalue
    exact ⟨value, hvalue, rfl⟩

section Learned

variable {right : Text → Date → Prop} {tags : TagTable}

theorem TagTable.Learns.exists_get?_of_date (h : (TagTable.ofText text base).Learns right tags)
    (hname : name ∈ mainTags) (hdate : tags.value? name = some (.date d)) :
    ∃ value, (extractTags text).get? name = some value ∧ right value d := by
  rcases h.value? name with heq | ⟨value, d', hraw, hdate', hd⟩
  · -- the table of the text knows no days
    rw [hdate, TagTable.value?_ofText_of_main hname] at heq
    obtain ⟨value, -, hraw⟩ := Option.map_eq_some_iff.mp heq.symm
    cases hraw
  · cases hdate.symm.trans hdate'
    exact ⟨value, (value?_ofText_eq_raw_iff hname base).mp hraw, hd⟩

/-- An entry of a main tag with a text and a day has the value read from the text, and the day that
the table knows. -/
theorem TagTable.Learns.mem_entries_iff (h : (TagTable.ofText text base).Learns right tags)
    (hname : name ∈ mainTags) : ⟨name, some value, some d⟩ ∈ tags.entries ↔
      (extractTags text).get? name = some value ∧ tags.value? name = some (.date d) := by
  constructor
  · intro hentry
    -- a main tag has one entry, so this one is found by its name
    have hfind := TagTable.find?_of_mem (h.mainOnce (TagTable.mainOnce_ofText text base))
      hentry hname
    have hdate : tags.value? name = some (.date d) := by
      rw [TagTable.value?, hfind]
      rfl
    refine ⟨?_, hdate⟩
    obtain ⟨value', hget, -⟩ := h.exists_get?_of_date hname hdate
    obtain ⟨e, he, -, hvalue⟩ :=
      TagTable.value?_eq_raw_iff.mp ((value?_ofText_eq_raw_iff hname base).mpr hget)
    obtain ⟨e', he', hstep⟩ := h.exists_find? he
    cases hfind.symm.trans he'
    cases hstep with
    | refl => cases hvalue; exact hget
    | day => cases hvalue; exact hget
  · rintro ⟨hget, hdate⟩
    obtain ⟨e, he, hnone, hvalue⟩ :=
      TagTable.value?_eq_raw_iff.mp ((value?_ofText_eq_raw_iff hname base).mpr hget)
    obtain ⟨e', he', hstep⟩ := h.exists_find? he
    rw [TagTable.value?, he'] at hdate
    have hmem := List.mem_of_find?_eq_some he'
    have hkey : e'.name = name := by simpa using List.find?_some he'
    cases hstep with
    | refl =>
      simp [TagEntry.value?, hnone, hvalue] at hdate
    | day =>
      cases hvalue
      cases hdate
      cases hkey
      exact hmem

end Learned

/-- The value replaced is the one read from the text, and the day is the one found for it. -/
theorem rewrites_iff : Rewrites base soonDays text name value d ↔ name ∈ mainTags ∧
    (extractTags text).get? name = some value ∧
    (resolveMainTags base soonDays (.ofText text base)).2.value? name = some (.date d) := by
  have hlearns := (resolveMainTags_sound base soonDays (.ofText text base)).1
  constructor
  · rintro ⟨hname, hentry⟩
    exact ⟨hname, (hlearns.mem_entries_iff hname).mp hentry⟩
  · rintro ⟨hname, hfound⟩
    exact ⟨hname, (hlearns.mem_entries_iff hname).mpr hfound⟩

theorem Rewrites.gives (h : Rewrites base soonDays text name value d) :
    Gives base soonDays (.ofText text base) value d := by
  obtain ⟨hname, hget, hdate⟩ := rewrites_iff.mp h
  have hlearns := (resolveMainTags_sound base soonDays (.ofText text base)).1
  obtain ⟨value', hget', hd⟩ := hlearns.exists_get?_of_date hname hdate
  cases hget.symm.trans hget'
  exact hd

theorem updateTag_eq_self {e : TagEntry}
    (h : ∀ value d, e.name ∈ mainTags → e ≠ ⟨e.name, some value, some d⟩) (text : Text) :
    updateTag text e = text := by
  obtain ⟨name, raw, date⟩ := e
  rw [updateTag]
  split
  · next value d hraw hdate =>
    cases hraw
    cases hdate
    exact if_neg fun hname ↦ h value d hname rfl
  · rfl

theorem updateTag_of_main (hname : name ∈ mainTags) (text value : Text) (d : Date) :
    updateTag text ⟨name, some value, some d⟩ =
      Text.replaceWord text (tagWord name value) (tagWord name d.toText) := if_pos hname

theorem tagValues_updateTag_self (hname : name ∈ mainTags)
    (h : IsTag name value ∧ Text.IsWord (tagWord name value)) (text : Text) (d : Date) :
    tagValues name (updateTag text ⟨name, some value, some d⟩) =
      (tagValues name text).replace value d.toText := by
  rw [updateTag_of_main hname,
    tagValues_replaceWord h.2 h.1 (isWord_tagWord_toText h.2 d) (h.1.toText d), if_pos rfl]

theorem tagValues_updateTag_of_ne {e : TagEntry} {key : Text}
    (htag : ∀ name value d, name ∈ mainTags → e = ⟨name, some value, some d⟩ →
      IsTag name value ∧ Text.IsWord (tagWord name value))
    (h : ∀ value d, key ∈ mainTags → e ≠ ⟨key, some value, some d⟩) (text : Text) :
    tagValues key (updateTag text e) = tagValues key text := by
  by_cases hrewrites : ∃ name value d, name ∈ mainTags ∧ e = ⟨name, some value, some d⟩
  · obtain ⟨name, value, d, hname, rfl⟩ := hrewrites
    obtain ⟨htag, hword⟩ := htag name value d hname rfl
    have hkey : key ≠ name := by
      rintro rfl
      exact h value d hname rfl
    rw [updateTag_of_main hname,
      tagValues_replaceWord hword htag (isWord_tagWord_toText hword d) (htag.toText d),
      if_neg hkey]
  · rw [updateTag_eq_self fun value d hname heq ↦ hrewrites ⟨e.name, value, d, hname, heq⟩]

section Run

variable {es : List TagEntry} {key : Text}

theorem tagValues_foldl_updateTag_of_not_mem
    (htags : ∀ name value d, name ∈ mainTags → ⟨name, some value, some d⟩ ∈ es →
      IsTag name value ∧ Text.IsWord (tagWord name value))
    (h : ∀ value d, key ∈ mainTags → ⟨key, some value, some d⟩ ∉ es) (text : Text) :
    tagValues key (es.foldl updateTag text) = tagValues key text := by
  induction es generalizing text with
  | nil => rfl
  | cons e es ih =>
    have hstep : tagValues key (updateTag text e) = tagValues key text := by
      refine tagValues_updateTag_of_ne (fun name value d hname heq ↦ ?_)
        (fun value d hkey heq ↦ ?_) text
      · exact htags name value d hname (heq ▸ List.mem_cons_self)
      · exact h value d hkey (heq ▸ List.mem_cons_self)
    rw [List.foldl_cons, ih (fun name value d hname hmem ↦
        htags name value d hname (List.mem_cons_of_mem e hmem))
      (fun value d hkey hmem ↦ h value d hkey (List.mem_cons_of_mem e hmem)), hstep]

/-- Where no main tag has two entries, the one that there is replaces one value. -/
theorem tagValues_foldl_updateTag_of_mem
    (honce : (es.map TagEntry.name).Pairwise fun name name' ↦ name ∈ mainTags → name ≠ name')
    (htags : ∀ name value d, name ∈ mainTags → ⟨name, some value, some d⟩ ∈ es →
      IsTag name value ∧ Text.IsWord (tagWord name value))
    (hname : name ∈ mainTags) (h : ⟨name, some value, some d⟩ ∈ es) (text : Text) :
    tagValues name (es.foldl updateTag text) = (tagValues name text).replace value d.toText := by
  induction es generalizing text with
  | nil => cases h
  | cons e es ih =>
    obtain ⟨hfirst, honce⟩ := List.pairwise_cons.mp honce
    have hrest : ∀ name value d, name ∈ mainTags → ⟨name, some value, some d⟩ ∈ es →
        IsTag name value ∧ Text.IsWord (tagWord name value) :=
      fun name value d hname hmem ↦ htags name value d hname (List.mem_cons_of_mem e hmem)
    rw [List.foldl_cons]
    rcases List.mem_cons.mp h with rfl | hmem
    · -- the entries behind are of other tags
      have hnone : ∀ value' d', name ∈ mainTags → ⟨name, some value', some d'⟩ ∉ es :=
        fun value' d' _ hmem ↦ hfirst name (List.mem_map_of_mem hmem) hname rfl
      rw [tagValues_foldl_updateTag_of_not_mem hrest hnone,
        tagValues_updateTag_self hname (htags name value d hname List.mem_cons_self)]
    · -- the entry in front is of another tag
      have hother : ∀ value' d', name ∈ mainTags → e ≠ ⟨name, some value', some d'⟩ := by
        rintro value' d' _ rfl
        exact hfirst name (List.mem_map_of_mem hmem) hname rfl
      have hstep : tagValues name (updateTag text e) = tagValues name text := by
        refine tagValues_updateTag_of_ne (fun name value d hname heq ↦ ?_) hother text
        exact htags name value d hname (heq ▸ List.mem_cons_self)
      rw [ih honce hrest hmem, hstep]

end Run

namespace TagTable

variable {right : Text → Date → Prop} {tags : TagTable} {key : Text}

theorem Learns.isTag_of_mem (h : (ofText text base).Learns right tags) (name value : Text)
    (d : Date) (hname : name ∈ mainTags) (hmem : ⟨name, some value, some d⟩ ∈ tags.entries) :
    IsTag name value ∧ Text.IsWord (tagWord name value) :=
  isTag_of_get? ((h.mem_entries_iff hname).mp hmem).1

theorem Learns.tagValues_updateText_of_date (h : (ofText text base).Learns right tags)
    (hname : name ∈ mainTags) (hget : (extractTags text).get? name = some value)
    (hdate : tags.value? name = some (.date d)) :
    tagValues name (updateText tags text) = (tagValues name text).replace value d.toText :=
  tagValues_foldl_updateTag_of_mem (h.mainOnce (mainOnce_ofText text base)) h.isTag_of_mem hname
    ((h.mem_entries_iff hname).mpr ⟨hget, hdate⟩) text

theorem Learns.tagValues_updateText_of_ne (h : (ofText text base).Learns right tags)
    (hdate : ∀ d, key ∈ mainTags → tags.value? key ≠ some (.date d)) :
    tagValues key (updateText tags text) = tagValues key text :=
  tagValues_foldl_updateTag_of_not_mem h.isTag_of_mem (fun _ d hkey hmem ↦
    hdate d hkey ((h.mem_entries_iff hkey).mp hmem).2) text

end TagTable

theorem foldl_updateTag_eq_self {es : List TagEntry} (h : ∀ e ∈ es, updateTag text e = text) :
    es.foldl updateTag text = text := by
  induction es with
  | nil => rfl
  | cons e es ih =>
    obtain ⟨he, hes⟩ := List.forall_mem_cons.mp h
    rw [List.foldl_cons, he, ih hes]

theorem updateText_ofText (text : Text) (today : Date) :
    updateText (.ofText text today) text = text := by
  have hdates : ∀ e ∈ (TagTable.ofText text today).entries, e.date = none := by
    intro e he
    rcases List.mem_append.mp he with htag | hcreated
    · obtain ⟨binding, -, rfl⟩ := List.mem_map.mp htag
      rfl
    · rw [List.mem_singleton.mp hcreated]
  refine foldl_updateTag_eq_self fun e he ↦ updateTag_eq_self (fun value d _ heq ↦ ?_) text
  have hdate := hdates e he
  rw [heq] at hdate
  cases hdate

/-- A text that is rewritten is the text with the days found, whether or not there are any. -/
theorem eq_updateText_of_resolveText (h : resolveText base soonDays text = .ok r) :
    (∃ rewritten, (resolveMainTags base soonDays (.ofText text base)).1 = .ok rewritten) ∧
      r = updateText (resolveMainTags base soonDays (.ofText text base)).2 text := by
  have hsound := (resolveMainTags_sound base soonDays (.ofText text base)).2
  rw [resolveText] at h
  rcases hresult : resolveMainTags base soonDays (.ofText text base) with ⟨error | rewritten, tags⟩
  · rw [hresult] at h
    cases h
  · rw [hresult] at h hsound
    refine ⟨⟨rewritten, rfl⟩, ?_⟩
    cases rewritten with
    | false =>
      obtain ⟨rfl, -⟩ := (hsound false rfl).2 rfl
      cases h
      exact (updateText_ofText text base).symm
    | true =>
      cases h
      rfl

theorem Rewrites.tagValues_eq (h : Rewrites base soonDays text name value d)
    (hr : resolveText base soonDays text = .ok r) :
    tagValues name r = (tagValues name text).replace value d.toText := by
  obtain ⟨hname, hget, hdate⟩ := rewrites_iff.mp h
  have hlearns := (resolveMainTags_sound base soonDays (.ofText text base)).1
  rw [(eq_updateText_of_resolveText hr).2]
  exact hlearns.tagValues_updateText_of_date hname hget hdate

theorem tagValues_eq_of_not_rewrites (h : ∀ value d, ¬ Rewrites base soonDays text name value d)
    (hr : resolveText base soonDays text = .ok r) : tagValues name r = tagValues name text := by
  have hlearns := (resolveMainTags_sound base soonDays (.ofText text base)).1
  rw [(eq_updateText_of_resolveText hr).2]
  refine hlearns.tagValues_updateText_of_ne fun d hname hdate ↦ ?_
  obtain ⟨value, hget, -⟩ := hlearns.exists_get?_of_date hname hdate
  exact h value d (rewrites_iff.mpr ⟨hname, hget, hdate⟩)

theorem Rewrites.get?_eq (h : Rewrites base soonDays text name value d)
    (hr : resolveText base soonDays text = .ok r) : (extractTags r).get? name =
      some (if (Text.words text).count (tagWord name value) = 1 then d.toText else value) := by
  obtain ⟨-, hget, -⟩ := rewrites_iff.mp h
  have htag := (isTag_of_get? hget).1
  rw [get?_extractTags] at hget
  rw [get?_extractTags, h.tagValues_eq hr, getLast?_replace hget, count_tagValues htag]

theorem get?_eq_of_not_rewrites (h : ∀ value d, ¬ Rewrites base soonDays text name value d)
    (hr : resolveText base soonDays text = .ok r) :
    (extractTags r).get? name = (extractTags text).get? name := by
  rw [get?_extractTags, get?_extractTags, tagValues_eq_of_not_rewrites h hr]

/-! ## What is left alone -/

/-- A main tag that is not rewritten was written like its day before. -/
theorem isSettled_of_not_rewrites (hr : resolveText base soonDays text = .ok r)
    (hname : name ∈ mainTags)
    (h : ∀ value d, Rewrites base soonDays text name value d → d.toText = value) :
    IsSettled base soonDays (.ofText text base) name := by
  intro value hvalue
  obtain ⟨⟨rewritten, hok⟩, -⟩ := eq_updateText_of_resolveText hr
  obtain ⟨hresolved, -⟩ :=
    (resolveMainTags_sound base soonDays (.ofText text base)).2 rewritten hok
  obtain ⟨d, hd, hsame | hdate⟩ := hresolved name hname value hvalue
  · subst hsame
    exact ⟨d, rfl, by rw [evaluate_of_gives hd]⟩
  · have hget := (value?_ofText_eq_raw_iff hname base).mp hvalue
    have hsame := h value d (rewrites_iff.mpr ⟨hname, hget, hdate⟩)
    subst hsame
    exact ⟨d, rfl, by rw [evaluate_of_gives hd]⟩

theorem eq_of_replace_eq_self {α : Type} [BEq α] [LawfulBEq α] {l : List α} {a b : α} (ha : a ∈ l)
    (h : l.replace a b = l) : b = a := by
  by_contra hne
  have hcount := congrArg (List.count a) h
  have hpos : 0 < l.count a := List.count_pos_iff.mpr ha
  rw [List.count_replace, if_pos (by simpa using ha), beq_false_of_ne hne,
    beq_self_eq_true] at hcount
  simp only [Bool.false_eq_true, if_false, if_true] at hcount
  omega

/-- **Texts that are left alone.** Rewriting leaves a text as it is exactly if each main tag in it
is the written form of the day that it stands for. -/
theorem resolveText_eq_self_iff : resolveText base soonDays text = .ok text ↔
    ∀ name ∈ mainTags, IsSettled base soonDays (.ofText text base) name := by
  constructor
  · intro hr name hname
    refine isSettled_of_not_rewrites hr hname fun value d h ↦ ?_
    have hget := (rewrites_iff.mp h).2.1
    rw [get?_extractTags] at hget
    exact eq_of_replace_eq_self (List.mem_of_getLast? hget) (h.tagValues_eq hr).symm
  · intro h
    rw [resolveText, resolveMainTags, resolveTags_eq_of_isSettled h]

end Rewriting

end Agenda
