import Agenda.Proofs.MainTags

/-!
# What rewriting leaves in place

A text is its words and the runs of blanks around them, its gaps; woven together they are the text
again (`weave_gaps_words`). To replace a word by a word changes one element of the list of words and
no gap. So all that there is to say about a rewritten text is what became of the list of its words.

## The order of the replacements

The words are replaced in the order of the table, which is the order in which the keys first occur
in the text. Words of different tags are different, so the replacements commute
(`List.Perm.foldl_eq'`), and the list of words after all of them depends on the days found alone.
No main tag has two entries, so each of them replaces at most one word.
-/

namespace Agenda

namespace Text

/-- The runs of blanks before, between and behind the words, most of them a single blank, and empty
at an end of the text where a word stands. -/
def gaps : Text → List Text
  | [] => [[]]
  | c :: s =>
    if isBlank c then (gaps s).modifyHead (c :: ·)
    else if atBoundary s then [] :: gaps s
    else gaps s

/-- Gaps and words in turn, beginning with a gap. -/
def weave : List Text → List Text → Text
  | [], words => words.flatten
  | gap :: gaps, [] => gap ++ gaps.flatten
  | gap :: gaps, word :: words => gap ++ word ++ weave gaps words

variable {w s old new : Text} {c : Char}

/-! ## Gaps -/

theorem gaps_cons_of_isBlank (hc : isBlank c = true) (s : Text) :
    gaps (c :: s) = (gaps s).modifyHead (c :: ·) := by
  rw [gaps, if_pos hc]

theorem gaps_append (hw : IsWord w) (hs : atBoundary s = true) :
    gaps (w ++ s) = [] :: gaps s := by
  obtain ⟨hne, hblank⟩ := hw
  induction w with
  | nil => exact absurd rfl hne
  | cons c w ih =>
    obtain ⟨hc, hw⟩ := List.forall_mem_cons.mp hblank
    have hc' : ¬ isBlank c = true := by rw [hc]; exact Bool.false_ne_true
    rw [List.cons_append, gaps, if_neg hc']
    cases w with
    | nil => exact if_pos hs
    | cons d w =>
      -- the word goes on, so its first character ends nothing
      have hinside : ¬ atBoundary (d :: w ++ s) = true := by
        rw [List.cons_append, atBoundary, hw d List.mem_cons_self]
        exact Bool.false_ne_true
      rw [if_neg hinside]
      exact ih (List.cons_ne_nil d w) hw

theorem gaps_ne_nil (s : Text) : gaps s ≠ [] := by
  induction s using wordInduction with
  | nil => exact List.cons_ne_nil _ _
  | blank c s hc ih =>
    obtain ⟨gap, rest, hs⟩ := List.exists_cons_of_ne_nil ih
    rw [gaps_cons_of_isBlank hc, hs]
    exact List.cons_ne_nil _ _
  | word w s hw hs ih =>
    rw [gaps_append hw hs]
    exact List.cons_ne_nil _ _

theorem weave_modifyHead {gaps : List Text} (h : gaps ≠ []) (c : Char) (words : List Text) :
    weave (gaps.modifyHead (c :: ·)) words = c :: weave gaps words := by
  obtain ⟨gap, rest, rfl⟩ := List.exists_cons_of_ne_nil h
  cases words <;> rfl

theorem weave_gaps_words (s : Text) : weave (gaps s) (words s) = s := by
  induction s using wordInduction with
  | nil => rfl
  | blank c s hc ih =>
    rw [gaps_cons_of_isBlank hc, words_cons_of_isBlank hc, weave_modifyHead (gaps_ne_nil s), ih]
  | word w s hw hs ih =>
    rw [gaps_append hw hs, words_append hw hs, weave, ih, List.nil_append]

theorem gaps_replaceWord (hold : IsWord old) (hnew : IsWord new) (s : Text) :
    gaps (replaceWord s old new) = gaps s := by
  induction s using wordInduction with
  | nil => rw [replaceWord_nil hold]
  | blank c s hc ih =>
    rw [replaceWord_cons_of_isBlank hold hc, gaps_cons_of_isBlank hc, gaps_cons_of_isBlank hc, ih]
  | word u s hu hs ih =>
    rw [gaps_append hu hs]
    by_cases hne : u = old
    · subst hne
      rw [replaceWord_append_self hs, gaps_append hnew hs]
    · rw [replaceWord_append_of_ne hold hu hs hne,
        gaps_append hu (atBoundary_replaceWord hold hs new), ih]

end Text

/-! ## Replacing words in turn -/

theorem replace_self {α : Type} [BEq α] [LawfulBEq α] (l : List α) (a : α) :
    l.replace a a = l := by
  induction l with
  | nil => rfl
  | cons x l ih =>
    rw [List.replace_cons, ih]
    split
    · next h => rw [eq_of_beq h]
    · rfl

/-- Two replacements commute if neither touches what the other one takes or puts. -/
theorem replace_comm {α : Type} [BEq α] [LawfulBEq α] {a b a' b' : α} (h : a ≠ b) (hb : a' ≠ b)
    (ha : b' ≠ a) (l : List α) :
    (l.replace a a').replace b b' = (l.replace b b').replace a a' := by
  induction l with
  | nil => rfl
  | cons x l ih =>
    by_cases hxa : a = x
    · subst hxa
      rw [List.replace_cons_self, List.replace_cons, beq_false_of_ne hb.symm, List.replace_cons,
        beq_false_of_ne h.symm, List.replace_cons_self]
    · by_cases hxb : b = x
      · subst hxb
        rw [List.replace_cons, beq_false_of_ne h, List.replace_cons_self, List.replace_cons_self,
          List.replace_cons, beq_false_of_ne ha.symm]
      · simp only [List.replace_cons, beq_false_of_ne hxa, beq_false_of_ne hxb, ih]

theorem IsTag.tagWord_ne {k k' v v' : Text} (h : IsTag k v) (h' : IsTag k' v') (hk : k ≠ k') :
    tagWord k v ≠ tagWord k' v' := by
  intro heq
  have hread := tagOfWord?_eq_some_iff.mpr ⟨rfl, h⟩
  rw [heq, tagOfWord?_eq_some_iff.mpr ⟨rfl, h'⟩] at hread
  cases hread
  exact hk rfl

/-- The words with the value of a tag replaced by a day. -/
def writeDay (words : List Text) : Text × Text × Date → List Text
  | (name, value, d) => words.replace (tagWord name value) (tagWord name d.toText)

/-- The words of a text with a day written for each main tag that it has. -/
def writeDays (day : Text → Date) (text : Text) : List Text :=
  mainTags.foldl (fun words name ↦
    match (extractTags text).get? name with
    | some value => writeDay words (name, value, day name)
    | none => words) (Text.words text)

/-- What is written for an entry: the value of the main tag, and the day that replaces it. -/
def TagEntry.written? (e : TagEntry) : Option (Text × Text × Date) := do
  let value ← e.raw
  let d ← e.date
  if mainTags.contains e.name then some (e.name, value, d) else none

variable {base : Date} {soonDays : Int} {text r name value : Text} {d : Date}

theorem TagEntry.written?_eq_some_iff {e : TagEntry} :
    e.written? = some (name, value, d) ↔ name ∈ mainTags ∧ e = ⟨name, some value, some d⟩ := by
  obtain ⟨name', raw, date⟩ := e
  constructor
  · intro h
    obtain ⟨value', hvalue, h⟩ := Option.bind_eq_some_iff.mp h
    obtain ⟨d', hd, h⟩ := Option.bind_eq_some_iff.mp h
    cases hvalue
    cases hd
    split at h
    · next hname =>
      cases h
      exact ⟨List.contains_iff_mem.mp hname, rfl⟩
    · cases h
  · rintro ⟨hname, heq⟩
    cases heq
    exact if_pos (List.contains_iff_mem.mpr hname)

/-- Days written in turn for tags of different names may be written in any order. -/
theorem foldl_writeDay_perm {days days' : List (Text × Text × Date)} (hperm : days.Perm days')
    (htags : ∀ name value d, (name, value, d) ∈ days → IsTag name value)
    (honce : ∀ x ∈ days, ∀ y ∈ days, x.1 = y.1 → x = y) (words : List Text) :
    days.foldl writeDay words = days'.foldl writeDay words := by
  refine hperm.foldl_eq' ?_ words
  rintro ⟨name, value, d⟩ hx ⟨name', value', d'⟩ hy words
  by_cases hname : name = name'
  · cases honce _ hx _ hy hname
    rfl
  · have htag := htags name value d hx
    have htag' := htags name' value' d' hy
    exact replace_comm (htag.tagWord_ne htag' hname)
      ((htag.toText d).tagWord_ne htag' hname)
      ((htag'.toText d').tagWord_ne htag (Ne.symm hname)) words

/-! ## Rewritten texts -/

theorem words_updateTag {e : TagEntry}
    (h : ∀ name value d, e.written? = some (name, value, d) → Text.IsWord (tagWord name value))
    (text : Text) : Text.gaps (updateTag text e) = Text.gaps text ∧
      Text.words (updateTag text e) = e.written?.elim (Text.words text)
        (writeDay (Text.words text)) := by
  cases hwritten : e.written? with
  | none =>
    have hsame : updateTag text e = text := by
      refine updateTag_eq_self (fun value d hname heq ↦ ?_) text
      rw [TagEntry.written?_eq_some_iff.mpr ⟨hname, heq⟩] at hwritten
      cases hwritten
    rw [hsame]
    exact ⟨rfl, rfl⟩
  | some day =>
    obtain ⟨name, value, d⟩ := day
    obtain ⟨hname, rfl⟩ := TagEntry.written?_eq_some_iff.mp hwritten
    have hword := h name value d hwritten
    have hnew := isWord_tagWord_toText hword d
    rw [updateTag_of_main hname]
    exact ⟨Text.gaps_replaceWord hword hnew text, Text.words_replaceWord hword hnew text⟩

theorem words_foldl_updateTag (es : List TagEntry)
    (h : ∀ e ∈ es, ∀ name value d, e.written? = some (name, value, d) →
      Text.IsWord (tagWord name value)) (text : Text) :
    Text.gaps (es.foldl updateTag text) = Text.gaps text ∧
      Text.words (es.foldl updateTag text) =
        (es.filterMap TagEntry.written?).foldl writeDay (Text.words text) := by
  induction es generalizing text with
  | nil => exact ⟨rfl, rfl⟩
  | cons e es ih =>
    obtain ⟨he, hes⟩ := List.forall_mem_cons.mp h
    obtain ⟨hgaps, hwords⟩ := words_updateTag he text
    obtain ⟨ihgaps, ihwords⟩ := ih hes (updateTag text e)
    rw [List.foldl_cons]
    refine ⟨ihgaps.trans hgaps, ?_⟩
    rw [ihwords, hwords]
    cases hwritten : e.written? with
    | none => rw [List.filterMap_cons_none hwritten]; rfl
    | some day => rw [List.filterMap_cons_some hwritten]; rfl

section Days

variable {tags : TagTable} {right : Text → Date → Prop}

/-- The day that is written for a tag of a text, if the table has found one. -/
def foundDay? (text : Text) (tags : TagTable) (name : Text) : Option (Text × Text × Date) :=
  ((extractTags text).get? name).bind fun value ↦
    match tags.value? name with
    | some (.date d) => some (name, value, d)
    | _ => none

theorem foundDay?_eq_some_iff {name' : Text} : foundDay? text tags name' = some (name, value, d) ↔
    name' = name ∧ (extractTags text).get? name = some value ∧
      tags.value? name = some (.date d) := by
  rw [foundDay?, Option.bind_eq_some_iff]
  constructor
  · rintro ⟨value', hget, hfound⟩
    split at hfound
    · next d' hdate =>
      cases hfound
      exact ⟨rfl, hget, hdate⟩
    · cases hfound
  · rintro ⟨rfl, hget, hdate⟩
    exact ⟨value, hget, by rw [hdate]⟩

theorem filterMap_written?_perm (h : (TagTable.ofText text base).Learns right tags) :
    (tags.entries.filterMap TagEntry.written?).Perm (mainTags.filterMap (foundDay? text tags)) := by
  have honce := List.pairwise_map.mp (h.mainOnce (TagTable.mainOnce_ofText text base))
  refine (List.perm_ext_iff_of_nodup ?_ ?_).mpr ?_
  · refine List.pairwise_filterMap.mpr (honce.imp ?_)
    rintro e e' hne ⟨name, value, d⟩ hwritten ⟨name', value', d'⟩ hwritten' heq
    obtain ⟨hname, rfl⟩ := TagEntry.written?_eq_some_iff.mp hwritten
    obtain ⟨-, rfl⟩ := TagEntry.written?_eq_some_iff.mp hwritten'
    cases heq
    exact hne hname rfl
  · refine List.Nodup.filterMap ?_ (by decide)
    rintro name name' ⟨name'', value, d⟩ hfound hfound'
    rw [(foundDay?_eq_some_iff.mp hfound).1, (foundDay?_eq_some_iff.mp hfound').1]
  · rintro ⟨name, value, d⟩
    simp only [List.mem_filterMap, TagEntry.written?_eq_some_iff, foundDay?_eq_some_iff]
    constructor
    · rintro ⟨e, he, hname, rfl⟩
      exact ⟨name, hname, rfl, (h.mem_entries_iff hname).mp he⟩
    · rintro ⟨name', hname, rfl, hfound⟩
      exact ⟨_, (h.mem_entries_iff hname).mpr hfound, hname, rfl⟩

/-- The words after rewriting, whatever the order of the entries. -/
theorem words_updateText (h : (TagTable.ofText text base).Learns right tags) :
    Text.gaps (updateText tags text) = Text.gaps text ∧
      Text.words (updateText tags text) =
        (mainTags.filterMap (foundDay? text tags)).foldl writeDay (Text.words text) := by
  have hread : ∀ {name value : Text} {d : Date},
      (name, value, d) ∈ tags.entries.filterMap TagEntry.written? →
        (extractTags text).get? name = some value ∧ tags.value? name = some (.date d) := by
    intro name value d hmem
    obtain ⟨name', -, hfound⟩ :=
      List.mem_filterMap.mp ((filterMap_written?_perm h).mem_iff.mp hmem)
    exact (foundDay?_eq_some_iff.mp hfound).2
  obtain ⟨hgaps, hwords⟩ := words_foldl_updateTag tags.entries
    (fun e he name value d hwritten ↦
      (isTag_of_get? (hread (List.mem_filterMap.mpr ⟨e, he, hwritten⟩)).1).2) text
  refine ⟨hgaps, hwords.trans (foldl_writeDay_perm (filterMap_written?_perm h) ?_ ?_ _)⟩
  · intro name value d hmem
    exact (isTag_of_get? (hread hmem).1).1
  · rintro ⟨name, value, d⟩ hx ⟨name', value', d'⟩ hy (rfl : name = name')
    obtain ⟨hget, hdate⟩ := hread hx
    obtain ⟨hget', hdate'⟩ := hread hy
    cases hget.symm.trans hget'
    cases hdate.symm.trans hdate'
    rfl

/-- The days found are written, and the other main tags in the text are written like their days. -/
theorem foldl_foundDay?_eq_writeDays {day : Text → Date}
    (h : ∀ name ∈ mainTags, ∀ value, (extractTags text).get? name = some value →
      tags.value? name = some (.date (day name)) ∨
        tags.value? name = some (.raw value) ∧ (day name).toText = value) :
    (mainTags.filterMap (foundDay? text tags)).foldl writeDay (Text.words text) =
      writeDays day text := by
  rw [List.foldl_filterMap, writeDays]
  refine List.foldl_ext _ _ _ fun words name hname ↦ ?_
  cases hget : (extractTags text).get? name with
  | none => rw [foundDay?, hget]; rfl
  | some value =>
    rcases h name hname value hget with hdate | ⟨hraw, hsame⟩
    · rw [foundDay?_eq_some_iff.mpr ⟨rfl, hget, hdate⟩]
    · rw [foundDay?, hget, Option.bind_some, hraw]
      dsimp only [writeDay]
      rw [hsame, replace_self]

end Days

/-- Each main tag of a text that is rewritten denotes a day, which the resolved table knows unless
the value is the written form of it. -/
theorem exists_day_of_resolveText (hr : resolveText base soonDays text = .ok r) :
    ∃ day : Text → Date, ∀ name ∈ mainTags, ∀ value,
      (extractTags text).get? name = some value →
        Gives base soonDays (.ofText text base) value (day name) ∧
        ((resolveMainTags base soonDays (.ofText text base)).2.value? name =
            some (.date (day name)) ∨
          (resolveMainTags base soonDays (.ofText text base)).2.value? name =
            some (.raw value) ∧ (day name).toText = value) := by
  obtain ⟨⟨rewritten, hok⟩, -⟩ := eq_updateText_of_resolveText hr
  obtain ⟨hlearns, hsound⟩ := resolveMainTags_sound base soonDays (.ofText text base)
  have hresolved := (hsound rewritten hok).1
  have hday : ∀ name, ∃ d : Date, name ∈ mainTags → ∀ value,
      (extractTags text).get? name = some value →
        Gives base soonDays (.ofText text base) value d ∧
        ((resolveMainTags base soonDays (.ofText text base)).2.value? name = some (.date d) ∨
          (resolveMainTags base soonDays (.ofText text base)).2.value? name =
            some (.raw value) ∧ d.toText = value) := by
    intro name
    by_cases hmain : ∃ value, name ∈ mainTags ∧ (extractTags text).get? name = some value
    · obtain ⟨value, hname, hget⟩ := hmain
      have hraw := (value?_ofText_eq_raw_iff hname base).mpr hget
      obtain ⟨d, hd, hwritten⟩ := hresolved name hname value hraw
      refine ⟨d, fun _ value' hget' ↦ ?_⟩
      cases hget.symm.trans hget'
      refine ⟨hd, ?_⟩
      rcases hlearns.value? name with heq | ⟨value', d', hraw', hdate, hd'⟩
      · -- the table has learned nothing of the tag, so the value is written like its day
        rcases hwritten with hsame | hdate
        · exact Or.inr ⟨heq.trans hraw, hsame⟩
        · exact Or.inl hdate
      · cases hraw.symm.trans hraw'
        rw [hd.unique hd']
        exact Or.inl hdate
    · exact ⟨base, fun hname value hget ↦ absurd ⟨value, hname, hget⟩ hmain⟩
  -- a day for each tag, and any day for the tags that are missing
  choose day hday using hday
  exact ⟨day, hday⟩

/-- **Rewriting touches nothing else.** A text that is rewritten keeps its gaps, and its words are
the same but for one word of each main tag in it: where the value that is read first stands, there
stands now the day that it denotes over the text. A value that is written like its day stays. -/
theorem resolveText_frame (base : Date) (soonDays : Int) (text r : Text)
    (hr : resolveText base soonDays text = .ok r) :
    ∃ day : Text → Date,
      (∀ name ∈ mainTags, ∀ value, (extractTags text).get? name = some value →
        Gives base soonDays (.ofText text base) value (day name)) ∧
      text = Text.weave (Text.gaps text) (Text.words text) ∧
      r = Text.weave (Text.gaps text) (writeDays day text) ∧
      ∀ name ∈ mainTags, ∀ value, (extractTags text).get? name = some value →
        (day name).toText = value → tagValues name r = tagValues name text := by
  obtain ⟨day, hday⟩ := exists_day_of_resolveText hr
  have hlearns := (resolveMainTags_sound base soonDays (.ofText text base)).1
  have hupdate := (eq_updateText_of_resolveText hr).2
  obtain ⟨hgaps, hwords⟩ := words_updateText hlearns
  rw [← hupdate] at hgaps hwords
  have hwritten := hwords.trans
    (foldl_foundDay?_eq_writeDays fun name hname value hget ↦ (hday name hname value hget).2)
  refine ⟨day, fun name hname value hget ↦ (hday name hname value hget).1,
    (Text.weave_gaps_words text).symm, ?_, fun name hname value hget hsame ↦ ?_⟩
  · rw [← hgaps, ← hwritten, Text.weave_gaps_words]
  · by_cases hrewrites : ∃ value' d, Rewrites base soonDays text name value' d
    · obtain ⟨value', d, h⟩ := hrewrites
      cases hget.symm.trans (rewrites_iff.mp h).2.1
      have hd : d = day name := h.gives.unique (hday name hname value hget).1
      rw [h.tagValues_eq hr, hd, hsame, replace_self]
    · exact tagValues_eq_of_not_rewrites (fun value' d h ↦ hrewrites ⟨value', d, h⟩) hr

/-- The first of two equal words is replaced, between blanks that stay as they are. -/
theorem resolveText_frame_call : ∃ day : Text → Date,
    "due:2020-07-10 call  Bob due:fri t:2020-07-08".toList =
      Text.weave (Text.gaps "due:fri call  Bob due:fri t:due-2d".toList)
        (writeDays day "due:fri call  Bob due:fri t:due-2d".toList) := by
  obtain ⟨day, -, -, hr, -⟩ := resolveText_frame ⟨2020, 7, 9, by decide⟩ 7
    "due:fri call  Bob due:fri t:due-2d".toList
    "due:2020-07-10 call  Bob due:fri t:2020-07-08".toList
    (eq_ok_of_toOption (by decide +kernel))
  exact ⟨day, hr⟩

end Agenda
