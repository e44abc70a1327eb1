import Agenda.Proofs.MainTags
import Mathlib.Data.List.DropRight

/-!
# Reading a written task

Reading a line takes a mark, a priority and up to two days off its front, each if it is there, and
what is left is the subject. Writing puts them back in the same order. So a task is read back from
its line if nothing at the front of its subject is taken for a part that the task does not have.
Nothing is, because it was not the first time either: where a part is missing from the task and all
parts behind it are, the reader has already seen the subject there and passed it by (`IsRead`).

Two things differ between a line and what is written for its task. A finished task may have got its
day from outside. It then stands where the reader had found none, so the day of creation is missing,
and the same day is read off the line the next time. And the white space at the ends of the line is
gone. What is written ends like the line, unless the subject is empty, and then it ends with the
space behind the last part, which makes no difference to the pieces (`splitOn_strip_toText`).
-/

namespace Agenda

/-! ## Texts without white space at their ends -/

namespace Text

/-- There is no white space at either end. -/
def IsTrimmed (s : Text) : Prop :=
  (∀ c ∈ s.head?, isBlank c = false) ∧ ∀ c ∈ s.getLast?, isBlank c = false

variable {s w : Text} {ws ws' : List Text} {sep : Char}

theorem isTrimmed_strip (s : Text) : IsTrimmed (strip s) := by
  have hprefix : strip s <+: s.dropWhile isBlank := List.rdropWhile_prefix isBlank _
  constructor
  · intro c hc
    -- the first character is the one that stopped the search from the left
    obtain ⟨t, ht⟩ := hprefix
    have hhead : (s.dropWhile isBlank).head? = some c := by
      rw [← ht, List.head?_append, Option.mem_def.mp hc, Option.some_or]
    have hnot := List.head?_dropWhile_not isBlank s
    rwa [hhead] at hnot
  · intro c hc
    obtain ⟨hne, rfl⟩ := List.mem_getLast?_eq_getLast hc
    exact eq_false_of_ne_true (List.rdropWhile_last_not isBlank (s.dropWhile isBlank) hne)

theorem IsTrimmed.strip_eq (h : IsTrimmed s) : strip s = s := trim_eq_self h.1 h.2

theorem IsTrimmed.strip_append_space (h : IsTrimmed s) : strip (s ++ [' ']) = s := by
  cases s with
  | nil => rfl
  | cons c s =>
    have hc : isBlank c = false := h.1 c rfl
    have hback := List.rdropWhile_concat_pos isBlank (c :: s) ' ' (by decide)
    rw [strip, trim, List.cons_append, List.dropWhile_cons_of_neg (by simpa using hc)]
    refine hback.trans ?_
    conv_rhs => rw [← h.strip_eq, strip, trim, List.dropWhile_cons_of_neg (by simpa using hc)]
    rfl

/-! ## Pieces put together -/

theorem join_cons (hws : ws ≠ []) (sep w : Text) :
    join sep (w :: ws) = w ++ sep ++ join sep ws := by
  cases ws with
  | nil => exact absurd rfl hws
  | cons v ws => rfl

theorem join_append (hws : ws ≠ []) (hws' : ws' ≠ []) (sep : Text) :
    join sep (ws ++ ws') = join sep ws ++ sep ++ join sep ws' := by
  induction ws with
  | nil => exact absurd rfl hws
  | cons w ws ih =>
    cases ws with
    | nil => exact join_cons hws' sep w
    | cons v ws =>
      have hne : v :: ws ≠ [] := List.cons_ne_nil v ws
      rw [List.cons_append, join_cons (List.append_ne_nil_of_left_ne_nil hne ws'), ih hne,
        join_cons hne]
      simp only [List.append_assoc]

theorem head?_join (hw : w ≠ []) (sep : Text) (ws : List Text) :
    (join sep (w :: ws)).head? = w.head? := by
  cases ws with
  | nil => rfl
  | cons v ws =>
    rw [join, List.append_assoc]
    exact List.head?_append_of_ne_nil w hw

theorem getLast?_join (hw : w ≠ []) (sep : Text) (ws : List Text) :
    (join sep (ws ++ [w])).getLast? = w.getLast? := by
  by_cases hws : ws = []
  · subst hws
    rfl
  · rw [join_append hws (List.cons_ne_nil w [])]
    exact List.getLast?_append_of_ne_nil _ hw

theorem splitOn_join_append (h : ∀ w ∈ ws, sep ∉ w) (s : Text) :
    splitOn sep (join [sep] (ws ++ [s])) = ws ++ splitOn sep s := by
  induction ws with
  | nil => rfl
  | cons w ws ih =>
    obtain ⟨hw, hws⟩ := List.forall_mem_cons.mp h
    rw [List.cons_append, join_cons (by simp), List.append_assoc, List.singleton_append,
      splitOn_append_cons, splitOn_of_not_mem hw, ih hws, List.singleton_append, List.cons_append]

theorem splitOn_join (h : ∀ w ∈ ws, sep ∉ w) (hws : ws ≠ []) :
    splitOn sep (join [sep] ws) = ws := by
  obtain ⟨ws, w, rfl⟩ := (List.eq_nil_or_concat ws).resolve_left hws
  rw [List.concat_eq_append, splitOn_join_append fun v hv ↦ h v (by simp [hv]),
    splitOn_of_not_mem (h w (by simp))]

theorem not_mem_of_mem_splitOn (h : w ∈ splitOn sep s) : sep ∉ w := by
  induction s generalizing w with
  | nil =>
    rw [List.mem_singleton.mp h]
    exact List.not_mem_nil
  | cons c s ih =>
    rw [splitOn] at h ih
    obtain ⟨piece, pieces, hs⟩ := List.exists_cons_of_ne_nil (splitWhere_ne_nil (· == sep) s)
    rw [hs] at ih
    rw [splitWhere, hs] at h
    cases hc : c == sep with
    | true =>
      rw [hc] at h
      rcases List.mem_cons.mp h with rfl | h
      · exact List.not_mem_nil
      · exact ih h
    | false =>
      rw [hc] at h
      rcases List.mem_cons.mp h with rfl | h
      · have hne : c ≠ sep := by simpa using hc
        simp [Ne.symm hne, ih List.mem_cons_self]
      · exact ih (List.mem_cons_of_mem piece h)

theorem isTrimmed_join (hfirst : ∀ w ∈ ws.head?, w ≠ [] ∧ ∀ c ∈ w.head?, isBlank c = false)
    (hlast : ∀ w ∈ ws.getLast?, w ≠ [] ∧ ∀ c ∈ w.getLast?, isBlank c = false) (sep : Text) :
    IsTrimmed (join sep ws) := by
  constructor
  · cases ws with
    | nil => simp [join]
    | cons w ws =>
      obtain ⟨hne, hhead⟩ := hfirst w rfl
      rwa [head?_join hne]
  · rcases List.eq_nil_or_concat ws with rfl | ⟨ws, w, rfl⟩
    · simp [join]
    · obtain ⟨hne, hback⟩ := hlast w (by simp)
      rwa [List.concat_eq_append, getLast?_join hne]

end Text

/-! ## The parts at the front of a line -/

namespace Task

variable {α β : Type} {read : Text → Option α} {write : α → Text} {read' : Text → Option β}
  {words rest : List Text} {o : Option α} {t : Task} {today : Option Date}

/-- The next word, if there is one, cannot be read. -/
def Refuses (read : Text → Option α) (words : List Text) : Prop :=
  ∀ w ∈ words.head?, read w = none

theorem takeWord_of_refuses (h : Refuses read words) : takeWord read words = (none, words) := by
  cases words with
  | nil => rfl
  | cons w words => rw [takeWord, h w rfl]

/-- A word is taken off, or the next one cannot be read. -/
theorem exists_of_takeWord (h : takeWord read words = (o, rest)) :
    ∃ taken, words = taken ++ rest ∧ (taken = [] ↔ o = none) ∧ (o = none → Refuses read rest) := by
  cases words with
  | nil =>
    cases h
    exact ⟨[], rfl, by simp, by simp [Refuses]⟩
  | cons w words =>
    rw [takeWord] at h
    cases hw : read w with
    | none =>
      rw [hw] at h
      cases h
      exact ⟨[], rfl, by simp, fun _ ↦ by simpa [Refuses] using hw⟩
    | some a =>
      rw [hw] at h
      cases h
      exact ⟨[w], rfl, by simp, by simp⟩

/-- A part that may be missing is read back, if what stands behind it is not taken for it. -/
theorem takeWord_optional (hread : ∀ a ∈ o, read (write a) = some a)
    (h : o = none → Refuses read words) :
    takeWord read ((o.map write).toList ++ words) = (o, words) := by
  cases o with
  | none => exact takeWord_of_refuses (h rfl)
  | some a =>
    rw [Option.map_some, Option.toList_some, List.singleton_append, takeWord, hread a rfl]

/-- Neither a part that may be missing nor what stands behind it is taken for another part. -/
theorem refuses_optional (hread : ∀ a, read' (write a) = none)
    (h : o = none → Refuses read' words) : Refuses read' ((o.map write).toList ++ words) := by
  cases o with
  | none => exact h rfl
  | some a =>
    rintro w hw
    cases hw
    exact hread a

/-- The mark of a finished task. -/
def readMark (word : Text) : Option Unit := if word == ['x'] then some () else none

/-- The task whose line has the given pieces. -/
def ofPieces (pieces : List Text) (today : Option Date) : Task :=
  let (mark, words) := takeWord readMark pieces
  let finished := mark.isSome
  let (priority, words) := takeWord Priority.ofMark? words
  let (finishDate, words) := if finished then takeWord Date.ofText? words else (none, words)
  let (createDate, words) := takeWord Date.ofText? words
  { subject := Text.join [' '] words
    priority := priority
    finished := finished
    finishDate := if finished then finishDate <|> today else none
    createDate := createDate }

theorem parse_eq (line : Text) (today : Option Date) :
    parse line today = ofPieces (Text.splitOn ' ' (Text.strip line)) today := rfl

/-- The words in front of the subject. -/
def front (t : Task) : List Text :=
  (if t.finished then [['x']] else []) ++
    (t.priority.map Priority.toMark).toList ++
    (if t.finished then (t.finishDate.map Date.toText).toList else []) ++
    (t.createDate.map Date.toText).toList

/-- The days in front of the subject. -/
def days (t : Task) : List Date := t.finishDate.toList ++ t.createDate.toList

theorem toText_eq (t : Task) : t.toText = Text.join [' '] (t.front ++ [t.subject]) := rfl

/-- The task could have been read from a line with these pieces left over for its subject. Where a
part is missing, and all those behind it, the subject does not begin with what would be taken for
it; and a day of completion is missing only where none is given from outside. -/
structure IsRead (today : Option Date) (t : Task) (rest : List Text) : Prop where
  subject_eq : t.subject = Text.join [' '] rest
  refuses_mark : t.finished = false → t.priority = none → t.createDate = none →
    Refuses readMark rest
  refuses_priority : t.priority = none → t.finishDate = none → t.createDate = none →
    Refuses Priority.ofMark? rest
  refuses_day : t.createDate = none → Refuses Date.ofText? rest
  finishDate_eq : t.finished = false → t.finishDate = none
  of_finished : t.finished = true → t.finishDate = none → t.createDate = none ∧ today = none

/-! ## What reading leaves -/

/-- **Reading.** What is read off the front of some pieces leaves the others for the subject, and
none of those left would have been taken for a part that is missing. -/
theorem exists_isRead (pieces : List Text) (today : Option Date) :
    ∃ taken rest, pieces = taken ++ rest ∧ IsRead today (ofPieces pieces today) rest ∧
      ((ofPieces pieces today).front = [] ↔ taken = []) := by
  rcases hm : takeWord readMark pieces with ⟨mark, words₁⟩
  rcases hp : takeWord Priority.ofMark? words₁ with ⟨priority, words₂⟩
  rcases hf : (if mark.isSome then takeWord Date.ofText? words₂ else (none, words₂)) with
    ⟨finishDate, words₃⟩
  rcases hc : takeWord Date.ofText? words₃ with ⟨createDate, rest⟩
  have ht : ofPieces pieces today = ⟨Text.join [' '] rest, priority, mark.isSome,
      if mark.isSome then finishDate <|> today else none, createDate⟩ := by
    simp only [ofPieces, hm, hp, hf, hc]
  obtain ⟨m, rfl, hmNil, hmark⟩ := exists_of_takeWord hm
  obtain ⟨p, rfl, hpNil, hpriority⟩ := exists_of_takeWord hp
  obtain ⟨c, rfl, hcNil, hcreate⟩ := exists_of_takeWord hc
  rw [ht]
  cases mark with
  | none =>
    -- a task that is not finished has one day at most
    cases hf
    obtain rfl := hmNil.mpr rfl
    refine ⟨p ++ c, rest, by simp, ⟨rfl, ?_, ?_, hcreate, fun _ ↦ rfl, by simp⟩, ?_⟩
    · rintro - rfl rfl
      simpa [hpNil.mpr rfl, hcNil.mpr rfl] using hmark rfl
    · rintro rfl - rfl
      simpa [hcNil.mpr rfl] using hpriority rfl
    · simp [front, hpNil, hcNil]
  | some =>
    obtain ⟨f, rfl, hfNil, hfinish⟩ := exists_of_takeWord hf
    have hmissing : (if (some ()).isSome then finishDate <|> today else none) = none →
        finishDate = none ∧ today = none := by
      cases finishDate <;> simp
    refine ⟨m ++ p ++ f ++ c, rest, by simp, ⟨rfl, by simp, ?_, hcreate, by simp, ?_⟩,
      by simp [front, hmNil]⟩
    · rintro rfl hday rfl
      simpa [hfNil.mpr (hmissing hday).1, hcNil.mpr rfl] using hpriority rfl
    · rintro - hday
      obtain ⟨hfinishDate, htoday⟩ := hmissing hday
      refine ⟨?_, htoday⟩
      -- the word that is no day of completion is no day of creation either
      have hnone := takeWord_of_refuses (hfinish hfinishDate)
      rw [hc] at hnone
      exact congrArg Prod.fst hnone

theorem readMark_toMark (p : Priority) : readMark p.toMark = none := by
  revert p
  decide

theorem readMark_toText (d : Date) : readMark d.toText = none := by
  obtain ⟨c, s, hs, hc⟩ := d.exists_digit_toText
  have hne : d.toText ≠ ['x'] := by
    rw [hs]
    rintro h
    cases h
    revert hc
    decide
  exact if_neg (by simpa using hne)

theorem ofMark?_toText (d : Date) : Priority.ofMark? d.toText = none := by
  obtain ⟨c, s, hs, hc⟩ := d.exists_digit_toText
  have hbreak : '\n' ∉ d.toText := by
    intro h
    rcases Date.mem_toText h with h | h <;> revert h <;> decide
  rw [Priority.ofMark?, Text.chomp_of_not_mem hbreak, hs]
  split
  · next h =>
    cases h
    exact absurd hc (by decide)
  · rfl

/-- **Reading again.** The parts of a task in front of such pieces are read back as they are. -/
theorem ofPieces_front_append (h : IsRead today t rest) (hyear : ∀ d ∈ t.days, 1000 ≤ d.year) :
    ofPieces (t.front ++ rest) today = t := by
  obtain ⟨subject, priority, finished, finishDate, createDate⟩ := t
  obtain ⟨rfl, hmark, hpriority, hday, hunfinished, hfinished⟩ := h
  dsimp only at hmark hpriority hday hunfinished hfinished
  have hcreate : takeWord Date.ofText? ((createDate.map Date.toText).toList ++ rest) =
      (createDate, rest) := by
    refine takeWord_optional (fun d hd ↦ Date.ofText?_toText (hyear d ?_)) hday
    simp [days, Option.mem_def.mp hd]
  have hreadPriority : ∀ words, (priority = none → Refuses Priority.ofMark? words) →
      takeWord Priority.ofMark? ((priority.map Priority.toMark).toList ++ words) =
        (priority, words) :=
    fun words ↦ takeWord_optional fun p _ ↦ Priority.ofMark?_toMark p
  -- whether there is a mark decides what the reader looks for next
  cases finished with
  | false =>
    obtain rfl := hunfinished rfl
    have hrefuses : Refuses readMark ((priority.map Priority.toMark).toList ++
        ((createDate.map Date.toText).toList ++ rest)) :=
      refuses_optional readMark_toMark fun hnone ↦
        refuses_optional readMark_toText (hmark rfl hnone)
    have hrest := hreadPriority ((createDate.map Date.toText).toList ++ rest) fun hnone ↦
      refuses_optional ofMark?_toText (hpriority hnone rfl)
    simp [ofPieces, front, takeWord_of_refuses hrefuses, hrest, hcreate]
  | true =>
    have hfinish : takeWord Date.ofText? ((finishDate.map Date.toText).toList ++
        ((createDate.map Date.toText).toList ++ rest)) =
        (finishDate, (createDate.map Date.toText).toList ++ rest) := by
      refine takeWord_optional (fun d hd ↦ Date.ofText?_toText (hyear d ?_)) fun hnone ↦ ?_
      · simp [days, Option.mem_def.mp hd]
      · obtain ⟨rfl, -⟩ := hfinished rfl hnone
        exact hday rfl
    have hreadMark : ∀ words, takeWord readMark (['x'] :: words) = (some (), words) := fun _ ↦ rfl
    have hrest := hreadPriority ((finishDate.map Date.toText).toList ++
      ((createDate.map Date.toText).toList ++ rest)) fun hnone ↦
        refuses_optional ofMark?_toText fun hnoDay ↦
          refuses_optional ofMark?_toText (hpriority hnone hnoDay)
    have htoday : (finishDate <|> today) = finishDate := by
      cases finishDate with
      | some d => rfl
      | none => exact (hfinished rfl rfl).2
    simp [ofPieces, front, hreadMark, hrest, hfinish, hcreate, htoday]

/-! ## The pieces of what is written -/

theorem isWord_of_mem_front {w : Text} (h : w ∈ t.front) : Text.IsWord w := by
  have hday : ∀ d : Date, Text.IsWord d.toText := by
    intro d
    obtain ⟨c, s, hs, -⟩ := d.exists_digit_toText
    refine ⟨by simp [hs], fun c hc ↦ ?_⟩
    rcases Date.mem_toText hc with hdigit | rfl
    · exact not_isBlank_of_isDigit hdigit
    · decide
  have hpriority : ∀ p : Priority, Text.IsWord p.toMark := by
    intro p
    have hletter : ∀ p : Priority, isBlank p.letter = false := by decide
    refine ⟨by simp [Priority.toMark], fun c hc ↦ ?_⟩
    simp only [Priority.toMark, List.mem_cons, List.not_mem_nil, or_false] at hc
    rcases hc with rfl | rfl | rfl
    · decide
    · exact hletter p
    · decide
  simp only [front, List.mem_append, List.mem_ite_nil_right, Option.mem_toList,
    Option.map_eq_some_iff, List.mem_singleton] at h
  rcases h with ((⟨-, rfl⟩ | ⟨p, -, rfl⟩) | ⟨-, d, -, rfl⟩) | ⟨d, -, rfl⟩
  · refine ⟨by simp, fun c hc ↦ ?_⟩
    rw [List.mem_singleton.mp hc]
    decide
  · exact hpriority p
  · exact hday d
  · exact hday d

theorem splitOn_strip_toText (hfront : t.front ≠ []) (hsubject : t.subject = Text.join [' '] rest)
    (hspace : ∀ w ∈ rest, ' ' ∉ w)
    (hlast : rest ≠ [] → t.subject ≠ [] ∧ ∀ c ∈ t.subject.getLast?, isBlank c = false) :
    Text.splitOn ' ' (Text.strip t.toText) = t.front ++ rest := by
  have hspaces : ∀ w ∈ t.front, ' ' ∉ w := fun w hw hmem ↦ by
    simpa [isBlank] using (isWord_of_mem_front hw).2 ' ' hmem
  have hends : ∀ w ∈ t.front, w ≠ [] ∧ (∀ c ∈ w.head?, isBlank c = false) ∧
      ∀ c ∈ w.getLast?, isBlank c = false := by
    intro w hw
    obtain ⟨hne, hblank⟩ := isWord_of_mem_front hw
    exact ⟨hne, fun c hc ↦ hblank c (List.mem_of_head? hc),
      fun c hc ↦ hblank c (List.mem_of_getLast? hc)⟩
  have hfirst : ∀ w ∈ t.front.head?, w ≠ [] ∧ ∀ c ∈ w.head?, isBlank c = false := fun w hw ↦
    have h := hends w (List.mem_of_head? hw)
    ⟨h.1, h.2.1⟩
  rw [toText_eq]
  by_cases hrest : rest = []
  · -- the space behind the last part is no piece of its own
    subst hrest
    have htrimmed : Text.IsTrimmed (Text.join [' '] t.front) := by
      refine Text.isTrimmed_join hfirst (fun w hw ↦ ?_) [' ']
      have h := hends w (List.mem_of_getLast? hw)
      exact ⟨h.1, h.2.2⟩
    rw [Text.join_append hfront (by simp), hsubject, Text.join, Text.join, List.append_nil,
      htrimmed.strip_append_space, Text.splitOn_join hspaces hfront, List.append_nil]
  · have htrimmed : Text.IsTrimmed (Text.join [' '] (t.front ++ [t.subject])) := by
      refine Text.isTrimmed_join (fun w hw ↦ ?_) (fun w hw ↦ ?_) [' ']
      · rw [List.head?_append_of_ne_nil _ hfront] at hw
        exact hfirst w hw
      · rw [List.getLast?_concat] at hw
        cases hw
        exact hlast hrest
    rw [htrimmed.strip_eq, Text.splitOn_join_append hspaces, hsubject,
      Text.splitOn_join hspace hrest]

/-- **Round trip.** A task read from a line, in which no day in front of the subject lies before the
year 1000, is read back from what is written for it. Contexts, projects, hashtags and tags, and the
days and the recurrence among these, are functions of the subject and so are the same as well. -/
theorem parse_toText (line : Text) (today : Option Date)
    (hyear : ∀ d ∈ (parse line today).days, 1000 ≤ d.year) :
    parse (parse line today).toText today = parse line today := by
  obtain ⟨taken, rest, hpieces, hread, htaken⟩ :=
    exists_isRead (Text.splitOn ' ' (Text.strip line)) today
  rw [← parse_eq] at hread htaken
  have hline : Text.strip line = Text.join [' '] (taken ++ rest) := by
    rw [← hpieces, Text.join_splitOn]
  by_cases hfront : (parse line today).front = []
  · -- nothing stands in front of the subject, which is the line without white space at its ends
    have htext : (parse line today).toText = Text.strip line := by
      rw [toText_eq, hfront, hread.subject_eq, hline, htaken.mp hfront]
      rfl
    rw [htext, parse_eq, (Text.isTrimmed_strip line).strip_eq, ← parse_eq]
  · have hlast : rest ≠ [] → (parse line today).subject ≠ [] ∧
        ∀ c ∈ (parse line today).subject.getLast?, isBlank c = false := by
      intro hrest
      have hends := (Text.isTrimmed_strip line).2
      rw [hline, Text.join_append (htaken.not.mp hfront) hrest, ← hread.subject_eq] at hends
      have hne : (parse line today).subject ≠ [] := by
        intro hempty
        rw [hempty, List.append_nil, List.getLast?_concat] at hends
        exact absurd (hends ' ' rfl) (by decide)
      rw [List.getLast?_append_of_ne_nil _ hne] at hends
      exact ⟨hne, hends⟩
    have hspace : ∀ w ∈ rest, ' ' ∉ w := fun w hw ↦
      Text.not_mem_of_mem_splitOn (by rw [hpieces]; exact List.mem_append_right taken hw)
    rw [parse_eq _ today, splitOn_strip_toText hfront hread.subject_eq hspace hlast,
      ofPieces_front_append hread hyear]

theorem parse_toText_rent :
    parse "x (A) 2020-03-15  2019-12-31 (B)  pay\u2003rent due:fri".toList
        (some ⟨2020, 3, 15, by decide⟩) =
      parse "\tx (A)\n  2019-12-31 (B)  pay\u2003rent due:fri ".toList
        (some ⟨2020, 3, 15, by decide⟩) := by
  refine Eq.trans (congrArg (parse · _) ?_) (parse_toText
    "\tx (A)\n  2019-12-31 (B)  pay\u2003rent due:fri ".toList (some ⟨2020, 3, 15, by decide⟩) ?_)
  · decide
  · decide

end Task

end Agenda
