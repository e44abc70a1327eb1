import Agenda.Command.Run
import Agenda.Proofs.Agreement
import Agenda.Proofs.SavedFilters
import Agenda.Proofs.SavedSettings
import Agenda.Proofs.SearchNames

/-!
# Resolving an expression and listing by it

An expression can be resolved by one command and stand behind `due=` in the filter of another. There
it is not handed to the evaluator at once. The filter is cut at its separators, the operand is
looked at for marks and for words of its own, and then it is read as a date word, as an absolute day
and as an expression. None of the first steps concerns an expression, which has letters, digits and
signs and begins with no sign (`Candidate.passes?_due`). The last one gives the day of the
expression, except for the short months and days (`readDate?_of_evaluate`).

The two commands differ in one more point. A filter always takes `soon` for seven days, whatever the
settings say. No other word depends on that number (`DateWord.resolve_congr`), so the results about
commands ask that it is seven or that the expression does not begin with `soon`.
-/

namespace Agenda

open Expression (IsBase IsReading)

variable {base d d' : Date} {soonDays : Int} {v : Text} {c : Candidate} {e : Expression}

/-! ## Words that do not ask for `soon` -/

/-- The base of the expression is the word `soon`, in any case and with any dashes. -/
def AsksForSoon (v : Text) : Prop :=
  ∃ e, Expression.parse v = .ok e ∧ DateWord.plainWord e.base = "soon".toList

namespace DateWord

variable {word : Text} {n m : Int}

theorem spokenDay?_congr (h : word ≠ "soon".toList) (base : Date) (n m : Int) :
    spokenDay? base n word = spokenDay? base m word := by
  have hsoon : ∀ entry ∈ keywords, entry.2 = .soon → entry.1 = "soon".toList := by decide
  rw [spokenDay?, spokenDay?]
  cases hlookup : keywords.lookup word with
  | none => cases weekdays.lookup word <;> rfl
  | some keyword =>
    obtain ⟨l₁, l₂, hsplit, -⟩ := List.lookup_eq_some_iff.mp hlookup
    have hmem : (word, keyword) ∈ keywords := by simp [hsplit]
    cases keyword with
    | soon => exact absurd (hsoon _ hmem rfl) h
    | _ => rfl

theorem resolve_congr (h : plainWord v ≠ "soon".toList) (base : Date) (n m : Int) :
    resolve base n v = resolve base m v := by
  rw [resolve, resolve, spoken, spoken, spokenDay?_congr h base n m]

end DateWord

theorem evaluate_congr_soonDays {n m : Int} (h : n = m ∨ ¬ AsksForSoon v)
    (hd : (evaluate base n .empty v).1 = .ok d) : (evaluate base m .empty v).1 = .ok d := by
  rcases h with rfl | h
  · exact hd
  · obtain ⟨e, start, he, hstart, happly⟩ := evaluate_empty_eq_ok_iff.mp hd
    refine evaluate_empty_eq_ok_iff.mpr ⟨e, start, he, ?_, happly⟩
    rwa [literalDate, DateWord.resolve_congr (fun hsoon ↦ h ⟨e, he, hsoon⟩) base m n]

/-! ## Expressions as operands -/

theorem isReading_of_evaluate (h : (evaluate base soonDays .empty v).1 = .ok d) :
    ∃ e, IsReading v e := by
  obtain ⟨e, -, he, -, -⟩ := evaluate_empty_eq_ok_iff.mp h
  exact ⟨e, (Expression.isReading_of_parse he).2⟩

namespace Expression

theorem IsBase.exists_head {s : Text} (h : IsBase s) :
    ∃ c t, s = c :: t ∧ (isLatin c || isDigit c) = true := by
  cases h with
  | word hne hs =>
    obtain ⟨c, t, rfl⟩ := List.exists_cons_of_ne_nil hne
    exact ⟨c, t, rfl, by simp [hs c List.mem_cons_self]⟩
  | absolute hy _ _ =>
    obtain ⟨c, t, rfl⟩ := List.exists_cons_of_ne_nil (List.ne_nil_of_length_eq_add_one hy.1)
    exact ⟨c, _, rfl, by simp [hy.2 c List.mem_cons_self]⟩
  | monthDay hm _ =>
    obtain ⟨c, t, rfl⟩ := List.exists_cons_of_ne_nil (List.ne_nil_of_length_eq_add_one hm.1)
    exact ⟨c, _, rfl, by simp [hm.2 c List.mem_cons_self]⟩
  | day hs =>
    obtain ⟨c, t, rfl⟩ := List.exists_cons_of_ne_nil
      (hs.elim (List.ne_nil_of_length_eq_add_one ·.1) (List.ne_nil_of_length_eq_add_one ·.1))
    exact ⟨c, t, rfl, by simp [hs.elim (·.2 c List.mem_cons_self) (·.2 c List.mem_cons_self)]⟩

theorem IsReading.exists_head (h : IsReading v e) :
    ∃ c t, v = c :: t ∧ (isLatin c || isDigit c) = true := by
  obtain ⟨c, t, hbase, hc⟩ := h.base.exists_head
  refine ⟨c, t ++ e.offsets.flatMap Offset.toText, ?_, hc⟩
  rw [← h.toText, Expression.toText, hbase, List.cons_append]

theorem IsReading.ne_nil (h : IsReading v e) : v ≠ [] := by
  obtain ⟨c, t, rfl, -⟩ := h.exists_head
  exact List.cons_ne_nil c t

theorem IsReading.isNegated_eq_false (h : IsReading v e) : isNegated v = false := by
  obtain ⟨c, t, rfl, hc⟩ := h.exists_head
  exact isNegated_cons hc t

end Expression

theorem literalDate_reserved (h : v = "any".toList ∨ v = "none".toList) (base : Date)
    (soonDays : Int) : literalDate base soonDays v = .error (.unknownWord v) := by
  rcases h with rfl | rfl <;> rfl

theorem not_reserved_of_evaluate (h : (evaluate base soonDays .empty v).1 = .ok d) :
    v ≠ "any".toList ∧ v ≠ "none".toList := by
  have hparse : ∀ v ∈ ["any".toList, "none".toList],
      (Expression.parse v).toOption = some ⟨v, []⟩ := by decide
  have hdays : v ∉ ["any".toList, "none".toList] := by
    intro hv
    obtain ⟨e, start, he, hstart, -⟩ := evaluate_empty_eq_ok_iff.mp h
    cases he.symm.trans (eq_ok_of_toOption (hparse v hv))
    rw [literalDate_reserved (by simpa using hv)] at hstart
    cases hstart
  simpa using hdays

theorem One.matchesTag_of_plain (hne : v ≠ []) (hplain : isNegated v = false) (hstar : '*' ∉ v)
    (hany : v ≠ "any".toList) (hnone : v ≠ "none".toList) (kind : ValueKind) (c : Candidate)
    (actual : Text) : matchesTag v kind c (some actual) =
      valuesEqual kind c.base c.style actual v := by
  have hminus : (v == ['-']) = false := by
    refine beq_false_of_ne ?_
    rintro rfl
    cases hplain
  have hempty : v.isEmpty = false := List.isEmpty_eq_false_iff.mpr hne
  have hany' : isAny v = false := beq_false_of_ne hany
  have hnone' : (v == "none".toList) = false := beq_false_of_ne hnone
  simp only [matchesTag, splitNegation_of_not_isNegated hplain, if_neg hstar, hminus, hempty,
    hany', hnone', Bool.bne_false, Bool.false_eq_true, if_false]
  cases valuesEqual kind c.base c.style actual v <;> rfl

/-- The due day is compared as it is written. -/
theorem Candidate.meets?_due (c : Candidate) (h : (evaluate base soonDays .empty v).1 = .ok d')
    (hd : readDate? c.base v = some d) : c.meets? "due".toList (.one v) =
      .ok (c.task.tags.get? "due".toList = some d.toText) := by
  obtain ⟨e, hreading⟩ := isReading_of_evaluate h
  obtain ⟨hany, hnone⟩ := not_reserved_of_evaluate h
  have hfield : Field.ofName "due".toList = .tag "due".toList := by decide
  have hplain := hreading.isNegated_eq_false
  rw [meets?, hfield, Condition.matches?]
  cases c.task.tags.get? "due".toList with
  | none =>
    rw [One.matchesTag, isNone_of_not_isNegated hplain, beq_false_of_ne hnone]
    rfl
  | some actual =>
    have hkind : ValueKind.ofTagValue "due".toList (some actual) = .date := rfl
    rw [One.matchesTag_of_plain hreading.ne_nil hplain (hreading.not_mem (by decide)) hany hnone,
      hkind, valuesEqual, hd]
    simp [Except.mapError]

/-! ## Searching -/

/-- The tasks of a list whose due tag has a text, with their numbers. -/
def tasksDue (tasks : List Task) (due : Text) : List (Nat × Task) :=
  (numberedFrom 1 tasks).filter fun p ↦ p.2.tags.get? "due".toList = some due

theorem Candidate.passes?_due (c : Candidate) (h : (evaluate base soonDays .empty v).1 = .ok d')
    (hd : readDate? c.base v = some d) : c.passes? ("due".toList ++ '=' :: v) =
      .ok (c.task.tags.get? "due".toList = some d.toText) := by
  obtain ⟨e, hreading⟩ := isReading_of_evaluate h
  have hdue : IsFieldName "due".toList := ⟨by decide, by decide, by decide⟩
  have hsemicolon : ';' ∉ v := hreading.not_mem (by decide)
  have hcomma : ',' ∉ v := hreading.not_mem (by decide)
  have hpoint : '.' ∉ v := hreading.not_mem (by decide)
  rw [passes?_plain_operand hdue hreading.ne_nil hsemicolon hcomma hpoint, c.meets?_due h hd]

theorem FilterBook.search_due {tasks : List Task}
    (h : (evaluate base soonDays .empty v).1 = .ok d') (hd : readDate? base v = some d)
    (book : FilterBook) (style : PatternStyle) :
    book.search style tasks ("due=".toList ++ v) base = .ok (tasksDue tasks d.toText) := by
  have hhead : "due".toList.head? ≠ some '@' := by decide
  exact search_of_passes hhead fun p ↦ Candidate.passes?_due ⟨p.2, p.1, base, style⟩ h hd

/-! ## Commands -/

/-- The words ask for the day of an expression, without a task. -/
def AsksDay (today : Date) (words : List Text) (config : Option Path) (base : Date) (v : Text) :
    Prop :=
  ∃ group rest a, readGroup programOptions commandNames words = .ok (group, .resolve, rest) ∧
    (group.given? .config).map Path.ofText = config ∧ readCommand calcOptions 1 rest = .ok a ∧
    a.base today = .ok base ∧ a.given? .task = none ∧ a.argument 0 = v

/-- The words ask for the tasks of a file that match a filter. -/
def AsksTasks (today : Date) (words : List Text) (config : Option Path) (base : Date)
    (file : Option Text) (query : Text) : Prop :=
  ∃ group rest a, readGroup programOptions commandNames words = .ok (group, .list, rest) ∧
    (group.given? .config).map Path.ofText = config ∧ readCommand listOptions 0 rest = .ok a ∧
    a.base today = .ok base ∧ a.given? .file = file ∧ (a.value? .filter).getD [] = query

/-- What the program does over a table of files. -/
def outcome (s : Surroundings) (words : List Text) (tree : FileTree) : Outcome :=
  ((run s words : StateM FileTree _).run tree).1.1

section Commands

variable {s : Surroundings} {tree : FileTree} {words rest : List Text} {group a : Arguments}
  {command : CommandName} {config : Option Path} {settings : Settings}
  {warnings : List SettingsWarning} {file : Option Text} {query printed : Text} {path : Path}
  {tasks : List Task} {book : FilterBook} {fit : Bool}

/-- The settings and warnings are those of the file that is named, or of the default one. -/
def FileTree.Configures (tree : FileTree) (home : Text) (config : Option Path)
    (settings : Settings) (warnings : List SettingsWarning) : Prop :=
  Settings.ofContent home (SettingsLoader.pathOr home config)
    (tree.read (SettingsLoader.pathOr home config)) = .ok (settings, warnings)

theorem outcome_of_readGroup
    (hgroup : readGroup programOptions commandNames words = .ok (group, command, rest))
    (hsettings : tree.Configures s.home ((group.given? .config).map Path.ofText) settings
      warnings) : outcome s words tree =
      ((runCommand s settings command rest : StateM FileTree _).run tree).1 := by
  rw [FileTree.Configures] at hsettings
  rw [outcome, run, hgroup]
  simp only [StateT.run_bind, Settings.run_reload, hsettings]
  rfl

theorem run_withFilters {home : Text} {action : FilterKeeper → StateM FileTree Outcome}
    (hbook : FilterBook.ofContent (tree.read (FilterBook.path home settings.dataDir)) =
      .ok (book, fit)) :
    (withFilters home settings action).run tree =
      (action ⟨book, FilterBook.path home settings.dataDir, settings.style⟩).run tree := by
  simp only [withFilters, StateT.run_bind, FilterKeeper.run_load, hbook]
  rfl

theorem run_listFile (hbase : a.base s.today = .ok base)
    (hpath : (Path.ofText ((a.given? .file).getD settings.todoFile)).expandHome? s.home = some path)
    (htasks : (tree.read path).bind (tasksOfBytes · base) = .ok tasks)
    (hbook : FilterBook.ofContent (tree.read (FilterBook.path s.home settings.dataDir)) =
      .ok (book, fit)) :
    (listFile s settings a : StateM FileTree _).run tree =
      (listTasks book settings.style tasks ((a.value? .filter).getD []) base, tree) := by
  simp only [listFile, hbase, hpath, StateT.run_bind, FileTree.run_read, pure_bind, htasks]
  rw [run_withFilters hbook]
  rfl

theorem outcome_of_asksDay (h : AsksDay s.today words config base v)
    (hsettings : tree.Configures s.home config settings warnings) :
    outcome s words tree = resolveExpression s.reason settings.soonDays base v none := by
  obtain ⟨group, rest, a, hgroup, rfl, ha, hbase, htask, rfl⟩ := h
  rw [outcome_of_readGroup hgroup hsettings, runCommand, ha]
  simp only [hbase, htask]
  rfl

theorem outcome_of_asksTasks (h : AsksTasks s.today words config base file query)
    (hsettings : tree.Configures s.home config settings warnings)
    (hpath : (Path.ofText (file.getD settings.todoFile)).expandHome? s.home = some path)
    (htasks : (tree.read path).bind (tasksOfBytes · base) = .ok tasks)
    (hbook : FilterBook.ofContent (tree.read (FilterBook.path s.home settings.dataDir)) =
      .ok (book, fit)) :
    outcome s words tree = listTasks book settings.style tasks query base := by
  obtain ⟨group, rest, a, hgroup, rfl, ha, hbase, rfl, rfl⟩ := h
  rw [outcome_of_readGroup hgroup hsettings, runCommand, ha]
  simp only [run_listFile hbase hpath htasks hbook]

theorem evaluate_of_resolveExpression {reason : Text} {n : SoonDays}
    (h : resolveExpression reason n base v none = .done (.line printed)) :
    ∃ d, (evaluate base n.toNat .empty v).1 = .ok d ∧ printed = d.toText := by
  rw [resolveExpression] at h
  split at h
  · next d hd =>
    cases h
    exact ⟨d, hd, rfl⟩
  · cases h

/-- Some words ask for the day of an expression, without a task, and get it. Others ask for the
tasks that are due then, with the same settings and the same base, and their files can be read. -/
structure SameOperand (s : Surroundings) (tree : FileTree) (resolving listing : List Text)
    (settings : Settings) (base : Date) (v printed : Text) (tasks : List Task) : Prop where
  asks : ∃ config warnings file, tree.Configures s.home config settings warnings ∧
    AsksDay s.today resolving config base v ∧
    AsksTasks s.today listing config base file ("due=".toList ++ v) ∧
    ∃ path, (Path.ofText (file.getD settings.todoFile)).expandHome? s.home = some path ∧
      (tree.read path).bind (tasksOfBytes · base) = .ok tasks
  prints : outcome s resolving tree = .done (.line printed)
  readable : ∃ book fit,
    FilterBook.ofContent (tree.read (FilterBook.path s.home settings.dataDir)) = .ok (book, fit)

variable {resolving listing : List Text}

theorem SameOperand.exists_evaluate
    (h : SameOperand s tree resolving listing settings base v printed tasks) :
    ∃ d, (evaluate base settings.soonDays.toNat .empty v).1 = .ok d ∧ printed = d.toText := by
  obtain ⟨config, warnings, file, hsettings, hday, -, -⟩ := h.asks
  have hprints := h.prints
  rw [outcome_of_asksDay hday hsettings] at hprints
  exact evaluate_of_resolveExpression hprints

/-- The tasks listed are those due on the day that the operand is read as. -/
theorem SameOperand.outcome_eq
    (h : SameOperand s tree resolving listing settings base v printed tasks)
    (hd : readDate? base v = some d) :
    outcome s listing tree = .done (Listing.table tasks (tasksDue tasks d.toText)) := by
  obtain ⟨config, warnings, file, hsettings, -, htasks, path, hpath, hread⟩ := h.asks
  obtain ⟨book, fit, hbook⟩ := h.readable
  obtain ⟨d', hd', -⟩ := h.exists_evaluate
  rw [outcome_of_asksTasks htasks hsettings hpath hread hbook, listTasks,
    FilterBook.search_due hd' hd]

/-- **Resolving and listing.** If an expression is resolved to a day, then the tasks listed for it
as a due day, with the same settings and base, are those whose due tag is what was printed. The
exception are short months and days that are date words: there the tasks listed are those due on
the day of the word. Nothing is said of the word `soon` where it does not reach seven days. -/
theorem outcome_due_of_resolved (s : Surroundings) (tree : FileTree)
    (resolving listing : List Text) (settings : Settings) (base : Date) (v printed : Text)
    (tasks : List Task)
    (h : SameOperand s tree resolving listing settings base v printed tasks)
    (hsoon : (settings.soonDays.toNat : Int) = filterSoonDays ∨ ¬ AsksForSoon v) :
    (∀ month day d, IsShortMonthDay v month day → DateWord.monthDay base v month day = .ok d →
      outcome s listing tree = .done (Listing.table tasks (tasksDue tasks d.toText))) ∧
    ((∀ month day d, IsShortMonthDay v month day → DateWord.monthDay base v month day ≠ .ok d) →
      outcome s listing tree = .done (Listing.table tasks (tasksDue tasks printed))) := by
  obtain ⟨d, hd, rfl⟩ := h.exists_evaluate
  constructor
  · intro month day d₁ hshort hmonthDay
    refine h.outcome_eq ?_
    rw [readDate?, DateWord.resolve_of_isShortMonthDay hshort, hmonthDay]
  · intro hnone
    rcases readDate?_of_evaluate (evaluate_congr_soonDays hsoon hd) with
      hread | ⟨month, day, d₁, hshort, hmonthDay, -⟩
    · exact h.outcome_eq hread
    · exact absurd hmonthDay (hnone month day d₁ hshort)

end Commands

/-! ### At home -/

/-- A file of two tasks. -/
def twoTasks : Text := "call mom due:2021-01-05\npay rent due:2020-03-27\n".toList

/-- A home directory with a task file and nothing else. -/
def homeTree : FileTree :=
  ⟨⟨['/'], []⟩, [], [(["home".toList, "me".toList, "todo.txt".toList], bytesOfText twoTasks)]⟩

/-- The program is run at home on a Sunday. -/
def atHome : Surroundings := ⟨"/home/me".toList, ⟨2020, 3, 15, by decide⟩, "out of range".toList⟩

theorem sameOperand_atHome {v printed : Text}
    (hcalc : AsksDay atHome.today ["calc".toList, v] none atHome.today v)
    (hlist : AsksTasks atHome.today ["list".toList, "-F".toList, "due=".toList ++ v] none
      atHome.today none ("due=".toList ++ v))
    (hprints : outcome atHome ["calc".toList, v] homeTree = .done (.line printed)) :
    SameOperand atHome homeTree ["calc".toList, v]
      ["list".toList, "-F".toList, "due=".toList ++ v] (Settings.defaults atHome.home)
      atHome.today v printed (tasksOfText twoTasks atHome.today) := by
  refine ⟨⟨none, [], none, rfl, hcalc, hlist, Path.ofText "/home/me/todo.txt".toList, rfl, ?_⟩,
    hprints, .empty, true, rfl⟩
  have hread : homeTree.read (Path.ofText "/home/me/todo.txt".toList) =
      .ok (bytesOfText twoTasks) := rfl
  rw [hread, Except.bind, tasksOfBytes, textOfBytes_bytesOfText]
  rfl

theorem outcome_due_of_resolved_friday :
    outcome atHome ["list".toList, "-F".toList, "due=fri+1w".toList] homeTree =
      .done (Listing.table (tasksOfText twoTasks atHome.today)
        (tasksDue (tasksOfText twoTasks atHome.today) "2020-03-27".toList)) := by
  have hcalc : AsksDay atHome.today ["calc".toList, "fri+1w".toList] none atHome.today
      "fri+1w".toList :=
    ⟨⟨[], _⟩, _, ⟨[], _⟩, rfl, rfl, rfl, rfl, rfl, rfl⟩
  have hlist : AsksTasks atHome.today
      ["list".toList, "-F".toList, "due=".toList ++ "fri+1w".toList] none atHome.today none
      ("due=".toList ++ "fri+1w".toList) :=
    ⟨⟨[], _⟩, _, ⟨[(.filter, _)], []⟩, rfl, rfl, rfl, rfl, rfl, rfl⟩
  have hprints : outcome atHome ["calc".toList, "fri+1w".toList] homeTree =
      .done (.line "2020-03-27".toList) := by decide
  have hsame := sameOperand_atHome hcalc hlist hprints
  refine (outcome_due_of_resolved _ _ _ _ _ _ _ _ _ hsame (.inl (by decide))).2 ?_
  -- a month and day has a dash
  intro month day d hshort
  have hdash : '-' ∈ "fri+1w".toList := by
    rw [hshort.eq]
    simp
  exact absurd hdash (by decide)

/-- The tasks listed for `1-5` are those due on the fifth of January, while what is printed is the
first of the month less five days. -/
theorem not_forall_outcome_due : ¬ ∀ (s : Surroundings) (tree : FileTree)
    (resolving listing : List Text) (settings : Settings) (base : Date) (v printed : Text)
    (tasks : List Task), SameOperand s tree resolving listing settings base v printed tasks →
      outcome s listing tree = .done (Listing.table tasks (tasksDue tasks printed)) := by
  intro h
  have hcalc : AsksDay atHome.today ["calc".toList, "1-5".toList] none atHome.today "1-5".toList :=
    ⟨⟨[], _⟩, _, ⟨[], _⟩, rfl, rfl, rfl, rfl, rfl, rfl⟩
  have hlist : AsksTasks atHome.today
      ["list".toList, "-F".toList, "due=".toList ++ "1-5".toList] none atHome.today none
      ("due=".toList ++ "1-5".toList) :=
    ⟨⟨[], _⟩, _, ⟨[(.filter, _)], []⟩, rfl, rfl, rfl, rfl, rfl, rfl⟩
  have hprints : outcome atHome ["calc".toList, "1-5".toList] homeTree =
      .done (.line "2020-03-27".toList) := by decide
  have hsame := sameOperand_atHome hcalc hlist hprints
  have hread : readDate? atHome.today "1-5".toList = some ⟨2021, 1, 5, by decide⟩ := by
    decide
  have hlisted := (h _ _ _ _ _ _ _ _ _ hsame).symm.trans (hsame.outcome_eq hread)
  revert hlisted
  decide

end Agenda
