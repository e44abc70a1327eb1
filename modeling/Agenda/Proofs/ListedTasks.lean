import Agenda.Proofs.DueSearch

/-!
# The numbers of the tasks listed

A listing gives each task the number of its line, the lines of white space left out, and a filter
can ask for a task by its number. Both count along the whole file and not along what is listed, so
the number in a row is good for listing this row again.

What a listing prints comes from four things that it reads: the settings, the text of the task file,
the saved filters, and the words it is called with. The first three do not depend on the filter or
on the base (`ReadsTasks`). So once a listing has gone well, every other one of the same file gets
as far as its search (`outcome_of_readsTasks`), and the search for a number always has an answer
(`FilterBook.search_id`).
-/

namespace Agenda

variable {base : Date} {tasks : List Task} {t : Task} {n id : Nat} {style : PatternStyle}
  {book : FilterBook} {query text : Text} {found : List (Nat × Task)}

/-! ## Numbers -/

theorem le_of_mem_numberedFrom {p : Nat × Task} (h : p ∈ numberedFrom id tasks) : id ≤ p.1 := by
  obtain ⟨i, hi, rfl⟩ := List.mem_mapIdx.mp h
  exact Nat.le_add_left id i

theorem filter_numberedFrom (h : (n, t) ∈ numberedFrom id tasks) :
    (numberedFrom id tasks).filter (fun p ↦ p.1 == n) = [(n, t)] := by
  induction tasks generalizing id with
  | nil => cases h
  | cons task tasks ih =>
    rw [numberedFrom_cons] at h ⊢
    rcases List.mem_cons.mp h with heq | h
    · cases heq
      have hrest : (numberedFrom (n + 1) tasks).filter (fun p ↦ p.1 == n) = [] := by
        refine List.filter_eq_nil_iff.mpr fun p hp hn ↦ ?_
        have hle := le_of_mem_numberedFrom hp
        have heq := eq_of_beq hn
        omega
      rw [List.filter_cons, hrest, if_pos (beq_self_eq_true n)]
    · have hlt : id < n := le_of_mem_numberedFrom h
      rw [List.filter_cons_of_neg (by simpa using Nat.ne_of_lt hlt), ih h]

/-! ## Searching -/

namespace FilterBook

/-- Does a numbered task match what is searched for? If nothing is, every task does. -/
def finds (book : FilterBook) (style : PatternStyle) (query : Text) (base : Date)
    (p : Nat × Task) : Bool :=
  Text.allBlank query ||
    match book.expand query with
    | .ok filter => (Filter.ofText filter style).matches? p.2 p.1 base = .ok true
    | .error _ => false

theorem eq_filter_of_search (h : book.search style tasks query base = .ok found) :
    found = (numberedFrom 1 tasks).filter (book.finds style query base) := by
  rw [search] at h
  by_cases hblank : Text.allBlank query = true
  · have hall : ∀ p ∈ numberedFrom 1 tasks, book.finds style query base p = true := by
      intro p _
      rw [finds, hblank, Bool.true_or]
    rw [if_pos hblank] at h
    rw [List.filter_eq_self.mpr hall]
    exact (Except.ok.inj h).symm
  · rw [if_neg hblank] at h
    cases hexpand : book.expand query with
    | error fault =>
      rw [hexpand] at h
      cases h
    | ok filter =>
      rw [hexpand] at h
      rw [(searchWith_eq_ok_iff.mp h).2]
      refine List.filter_congr fun p _ ↦ ?_
      rw [finds, Bool.eq_false_of_not_eq_true hblank, Bool.false_or, hexpand]

end FilterBook

theorem One.matchesId_ofNat (n id : Nat) : matchesId (Text.ofNat n) id = (id == n) := by
  have hnumber := Text.isNumber_ofNat n
  have hne := Text.ofNat_ne_nil n
  obtain ⟨d, rest, hcons⟩ := List.exists_cons_of_ne_nil hne
  have hdigit : isDigit d = true := (Text.isNumber_iff.mp hnumber).2 d (by simp [hcons])
  have hplain : isNegated (Text.ofNat n) = false := by
    rw [hcons]
    exact isNegated_cons (by rw [hdigit, Bool.or_true]) rest
  have hword : ∀ v : Text, v.head?.any isDigit = false → (Text.ofNat n == v) = false := by
    intro v hv
    refine beq_false_of_ne ?_
    rintro rfl
    rw [hcons] at hv
    exact Bool.false_ne_true (hv.symm.trans hdigit)
  simp only [matchesId, splitNegation_of_not_isNegated hplain, isNone, isAny, isOpen,
    hword "none".toList (by decide), hword ['-'] (by decide), hword "any".toList (by decide),
    List.isEmpty_eq_false_iff.mpr hne, hnumber, Text.toNat_ofNat, Bool.or_self, Bool.false_or,
    Bool.true_and, Bool.bne_false, Bool.false_eq_true, if_false]

theorem Candidate.passes?_id (c : Candidate) (n : Nat) :
    c.passes? ("ID".toList ++ '=' :: Text.ofNat n) = .ok (c.id == n) := by
  have hid : IsFieldName "ID".toList := ⟨by decide, by decide, by decide⟩
  have hfield : Field.ofName "ID".toList = .id := by decide
  have hnumber := Text.isNumber_ofNat n
  rw [passes?_plain_operand hid (Text.ofNat_ne_nil n) (not_mem_of_isNumber hnumber (by decide))
      (not_mem_of_isNumber hnumber (by decide)) (not_mem_of_isNumber hnumber (by decide)), meets?,
    hfield, Condition.matches?, One.matchesId_ofNat]

/-- The search for a number finds the task that has it. -/
theorem FilterBook.search_id (h : (n, t) ∈ numberedFrom 1 tasks) (book : FilterBook)
    (style : PatternStyle) (base : Date) :
    book.search style tasks ("ID=".toList ++ Text.ofNat n) base = .ok [(n, t)] := by
  have hhead : "ID".toList.head? ≠ some '@' := by decide
  rw [← filter_numberedFrom h]
  exact search_of_passes hhead fun p ↦ Candidate.passes?_id ⟨p.2, p.1, base, style⟩ n

/-! ## What a listing reads -/

/-- The lines of a text with something on them. -/
def taskLines (text : Text) : List Text := (Text.lines text).filter (!Text.allBlank ·)

/-- What a listing of a file reads: the settings, the text of the file and the saved filters. -/
structure ReadsTasks (s : Surroundings) (tree : FileTree) (config : Option Path)
    (file : Option Text) (settings : Settings) (text : Text) (book : FilterBook) : Prop where
  configures : ∃ warnings, tree.Configures s.home config settings warnings
  reads : ∃ path bytes, (Path.ofText (file.getD settings.todoFile)).expandHome? s.home = some path ∧
    tree.read path = .ok bytes ∧ textOfBytes bytes = .ok text
  keeps : ∃ fit, FilterBook.ofContent (tree.read (FilterBook.path s.home settings.dataDir)) =
    .ok (book, fit)

section Commands

variable {s : Surroundings} {tree : FileTree} {words rest : List Text} {group a : Arguments}
  {command : CommandName} {config : Option Path} {file : Option Text} {settings : Settings}

/-- A listing is a search in what has been read. -/
theorem outcome_of_readsTasks (h : AsksTasks s.today words config base file query)
    (hreads : ReadsTasks s tree config file settings text book) :
    outcome s words tree = listTasks book settings.style (tasksOfText text base) query base := by
  obtain ⟨⟨warnings, hsettings⟩, ⟨path, bytes, hpath, hread, htext⟩, fit, hbook⟩ := hreads
  refine outcome_of_asksTasks h hsettings hpath ?_ hbook
  rw [hread, Except.bind, tasksOfBytes, htext]
  rfl

theorem exists_configures
    (hgroup : readGroup programOptions commandNames words = .ok (group, command, rest))
    (hend : (outcome s words tree).ending = .success) : ∃ settings warnings,
      tree.Configures s.home ((group.given? .config).map Path.ofText) settings warnings := by
  rw [outcome, run, hgroup] at hend
  simp only [StateT.run_bind, Settings.run_reload] at hend
  split at hend
  · next settings warnings hsettings => exact ⟨settings, warnings, hsettings⟩
  · cases hend

theorem exists_text_of_tasks {content : Except FileFault ByteArray}
    (h : content.bind (tasksOfBytes · base) = .ok tasks) :
    ∃ bytes text, content = .ok bytes ∧ textOfBytes bytes = .ok text := by
  cases content with
  | error fault => cases h
  | ok bytes =>
    rw [Except.bind, tasksOfBytes] at h
    cases htext : textOfBytes bytes with
    | error fault =>
      rw [htext] at h
      cases h
    | ok text => exact ⟨bytes, text, rfl, htext⟩

theorem exists_reads_of_listFile (hbase : a.base s.today = .ok base)
    (hend : ((listFile s settings a : StateM FileTree _).run tree).1.ending = .success) :
    (∃ text path bytes,
      (Path.ofText ((a.given? .file).getD settings.todoFile)).expandHome? s.home = some path ∧
        tree.read path = .ok bytes ∧ textOfBytes bytes = .ok text) ∧
    ∃ book fit, FilterBook.ofContent (tree.read (FilterBook.path s.home settings.dataDir)) =
      .ok (book, fit) := by
  simp only [listFile, hbase] at hend
  split at hend
  · cases hend
  · next path hpath =>
    simp only [StateT.run_bind, FileTree.run_read, pure_bind] at hend
    split at hend
    · cases hend
    · cases hend
    · next tasks htasks =>
      obtain ⟨bytes, text, hread, htext⟩ := exists_text_of_tasks htasks
      refine ⟨⟨text, path, bytes, hpath, hread, htext⟩, ?_⟩
      cases hbook : FilterBook.ofContent
          (tree.read (FilterBook.path s.home settings.dataDir)) with
      | error fault =>
        simp only [withFilters, StateT.run_bind, FilterKeeper.run_load, hbook] at hend
        cases hend
      | ok loaded => exact ⟨loaded.1, loaded.2, rfl⟩

/-- A listing that ends well has read everything. -/
theorem exists_readsTasks (h : AsksTasks s.today words config base file query)
    (hend : (outcome s words tree).ending = .success) :
    ∃ settings text book, ReadsTasks s tree config file settings text book := by
  obtain ⟨group, rest, a, hgroup, rfl, ha, hbase, rfl, rfl⟩ := h
  obtain ⟨settings, warnings, hsettings⟩ := exists_configures hgroup hend
  rw [outcome_of_readGroup hgroup hsettings, runCommand, ha] at hend
  obtain ⟨⟨text, hreads⟩, book, hkeeps⟩ := exists_reads_of_listFile hbase hend
  exact ⟨settings, text, book, ⟨warnings, hsettings⟩, hreads, hkeeps⟩

theorem exists_search_of_listTasks
    (hend : (listTasks book style tasks query base).ending = .success) :
    ∃ found, book.search style tasks query base = .ok found ∧
      listTasks book style tasks query base = .done (Listing.table tasks found) := by
  rw [listTasks] at hend ⊢
  split
  · next found hfound => exact ⟨found, hfound, rfl⟩
  all_goals
    next hfault =>
      rw [hfault] at hend
      cases hend

/-! ## The words for another filter -/

/-- The words for an option with a value, or none. -/
def optionWords (name : Text) : Option Text → List Text
  | none => []
  | some value => [name, value]

/-- Words that ask for the tasks of a file with some options. -/
def listWords (base file : Option Text) (query : Text) : List Text :=
  optionWords "--base".toList base ++ optionWords "--file".toList file ++
    ["--filter".toList, query]

/-- The options that the words stand for. -/
def listArguments (base file : Option Text) (query : Text) : Arguments :=
  ⟨(base.map (OptionName.base, ·)).toList ++ (file.map (OptionName.file, ·)).toList ++
    [(.filter, query)], []⟩

theorem readGroup_list (config : Option Text) (words : List Text) :
    readGroup programOptions commandNames
      (optionWords "--config".toList config ++ "list".toList :: words) =
        .ok (⟨(config.map (OptionName.config, ·)).toList, "list".toList :: words⟩, .list,
          words) := by
  cases config <;> rfl

theorem readCommand_listWords (base file : Option Text) (query : Text) :
    readCommand listOptions 0 (listWords base file query) =
      .ok (listArguments base file query) := by
  cases base <;> cases file <;> rfl

theorem value?_listArguments (base file : Option Text) (query : Text) :
    (listArguments base file query).value? .base = base ∧
      (listArguments base file query).value? .file = file ∧
      (listArguments base file query).value? .filter = some query := by
  cases base <;> cases file <;> exact ⟨rfl, rfl, rfl⟩

theorem given?_of_value? {a' : Arguments} {name : OptionName}
    (h : a'.value? name = a.given? name) : a'.given? name = a.given? name := by
  rw [Arguments.given?, h]
  cases hgiven : a.given? name with
  | none => rfl
  | some v =>
    have hv : v.isEmpty = false := by simpa using (Option.filter_eq_some_iff.mp hgiven).2
    rw [Option.filter_some, hv]
    rfl

/-- A listing can be called with another filter. -/
theorem exists_asksTasks {today : Date} (h : AsksTasks today words config base file query)
    (query' : Text) : ∃ words', AsksTasks today words' config base file query' := by
  obtain ⟨group, rest, a, -, rfl, -, hbase, rfl, rfl⟩ := h
  obtain ⟨hday, hfile, hquery⟩ :=
    value?_listArguments (a.given? .base) (a.given? .file) query'
  have hconfig : Arguments.value? ⟨((group.given? .config).map (OptionName.config, ·)).toList,
      "list".toList :: listWords (a.given? .base) (a.given? .file) query'⟩ .config =
        group.given? .config := by
    cases group.given? .config <;> rfl
  refine ⟨_, _, _, _, readGroup_list _ _, congrArg _ (given?_of_value? hconfig),
    readCommand_listWords _ _ query', ?_, given?_of_value? hfile, by rw [hquery]; rfl⟩
  rw [Arguments.base, given?_of_value? hday]
  exact hbase

/-! ## Listings -/

/-- The numbered tasks of a text, those of its lines with something on them. -/
theorem exists_line_of_mem_numberedFrom {p : Nat × Task}
    (h : p ∈ numberedFrom 1 (tasksOfText text base)) : ∃ i line, (taskLines text)[i]? = some line ∧
      p = (i + 1, Task.parse line (some base)) := by
  obtain ⟨i, hi, rfl⟩ := List.mem_mapIdx.mp h
  have hline : i < (taskLines text).length := by simpa [tasksOfText, taskLines] using hi
  exact ⟨i, (taskLines text)[i], List.getElem?_eq_getElem hline, by simp [tasksOfText, taskLines]⟩

/-- **Numbers identify tasks.** A listing that ends well shows the tasks that match, in the order of
the file, under a title that counts them and all tasks. Each row bears the number of its line among
those with something on them, and a listing of the same file by this number, which can be asked for,
shows this row and no other. -/
theorem outcome_numbered (s : Surroundings) (tree : FileTree) (words : List Text)
    (config : Option Path) (base : Date) (file : Option Text) (query : Text)
    (h : AsksTasks s.today words config base file query)
    (hend : (outcome s words tree).ending = .success) :
    ∃ settings text book, ReadsTasks s tree config file settings text book ∧ ∃ rows,
      rows = ((numberedFrom 1 (tasksOfText text base)).filter
        (book.finds settings.style query base)).map (fun (id, t) ↦ Listing.row id t) ∧
      outcome s words tree = .done
        (.table (Listing.title rows.length (taskLines text).length) Listing.header rows) ∧
      ∀ row ∈ rows, ∃ i line, (taskLines text)[i]? = some line ∧
        row = Listing.row (i + 1) (Task.parse line (some base)) ∧
        (∃ words', AsksTasks s.today words' config base file ("ID=".toList ++ Text.ofNat (i + 1))) ∧
        ∀ words', AsksTasks s.today words' config base file ("ID=".toList ++ Text.ofNat (i + 1)) →
          outcome s words' tree = .done
            (.table (Listing.title 1 (taskLines text).length) Listing.header [row]) := by
  obtain ⟨settings, text, book, hreads⟩ := exists_readsTasks h hend
  have hcount : (tasksOfText text base).length = (taskLines text).length := List.length_map _
  rw [outcome_of_readsTasks h hreads] at hend ⊢
  obtain ⟨found, hfound, hlisted⟩ := exists_search_of_listTasks hend
  refine ⟨settings, text, book, hreads, found.map (fun (id, t) ↦ Listing.row id t), ?_, ?_, ?_⟩
  · rw [FilterBook.eq_filter_of_search hfound]
  · rw [hlisted, Listing.table, List.length_map, hcount]
  · intro row hrow
    obtain ⟨p, hp, rfl⟩ := List.mem_map.mp hrow
    rw [FilterBook.eq_filter_of_search hfound] at hp
    have hmem := List.mem_of_mem_filter hp
    obtain ⟨i, line, hline, rfl⟩ := exists_line_of_mem_numberedFrom hmem
    refine ⟨i, line, hline, rfl, exists_asksTasks h _, fun words' h' ↦ ?_⟩
    -- the other listing finds the same files, so it is a search for the number
    rw [outcome_of_readsTasks h' hreads, listTasks, FilterBook.search_id hmem, ← hcount]
    rfl

end Commands

/-! ### At home -/

theorem readsTasks_atHome :
    ReadsTasks atHome homeTree none none (Settings.defaults atHome.home) twoTasks .empty :=
  ⟨⟨[], rfl⟩, ⟨Path.ofText "/home/me/todo.txt".toList, bytesOfText twoTasks, rfl, rfl,
    textOfBytes_bytesOfText twoTasks⟩, true, rfl⟩

theorem outcome_numbered_rent :
    let rent := ["2".toList, [], "2020-03-27".toList, "pay rent due:2020-03-27".toList]
    let listed : Outcome := .done (.table "1 of 2 tasks".toList Listing.header [rent])
    outcome atHome ["list".toList, "-F".toList, "due=fri+1w".toList] homeTree = listed ∧
      outcome atHome ["list".toList, "-F".toList, "ID=2".toList] homeTree = listed := by
  intro rent listed
  have hasks : ∀ query, AsksTasks atHome.today ["list".toList, "-F".toList, query] none
      atHome.today none query :=
    fun query ↦ ⟨⟨[], _⟩, _, ⟨[(.filter, _)], []⟩, rfl, rfl, rfl, rfl, rfl, rfl⟩
  have hlisted : outcome atHome ["list".toList, "-F".toList, "due=fri+1w".toList] homeTree =
      listed := by
    rw [outcome_of_readsTasks (hasks _) readsTasks_atHome]
    decide
  refine ⟨hlisted, ?_⟩
  obtain ⟨settings, text, book, -, rows, -, htable, hnumbered⟩ :=
    outcome_numbered atHome homeTree _ none atHome.today none _ (hasks _) (by rw [hlisted]; rfl)
  obtain ⟨htitle, -, hrows⟩ := Printed.table.inj
    (List.cons.inj (congrArg Outcome.printed (hlisted.symm.trans htable))).1
  subst hrows
  obtain ⟨i, line, -, hrow, -, hsame⟩ := hnumbered rent (List.mem_singleton_self rent)
  -- the number in the row is the first cell
  have hi : i + 1 = 2 := by
    have hcell := congrArg Text.toNat (List.cons.inj hrow).1
    rw [Text.toNat_ofNat] at hcell
    exact hcell.symm
  have hquery : "ID=".toList ++ Text.ofNat (i + 1) = "ID=2".toList := by
    rw [hi]
    decide
  rw [hquery] at hsame
  rw [hsame _ (hasks _)]
  exact congrArg (fun title ↦ Outcome.done (.table title Listing.header [rent])) htitle.symm

end Agenda
