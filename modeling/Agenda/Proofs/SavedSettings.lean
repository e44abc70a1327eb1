import Agenda.Proofs.Dictionaries
import Agenda.Proofs.Documents
import Agenda.Settings.Loader

/-!
# Saved settings are loaded again

Settings are made from fields by filling in defaults and replacing tildes. What comes out is stable:
made into fields again, it gives the same settings and no warnings (`Settings.ofFields_of_perm`). A
path without its tilde is absolute if the home directory is (`Text.expandHome_expandHome`), and a
number of days that is kept is a valid one by its type. Fields are looked up by their names alone,
so their order in the document does not matter.

Settings that are written to a file are therefore loaded from it as they were
(`Settings.reload_of_save`). Where no file is named there are two of them: settings are written into
their own directory and loaded from the default one. Settings with another directory are then not
found again (`Settings.not_forall_reload_of_save`).
-/

namespace Agenda

variable {home : Text}

/-! ## Tildes -/

theorem Text.expandHome_of_head? {s : Text} (h : s.head? ≠ some '~') : expandHome home s = s := by
  rw [expandHome.eq_def]
  split
  · exact absurd rfl h
  · exact absurd rfl h
  · rfl

theorem Text.trimEnd_prefix (p : Char → Bool) (s : Text) : trimEnd p s <+: s := by
  have hsuffix := List.dropWhile_suffix p (l := s.reverse)
  rwa [← List.reverse_prefix, List.reverse_reverse] at hsuffix

theorem Text.head?_home {rest : Text} (hhome : home.head? = some '/')
    (hrest : ∀ c ∈ rest.head?, c = '/') :
    (match trimEnd (· == '/') home ++ rest with
      | [] => ['/']
      | expanded => expanded).head? = some '/' := by
  cases htrim : trimEnd (· == '/') home with
  | nil =>
    cases rest with
    | nil => rfl
    | cons c rest => exact congrArg some (hrest c rfl)
  | cons c trimmed =>
    obtain ⟨slashes, hprefix⟩ := trimEnd_prefix (· == '/') home
    rw [htrim] at hprefix
    rw [← hprefix] at hhome
    exact hhome

theorem Text.expandHome_expandHome (hhome : home.head? = some '/') (s : Text) :
    expandHome home (expandHome home s) = expandHome home s := by
  have habsolute : ∀ {s : Text}, s.head? = some '/' → expandHome home s = s := fun h ↦
    expandHome_of_head? (by simp [h])
  rw [expandHome.eq_def home s]
  split
  · exact habsolute (head?_home hhome nofun)
  · exact habsolute (head?_home hhome (by simp))
  · next hbare hslash => exact expandHome.eq_3 home s hbare hslash

theorem Text.hasImpossibleUser_of_head? {s : Text} (h : s.head? = some '/') :
    hasImpossibleUser s = false := by
  rw [hasImpossibleUser, h]
  rfl

/-- No tilde is left to be replaced, and none that cannot be. -/
structure Text.IsExpanded (home s : Text) : Prop where
  expandHome_eq : expandHome home s = s
  possible : hasImpossibleUser s = false

theorem Text.isExpanded_expandHome (hhome : home.head? = some '/') {s : Text}
    (h : hasImpossibleUser s = false) : IsExpanded home (expandHome home s) := by
  refine ⟨expandHome_expandHome hhome s, ?_⟩
  rw [expandHome.eq_def]
  split
  · exact hasImpossibleUser_of_head? (head?_home hhome nofun)
  · exact hasImpossibleUser_of_head? (head?_home hhome (by simp))
  · exact h

/-! ## Settings as fields -/

theorem SoonDays.ofValue?_toScalar (s : SoonDays) : ofValue? (.scalar s.toScalar) = some s := by
  cases s with
  | days count valid =>
    have hcount : 0 < (count : Int).toNat ∧ (count : Int).toNat < 256 := valid
    exact dif_pos hcount
  | yes => rfl

namespace Settings

variable {s : Settings} {given : List (Text × Yaml.Value)} {warnings : List SettingsWarning}
  {p : Option Path} {tree tree' : FileTree}

/-- The fields that the settings are written as. -/
def fields (s : Settings) : List (Text × Yaml.Value) :=
  [(soonDaysField, .scalar s.soonDays.toScalar), (useRegexField, s.useRegex),
    (todoFileField, .text s.todoFile), (dataDirField, .text s.dataDir)]

/-- The entries of the document that holds the settings. -/
def entries (s : Settings) : List (Yaml.Scalar × Yaml.Value) :=
  s.fields.map fun (name, value) ↦ (.text name, value)

/-- The tildes of the paths are replaced. -/
structure Expanded (home : Text) (s : Settings) : Prop where
  todoFile : Text.IsExpanded home s.todoFile
  dataDir : Text.IsExpanded home s.dataDir

theorem expanded_defaults (hhome : home.head? = some '/') : (defaults home).Expanded home where
  todoFile := Text.isExpanded_expandHome hhome (s := "~/todo.txt".toList) (by decide)
  dataDir := Text.isExpanded_expandHome hhome (s := "~/.todo".toList) (by decide)

theorem isExpanded_of_fileField {name default value : Text} (hhome : home.head? = some '/')
    (hdefault : Text.IsExpanded home default)
    (h : fileField home given name default = .ok value) : Text.IsExpanded home value := by
  rw [fileField] at h
  split at h
  · cases h
    exact hdefault
  · split at h
    · cases h
    · next hpossible =>
      cases h
      exact Text.isExpanded_expandHome hhome (Bool.eq_false_iff.mpr hpossible)
  · cases h

theorem expanded_of_ofFields (hhome : home.head? = some '/')
    (h : ofFields home given = .ok (s, warnings)) : s.Expanded home := by
  rw [ofFields] at h
  split at h
  · cases h
  · cases htodo : fileField home given todoFileField (defaults home).todoFile with
    | error fault =>
      rw [htodo] at h
      cases h
    | ok todoFile =>
      cases hdata : fileField home given dataDirField (defaults home).dataDir with
      | error fault =>
        rw [htodo, hdata] at h
        cases h
      | ok dataDir =>
        rw [htodo, hdata] at h
        cases h
        have hdefaults := expanded_defaults hhome
        have htodo := isExpanded_of_fileField hhome hdefaults.todoFile htodo
        have hdata := isExpanded_of_fileField hhome hdefaults.dataDir hdata
        exact ⟨htodo, hdata⟩

theorem ofFields_of_perm (h : s.Expanded home) (hperm : given.Perm s.fields) :
    ofFields home given = .ok (s, []) := by
  have hnames : (s.fields.map Prod.fst).Nodup := by
    have hnodup : fieldNames.Nodup := by decide
    exact hnodup
  have hlookup := lookup_eq_of_perm hnames hperm
  have hknown : given.find? (fun (name, _) ↦ !fieldNames.contains name) = none := by
    rw [List.find?_eq_none]
    intro field hfield
    have hmem : field.1 ∈ fieldNames := List.mem_map_of_mem (hperm.mem_iff.mp hfield)
    simp [hmem]
  rw [ofFields]
  have hsoon : s.fields.lookup soonDaysField = some (.scalar s.soonDays.toScalar) := by rfl
  have hregex : s.fields.lookup useRegexField = some s.useRegex := by rfl
  have htodo : s.fields.lookup todoFileField = some (.text s.todoFile) := by rfl
  have hdata : s.fields.lookup dataDirField = some (.text s.dataDir) := by rfl
  simp only [hknown, fileField, hlookup, hsoon, hregex, htodo, hdata, Yaml.Value.text,
    h.todoFile.expandHome_eq, h.todoFile.possible, h.dataDir.expandHome_eq, h.dataDir.possible,
    SoonDays.ofValue?_toScalar]
  rfl

theorem fieldsOfValue_of_perm {entries : List (Yaml.Scalar × Yaml.Value)}
    (hperm : entries.Perm s.entries) :
    ∃ given, fieldsOfValue (.map entries) = .ok given ∧ given.Perm s.fields := by
  -- each entry is taken or left on its own
  obtain ⟨field?, hfield?⟩ : ∃ field? : Yaml.Scalar × Yaml.Value → Option (Text × Yaml.Value),
      ∀ entry entries, fieldsOfValue (.map (entry :: entries)) =
        .ok ((entry :: entries).filterMap field?) :=
    ⟨_, fun _ _ ↦ rfl⟩
  have hfields : s.entries.filterMap field? = s.fields :=
    Except.ok.inj ((hfield? _ _).symm.trans (rfl : fieldsOfValue (.map s.entries) = .ok s.fields))
  cases entries with
  | nil => exact absurd (List.nil_perm.mp hperm) (List.cons_ne_nil _ _)
  | cons entry entries =>
    refine ⟨_, hfield? entry entries, ?_⟩
    rw [← hfields]
    exact hperm.filterMap field?

/-- Settings whose document is read back are found in it again. -/
theorem ofText_toText (h : s.Expanded home) (hyaml : Yaml.ReadsBack s.entries) :
    ofText home s.toText = .ok (s, []) := by
  obtain ⟨entries, hread, hperm⟩ := hyaml
  obtain ⟨given, hfields, hperm'⟩ := fieldsOfValue_of_perm hperm
  have hread' : Yaml.Value.ofText s.toText = .ok (.map entries) := hread
  rw [ofText, hread']
  simp only [hfields]
  exact ofFields_of_perm h hperm'

/-! ## Saving and loading -/

theorem run_save (s : Settings) (p : Option Path) (tree : FileTree) :
    (s.save p : StateM FileTree _).run tree =
      tree.write (p.getD s.path) (bytesOfText s.toText) := rfl

theorem run_reload (home : Text) (p : Option Path) (tree : FileTree) :
    (SettingsLoader.reload home p : StateM FileTree _).run tree =
      (match ofContent home (SettingsLoader.pathOr home p)
          (tree.read (SettingsLoader.pathOr home p)) with
        | .ok (settings, warnings) => ((.ok (settings, warnings), ⟨some settings⟩), tree)
        | .error fault => ((.error fault, .empty), tree)) := by
  simp only [SettingsLoader.reload, SettingsLoader.load, SettingsLoader.empty, StateT.run_bind,
    FileTree.run_read, pure_bind]
  cases ofContent home (SettingsLoader.pathOr home p)
      (tree.read (SettingsLoader.pathOr home p)) with
  | error fault => rfl
  | ok loaded => rfl

/-- **Saved settings are loaded again.** Settings made from any fields are written to a file and
loaded from it as they are, without warnings, and are the ones kept from then on, whatever was kept
before. The file is the one named in both cases; if none is named, the directory of the settings has
to be the default one. It is assumed that the file is written, that the document of the settings is
read back, and that the home directory has an absolute path. -/
theorem reload_of_save (hhome : home.head? = some '/')
    (hs : ofFields home given = .ok (s, warnings))
    (hpath : p = none → s.path = (defaults home).path) (hyaml : Yaml.ReadsBack s.entries)
    (hsave : (s.save p : StateM FileTree _).run tree = (.ok (), tree')) :
    (SettingsLoader.reload home p : StateM FileTree _).run tree' =
      ((.ok (s, []), ⟨some s⟩), tree') := by
  have hplace : SettingsLoader.pathOr home p = p.getD s.path := by
    cases p with
    | none => exact (hpath rfl).symm
    | some path => rfl
  rw [run_save] at hsave
  have hcontent : ofContent home (SettingsLoader.pathOr home p)
      (tree'.read (SettingsLoader.pathOr home p)) = .ok (s, []) := by
    rw [hplace, (FileTree.read_of_write hsave).1, ofContent, textOfBytes_bytesOfText]
    simp only [ofText_toText (expanded_of_ofFields hhome hs) hyaml]
  rw [run_reload, hcontent]

theorem exists_run_save (h : ((s.save p : StateM FileTree _).run tree).1 = .ok ()) :
    ∃ tree', (s.save p : StateM FileTree _).run tree = (.ok (), tree') :=
  ⟨_, Prod.ext h rfl⟩

theorem entries_of_useRegex {value : Yaml.Scalar} (h : s.useRegex = .scalar value) :
    s.entries = Yaml.ofScalars [(.text soonDaysField, s.soonDays.toScalar),
      (.text useRegexField, value), (.text todoFileField, .text s.todoFile),
      (.text dataDirField, .text s.dataDir)] := by
  rw [entries, fields, h]
  rfl

theorem reload_of_save_three :
    let home := "/home/me".toList
    let s : Settings := ⟨.days 3 (by decide), .scalar (.text "no".toList),
      "/home/me/tasks".toList, "/home/me/.todo".toList⟩
    ∃ tree', (s.save none : StateM FileTree _).run ⟨⟨['/'], []⟩, [], []⟩ = (.ok (), tree') ∧
      (SettingsLoader.reload home none : StateM FileTree _).run tree' =
        ((.ok (s, []), ⟨some s⟩), tree') := by
  intro home s
  have hs : ofFields home [(soonDaysField, .scalar (.int 3)), (useRegexField, .text "no".toList),
      (todoFileField, .text "~/tasks".toList)] = .ok (s, []) := by rfl
  have hyaml : Yaml.ReadsBack s.entries := by
    rw [entries_of_useRegex rfl]
    exact Yaml.readsBack_of_readsScalarsBack (by decide +kernel)
  obtain ⟨tree', hsave⟩ : ∃ tree', (s.save none : StateM FileTree _).run ⟨⟨['/'], []⟩, [], []⟩ =
      (.ok (), tree') := exists_run_save (by decide +kernel)
  have hhome : home.head? = some '/' := by decide
  have hpath : s.path = (defaults home).path := by decide
  exact ⟨tree', hsave, reload_of_save hhome hs (fun _ ↦ hpath) hyaml hsave⟩

/-- Settings with a directory of their own are saved there, and loaded from the default one. -/
theorem not_forall_reload_of_save :
    ¬ ∀ (home : Text) (given : List (Text × Yaml.Value)) (s : Settings)
      (warnings : List SettingsWarning) (p : Option Path) (tree tree' : FileTree),
      home.head? = some '/' → ofFields home given = .ok (s, warnings) →
      Yaml.ReadsBack s.entries → (s.save p : StateM FileTree _).run tree = (.ok (), tree') →
      (SettingsLoader.reload home p : StateM FileTree _).run tree' =
        ((.ok (s, []), ⟨some s⟩), tree') := by
  intro h
  let home := "/home/me".toList
  let s : Settings := ⟨.days 3 (by decide), .scalar (.bool false), "/home/me/todo.txt".toList,
    "/home/me/other".toList⟩
  let tree : FileTree := ⟨⟨['/'], []⟩, [], []⟩
  have hs : ofFields home [(soonDaysField, .scalar (.int 3)),
      (dataDirField, .text "~/other".toList)] = .ok (s, []) := by rfl
  have hyaml : Yaml.ReadsBack s.entries := by
    rw [entries_of_useRegex rfl]
    exact Yaml.readsBack_of_readsScalarsBack (by decide +kernel)
  have hwritten : ((s.save none : StateM FileTree _).run tree).1 = .ok () := by decide +kernel
  have hmissing : ((s.save none : StateM FileTree _).run tree).2.read (defaults home).path =
      .error .missing := by
    decide +kernel
  obtain ⟨tree', hsave⟩ := exists_run_save hwritten
  rw [hsave] at hmissing
  have hreload := h home _ s [] none tree tree' (by decide) hs hyaml hsave
  rw [run_reload, SettingsLoader.pathOr, Option.getD_none, hmissing] at hreload
  have hdays : (defaults home).soonDays = s.soonDays :=
    congrArg (fun r ↦ r.1.1.toOption.elim s.soonDays (·.1.soonDays)) hreload
  exact absurd hdays (by decide)

end Settings

end Agenda
