import Agenda.Proofs.Reference
import Agenda.Proofs.SavedSettings

/-!
# Settings are loaded whole or not at all

A file of settings either makes settings, and then these are the ones loaded, or it makes none, and
then all of the defaults are loaded, with one warning. There is no third outcome in which some of
its fields count. But two kinds of files are not prepared for: those that hold no text, and those
that hold a value that is refused only when it is made, such as a day that there is not or the home
directory of an impossible user (`SettingsFault.Escapes`). Loading them fails, and nothing is kept.

What has been loaded is kept. The invariant is that the loader keeps the settings that it has, which
every request for settings preserves whatever file it names and whatever has been written in between
(`SettingsLoader.run_answer`); only a request to load anew looks at a file again.
-/

namespace Agenda

/-! ## Contents -/

/-- The faults of a document that are not expected of one. -/
def SettingsFault.Escapes : SettingsFault → Prop
  | .unreadable .impossible | .impossibleUser _ => True
  | _ => False

theorem SettingsFault.escapes_iff {fault : SettingsFault} :
    fault.Escapes ↔ fault = .unreadable .impossible ∨ ∃ field, fault = .impossibleUser field := by
  constructor
  · intro h
    rw [Escapes.eq_def] at h
    split at h
    · exact .inl rfl
    · exact .inr ⟨_, rfl⟩
    · cases h
  · rintro (rfl | ⟨field, rfl⟩)
    · exact trivial
    · exact trivial

namespace Settings

variable {home text : Text} {bytes : ByteArray} {place : Path} {fault : SettingsFault}
  {result : Settings × List SettingsWarning} {p : Option Path} {tree : FileTree}

theorem ofContent_of_ok (htext : textOfBytes bytes = .ok text) (h : ofText home text = .ok result) :
    ofContent home place (.ok bytes) = .ok result := by
  simp only [ofContent, htext, h]

/-- The defaults take the place of a document that makes no settings. -/
theorem ofContent_of_error (htext : textOfBytes bytes = .ok text)
    (h : ofText home text = .error fault) (hfault : ¬ fault.Escapes) :
    ofContent home place (.ok bytes) = .ok (defaults home, [.badSettings place]) := by
  simp only [ofContent, htext, h]
  split
  · next heq => cases heq
  · next heq =>
    cases heq
    exact absurd trivial hfault
  · next heq =>
    cases heq
    exact absurd trivial hfault
  · rfl

theorem ofContent_of_escapes (htext : textOfBytes bytes = .ok text)
    (h : ofText home text = .error fault) (hfault : fault.Escapes) :
    ofContent home place (.ok bytes) = .error .impossible := by
  obtain rfl | ⟨field, rfl⟩ := SettingsFault.escapes_iff.mp hfault
  · simp only [ofContent, htext, h]
  · simp only [ofContent, htext, h]

theorem ofContent_of_not_text {unread : FileFault} (htext : textOfBytes bytes = .error unread) :
    ofContent home place (.ok bytes) = .error .notText := by
  simp only [ofContent, htext]

/-- What is loaded is all that the document makes, or all of the defaults. -/
theorem ofContent_eq_ok_iff : ofContent home place (.ok bytes) = .ok result ↔
    ∃ text, textOfBytes bytes = .ok text ∧
      (ofText home text = .ok result ∨
        result = (defaults home, [.badSettings place]) ∧
          ∃ fault, ofText home text = .error fault ∧ ¬ fault.Escapes) := by
  cases htext : textOfBytes bytes with
  | error unread => simp [ofContent_of_not_text htext]
  | ok text =>
    cases hdocument : ofText home text with
    | ok made =>
      rw [ofContent_of_ok htext hdocument]
      simp [hdocument]
    | error fault =>
      by_cases hfault : fault.Escapes
      · rw [ofContent_of_escapes htext hdocument hfault]
        simp [hdocument, hfault]
      · rw [ofContent_of_error htext hdocument hfault]
        simp [hdocument, hfault, eq_comm]

/-- Loading fails exactly if there is no text or a fault that escapes. -/
theorem exists_ofContent_iff : (∃ result, ofContent home place (.ok bytes) = .ok result) ↔
    ∃ text, textOfBytes bytes = .ok text ∧
      ∀ fault, ofText home text = .error fault → ¬ fault.Escapes := by
  simp only [ofContent_eq_ok_iff]
  constructor
  · rintro ⟨result, text, htext, hmade | ⟨-, fault, hfault, hescapes⟩⟩
    · exact ⟨text, htext, fun fault hfault ↦ by cases hmade.symm.trans hfault⟩
    · refine ⟨text, htext, fun fault' hfault' ↦ ?_⟩
      cases hfault.symm.trans hfault'
      exact hescapes
  · rintro ⟨text, htext, hnone⟩
    cases hdocument : ofText home text with
    | ok made => exact ⟨made, text, htext, .inl hdocument⟩
    | error fault => exact ⟨_, text, htext, .inr ⟨rfl, fault, hdocument, hnone fault hdocument⟩⟩

end Settings

/-! ## What is kept -/

/-- A request to a loader of settings. -/
inductive SettingsRequest where
  /-- The settings kept, or those of a file. -/
  | load (path : Option Path)
  /-- The settings kept, or those of the default file. -/
  | get
  /-- The settings of a file, whatever is kept. -/
  | reload (path : Option Path)
  deriving DecidableEq

namespace SettingsRequest

/-- Does the request look at a file even if settings are kept? -/
def isReload : SettingsRequest → Bool
  | reload _ => true
  | load _ | get => false

end SettingsRequest

namespace SettingsLoader

variable {home : Text} {loader : SettingsLoader} {settings : Settings} {request : SettingsRequest}

/-- The answer to a request, and the loader after it. -/
def answer {m : Type → Type} [Monad m] [FileAccess m] (home : Text) (loader : SettingsLoader) :
    SettingsRequest →
      m (Except Yaml.ContentFault (Settings × List SettingsWarning) × SettingsLoader)
  | .load path => load home path loader
  | .get => get home loader
  | .reload path => reload home path

/-- The answers to some requests, each over the files that there are by then. -/
def answers (home : Text) (loader : SettingsLoader) : List (FileTree × SettingsRequest) →
    List (Except Yaml.ContentFault (Settings × List SettingsWarning))
  | [] => []
  | (tree, request) :: later =>
    let (answer, loader) := ((loader.answer home request : StateM FileTree _).run tree).1
    answer :: loader.answers home later

theorem run_answer (hkept : loader.kept = some settings) (hrequest : request.isReload = false)
    (tree : FileTree) : (loader.answer home request : StateM FileTree _).run tree =
      ((.ok (settings, []), loader), tree) := by
  cases request with
  | load path =>
    simp only [answer, load, hkept]
    rfl
  | get =>
    simp only [answer, get, load, hkept]
    rfl
  | reload path => cases hrequest

theorem answers_of_kept (hkept : loader.kept = some settings)
    {later : List (FileTree × SettingsRequest)} (hlater : ∀ r ∈ later, r.2.isReload = false) :
    loader.answers home later = later.map fun _ ↦ .ok (settings, []) := by
  induction later with
  | nil => rfl
  | cons r later ih =>
    obtain ⟨hr, hlater⟩ := List.forall_mem_cons.mp hlater
    rw [answers, run_answer hkept hr, List.map_cons, ← ih hlater]

theorem run_reload_keeps (home : Text) (path : Option Path) (tree : FileTree) :
    ∃ loader, (reload home path : StateM FileTree _).run tree =
        ((Settings.ofContent home (pathOr home path) (tree.read (pathOr home path)), loader),
          tree) ∧
      loader.kept = (Settings.ofContent home (pathOr home path)
        (tree.read (pathOr home path))).toOption.map Prod.fst := by
  rw [Settings.run_reload]
  cases Settings.ofContent home (pathOr home path) (tree.read (pathOr home path)) with
  | error fault => exact ⟨empty, rfl, rfl⟩
  | ok loaded => exact ⟨⟨some loaded.1⟩, rfl, rfl⟩

/-- **Settings are loaded whole.** What is loaded from a file is all that its document makes, or all
of the defaults with a warning if it makes nothing. Loading fails only for files that hold no text
or a fault that escapes, and then nothing is kept. The settings loaded have a number of days from 1
to 255, and they answer every request until they are loaded anew, whatever the requests name and
whatever has become of the files. -/
theorem reload_whole (home : Text) (path : Option Path) (tree : FileTree) (bytes : ByteArray)
    (hread : tree.read (pathOr home path) = .ok bytes) :
    ∃ answer loader, (reload home path : StateM FileTree _).run tree = ((answer, loader), tree) ∧
      (∀ result, answer = .ok result ↔ ∃ text, textOfBytes bytes = .ok text ∧
        (Settings.ofText home text = .ok result ∨
          result = (Settings.defaults home, [.badSettings (pathOr home path)]) ∧
            ∃ fault, Settings.ofText home text = .error fault ∧ ¬ fault.Escapes)) ∧
      ((∃ result, answer = .ok result) ↔ ∃ text, textOfBytes bytes = .ok text ∧
        ∀ fault, Settings.ofText home text = .error fault → ¬ fault.Escapes) ∧
      (∀ fault, answer = .error fault → loader.kept = none) ∧
      ∀ settings warnings, answer = .ok (settings, warnings) →
        0 < settings.soonDays.toNat ∧ settings.soonDays.toNat < 256 ∧
        ∀ later : List (FileTree × SettingsRequest), (∀ r ∈ later, r.2.isReload = false) →
          loader.answers home later = later.map fun _ ↦ .ok (settings, []) := by
  obtain ⟨loader, hrun, hkept⟩ := run_reload_keeps home path tree
  -- all of the statement is about the one answer and what is kept of it
  rw [hread] at hrun hkept
  refine ⟨_, loader, hrun, fun result ↦ Settings.ofContent_eq_ok_iff,
    Settings.exists_ofContent_iff, fun fault hfault ↦ ?_, fun settings warnings hloaded ↦ ?_⟩
  · rw [hkept, hfault]
    rfl
  · rw [hloaded] at hkept
    exact ⟨settings.soonDays.toNat_pos, settings.soonDays.toNat_lt,
      fun later hlater ↦ answers_of_kept hkept hlater⟩

/-- A tree with one file of settings. -/
def treeOfSettings (document : Text) : FileTree :=
  ⟨⟨['/'], []⟩, [], [(["c.yaml".toList], bytesOfText document)]⟩

theorem reload_whole_three :
    let path := some (Path.ofText "/c.yaml".toList)
    let tree := treeOfSettings "soon_days: 3\n".toList
    ∃ settings loader, settings.soonDays = .days 3 (by decide) ∧
      (reload "/home/me".toList path : StateM FileTree _).run tree =
        ((.ok (settings, []), loader), tree) ∧
      loader.answers "/home/me".toList
          [(treeOfSettings [], .get), (tree, .load (some (Path.ofText "/d.yaml".toList)))] =
        [.ok (settings, []), .ok (settings, [])] := by
  intro path tree
  obtain ⟨answer, loader, hrun, hloaded, -, -, hkept⟩ :=
    reload_whole "/home/me".toList path tree (bytesOfText "soon_days: 3\n".toList) rfl
  have hdocument : (Settings.ofText "/home/me".toList "soon_days: 3\n".toList).toOption.map
      (fun made ↦ (made.1.soonDays, made.2.length)) = some (.days 3 (by decide), 0) := by
    decide +kernel
  obtain ⟨⟨settings, warnings⟩, hmade, hparts⟩ := Option.map_eq_some_iff.mp hdocument
  obtain ⟨hdays, hlength⟩ := Prod.mk.inj hparts
  obtain rfl : warnings = [] := List.eq_nil_of_length_eq_zero hlength
  have hanswer : answer = .ok (settings, []) := (hloaded _).mpr
    ⟨_, textOfBytes_bytesOfText _, .inl (eq_ok_of_toOption hmade)⟩
  refine ⟨settings, loader, hdays, by rw [hrun, hanswer], ?_⟩
  exact (hkept settings [] hanswer).2.2 _ (by decide)

/-- The home directory of an impossible user is a fault that escapes, whatever else there is. -/
theorem not_forall_reload : ¬ ∀ (home : Text) (path : Option Path) (tree : FileTree)
    (bytes : ByteArray), tree.read (pathOr home path) = .ok bytes →
      ∃ result, ((reload home path : StateM FileTree _).run tree).1.1 = .ok result := by
  intro h
  let home := "/home/me".toList
  let document := "todo_file: \"~\\0\"\nsoon_days: 3\n".toList
  obtain ⟨result, hresult⟩ := h home (some (Path.ofText "/c.yaml".toList))
    (treeOfSettings document) (bytesOfText document) rfl
  have hfault : (match Settings.ofText home document with
      | .error fault => some fault
      | .ok _ => none) = some (.impossibleUser Settings.todoFileField) := by
    decide +kernel
  obtain ⟨loader, hrun, -⟩ :=
    run_reload_keeps home (some (Path.ofText "/c.yaml".toList)) (treeOfSettings document)
  rw [hrun] at hresult
  obtain ⟨text, htext, hnone⟩ := Settings.exists_ofContent_iff.mp ⟨result, hresult⟩
  cases htext.symm.trans (textOfBytes_bytesOfText document)
  split at hfault
  · next fault hread =>
    cases hfault
    exact hnone _ hread trivial
  · cases hfault

end SettingsLoader

end Agenda
