import Agenda.File.Tree
import Mathlib.Data.List.Basic

/-!
# Reading back what was written

Writing makes the directories on the path, so afterwards the path leads through directories that
exist (`Passes`), and to the file at its end. Two facts carry this. Making directories and writing a
file leave every directory a directory (`LeavesDirectories`), so a way that was passable stays so.
And the last part of a path is followed by its name alone, whatever the files are
(`walk_of_length_le_one`).

So a file that was written is read back with the content it was given, and it can be written again
(`read_of_write`).
-/

namespace Agenda

/-! ## Texts as bytes -/

@[simp] theorem textOfBytes_bytesOfText (s : Text) : textOfBytes (bytesOfText s) = .ok s := by
  have hencode : bytesOfText s = s.utf8Encode := rfl
  rw [hencode, textOfBytes, List.utf8Decode?_utf8Encode]

namespace FileTree

variable {t t' : FileTree} {p : Path} {directory directory' place parts name : List Text}
  {part : Text} {bytes : ByteArray}

/-! ## Ways through directories -/

/-- The parts lead from one directory to another, through directories that exist. -/
def Passes (t : FileTree) (directory : List Text) : List Text → List Text → Prop
  | [], directory' => directory' = directory
  | part :: parts, directory' =>
    isTooLong part = false ∧ t.entry (step directory part) = .directory ∧
      Passes t (step directory part) parts directory'

/-- What is a directory in one table is a directory in another one. -/
def LeavesDirectories (t t' : FileTree) : Prop :=
  ∀ parts, t.entry parts = .directory → t'.entry parts = .directory

theorem walk_of_directory (hshort : isTooLong part = false)
    (h : t.entry (step directory part) = .directory) :
    t.walk directory (part :: parts) = t.walk (step directory part) parts := by
  rw [walk.eq_def]
  simp only [hshort, h, Bool.false_eq_true, if_false]

theorem LeavesDirectories.passes (h : t.LeavesDirectories t')
    (hpasses : t.Passes directory parts directory') : t'.Passes directory parts directory' := by
  induction parts generalizing directory with
  | nil => exact hpasses
  | cons part parts ih =>
    obtain ⟨hshort, hdirectory, hrest⟩ := hpasses
    exact ⟨hshort, h _ hdirectory, ih hrest⟩

theorem Passes.walk_append (h : t.Passes directory parts directory') :
    t.walk directory (parts ++ name) = t.walk directory' name := by
  induction parts generalizing directory with
  | nil => rw [h, List.nil_append]
  | cons part parts ih =>
    obtain ⟨hshort, hdirectory, hrest⟩ := h
    rw [List.cons_append, walk_of_directory hshort hdirectory]
    exact ih hrest

theorem walk_of_length_le_one (h : name.length ≤ 1) (t t' : FileTree) (directory : List Text) :
    t.walk directory name = t'.walk directory name := by
  match name, h with
  | [], _ => rfl
  | [part], _ =>
    have hwalk : ∀ t : FileTree, t.walk directory [part] =
        if isTooLong part then .error .nameTooLong else .ok (step directory part) := by
      intro t
      rw [walk.eq_def]
      dsimp only
      cases t.entry (step directory part) <;> rfl
    rw [hwalk, hwalk]

/-! ## Making directories -/

theorem entry_eq_directory_iff : t.entry parts = .directory ↔ t.files.lookup parts = none ∧
    (t.current.parts :: t.directories ++ t.files.map (·.1)).any (parts.isPrefixOf ·) = true := by
  rw [entry]
  split
  · next hfile => simp [hfile]
  · next hnone =>
    split
    · next hprefix => exact ⟨fun _ ↦ ⟨hnone, hprefix⟩, fun _ ↦ rfl⟩
    · next hprefix => exact ⟨nofun, fun h ↦ absurd h.2 hprefix⟩

theorem entry_of_made (h : t.entry parts = .nothing) :
    ({ t with directories := parts :: t.directories }).entry parts = .directory := by
  rw [entry] at h
  split at h
  · cases h
  · next hnone => exact entry_eq_directory_iff.mpr ⟨hnone, by simp⟩

theorem leavesDirectories_of_made (parts : List Text) :
    t.LeavesDirectories { t with directories := parts :: t.directories } := by
  intro parts' h
  obtain ⟨hnone, hprefix⟩ := entry_eq_directory_iff.mp h
  refine entry_eq_directory_iff.mpr ⟨hnone, ?_⟩
  simp only [List.cons_append, List.any_cons, Bool.or_eq_true] at hprefix ⊢
  rcases hprefix with h | h
  · exact .inl h
  · exact .inr (.inr h)

theorem makeDirectories_of_directory (hshort : isTooLong part = false)
    (h : t.entry (step directory part) = .directory) :
    t.makeDirectories directory (part :: parts) =
      t.makeDirectories (step directory part) parts := by
  rw [makeDirectories.eq_def]
  simp only [hshort, h, Bool.false_eq_true, if_false]

theorem makeDirectories_of_nothing (hshort : isTooLong part = false)
    (h : t.entry (step directory part) = .nothing) :
    t.makeDirectories directory (part :: parts) =
      ({ t with directories := step directory part :: t.directories }).makeDirectories
        (step directory part) parts := by
  rw [makeDirectories.eq_def]
  simp only [hshort, h, Bool.false_eq_true, if_false]

/-- Making directories comes to nothing at a name that is too long and at a file. -/
theorem makeDirectories_stops (h : isTooLong part = true ∨
    t.entry (step directory part) ≠ .directory ∧ t.entry (step directory part) ≠ .nothing)
    (parts : List Text) :
    ∃ fault, t.makeDirectories directory (part :: parts) = (.error fault, t) := by
  rw [makeDirectories.eq_def]
  dsimp only
  split
  · exact ⟨_, rfl⟩
  · next hshort =>
    obtain ⟨hdirectory, hnothing⟩ := h.resolve_left hshort
    cases hentry : t.entry (step directory part) with
    | directory => exact absurd hentry hdirectory
    | nothing => exact absurd hentry hnothing
    | file bytes => cases parts <;> exact ⟨_, rfl⟩

/-- Directories that were made can be passed, and those that were there are left. -/
theorem makeDirectories_sound (t : FileTree) (directory parts : List Text) :
    (t.makeDirectories directory parts).2.current = t.current ∧
      t.LeavesDirectories (t.makeDirectories directory parts).2 ∧
      ∀ directory', (t.makeDirectories directory parts).1 = .ok directory' →
        (t.makeDirectories directory parts).2.Passes directory parts directory' := by
  induction parts generalizing t directory with
  | nil => exact ⟨rfl, fun _ h ↦ h, fun directory' h ↦ by cases h; rfl⟩
  | cons part parts ih =>
    -- the first part stops everything, or is a directory, or is made one
    by_cases hstops : isTooLong part = true ∨
        t.entry (step directory part) ≠ .directory ∧ t.entry (step directory part) ≠ .nothing
    · obtain ⟨fault, hfault⟩ := makeDirectories_stops hstops parts
      rw [hfault]
      exact ⟨rfl, fun _ h ↦ h, nofun⟩
    · obtain ⟨hshort, hentry⟩ := not_or.mp hstops
      rw [Bool.not_eq_true] at hshort
      rw [not_and_or, not_not, not_not] at hentry
      rcases hentry with hdirectory | hnothing
      · rw [makeDirectories_of_directory hshort hdirectory]
        obtain ⟨hcurrent, hleaves, hpasses⟩ := ih t (step directory part)
        refine ⟨hcurrent, hleaves, fun directory' h ↦ ?_⟩
        exact ⟨hshort, hleaves _ hdirectory, hpasses directory' h⟩
      · rw [makeDirectories_of_nothing hshort hnothing]
        obtain ⟨hcurrent, hleaves, hpasses⟩ :=
          ih { t with directories := step directory part :: t.directories } (step directory part)
        refine ⟨hcurrent, fun _ h ↦ hleaves _ (leavesDirectories_of_made _ _ h), ?_⟩
        exact fun directory' h ↦ ⟨hshort, hleaves _ (entry_of_made hnothing), hpasses directory' h⟩

theorem Passes.makeDirectories (h : t.Passes directory parts directory') :
    t.makeDirectories directory parts = (.ok directory', t) := by
  induction parts generalizing directory with
  | nil => rw [h, FileTree.makeDirectories]
  | cons part parts ih =>
    obtain ⟨hshort, hdirectory, hrest⟩ := h
    rw [makeDirectories_of_directory hshort hdirectory]
    exact ih hrest

/-! ## Writing -/

theorem lookup_put_self (parts : List Text) (bytes : ByteArray)
    (files : List (List Text × ByteArray)) : (put parts bytes files).lookup parts = some bytes := by
  induction files with
  | nil => simp [put]
  | cons file files ih =>
    obtain ⟨parts', bytes'⟩ := file
    by_cases h : parts' = parts
    · simp [put, h]
    · simp [put, h, List.lookup_cons, beq_false_of_ne (Ne.symm h), ih]

theorem lookup_put_of_ne (h : parts ≠ place) (bytes : ByteArray)
    (files : List (List Text × ByteArray)) :
    (put place bytes files).lookup parts = files.lookup parts := by
  induction files with
  | nil => simp [put, List.lookup_cons, beq_false_of_ne h]
  | cons file files ih =>
    obtain ⟨parts', bytes'⟩ := file
    by_cases hplace : parts' = place
    · subst hplace
      simp [put, List.lookup_cons, beq_false_of_ne h]
    · simp only [put, if_neg hplace, List.lookup_cons, ih]

theorem mem_map_fst_put {parts' : List Text} {files : List (List Text × ByteArray)}
    (h : parts' ∈ files.map (·.1)) : parts' ∈ (put place bytes files).map (·.1) := by
  induction files with
  | nil => cases h
  | cons file files ih =>
    obtain ⟨parts'', bytes'⟩ := file
    rw [put]
    split
    · exact h
    · rcases List.mem_cons.mp h with rfl | h
      · exact List.mem_cons_self
      · exact List.mem_cons_of_mem _ (ih h)

theorem leavesDirectories_of_put (h : t.entry place ≠ .directory) (bytes : ByteArray) :
    t.LeavesDirectories { t with files := put place bytes t.files } := by
  intro parts hdirectory
  have hne : parts ≠ place := by
    rintro rfl
    exact h hdirectory
  obtain ⟨hnone, hprefix⟩ := entry_eq_directory_iff.mp hdirectory
  refine entry_eq_directory_iff.mpr ⟨(lookup_put_of_ne hne bytes t.files).trans hnone, ?_⟩
  obtain ⟨parts', hmem, hparts⟩ := List.any_eq_true.mp hprefix
  refine List.any_eq_true.mpr ⟨parts', ?_, hparts⟩
  rcases List.mem_append.mp hmem with hmem | hmem
  · exact List.mem_append_left _ hmem
  · exact List.mem_append_right _ (mem_map_fst_put hmem)

theorem writeIn_eq_ok_iff : t.writeIn directory name bytes = (.ok (), t') ↔ ∃ place,
    t.walk directory name = .ok place ∧ t.entry place ≠ .directory ∧
      t' = { t with files := put place bytes t.files } := by
  rw [writeIn]
  cases hwalk : t.walk directory name with
  | error fault => simp
  | ok place =>
    cases hentry : t.entry place <;> simp [hentry, eq_comm]

theorem write_eq_ok_iff : t.write p bytes = (.ok (), t') ↔ ∃ directory made place,
    t.makeDirectories [] (t.absolute p).dropLast = (.ok directory, made) ∧
      made.walk directory ((t.absolute p).drop ((t.absolute p).length - 1)) = .ok place ∧
      made.entry place ≠ .directory ∧
      t' = { made with files := put place bytes made.files } := by
  rw [write]
  rcases t.makeDirectories [] (t.absolute p).dropLast with ⟨fault | directory, made⟩
  · simp
  · simp only [writeIn_eq_ok_iff, Prod.mk.injEq, Except.ok.injEq]
    constructor
    · rintro ⟨place, h⟩
      exact ⟨directory, made, place, ⟨rfl, rfl⟩, h⟩
    · rintro ⟨_, _, place, ⟨rfl, rfl⟩, h⟩
      exact ⟨place, h⟩

/-- A file can be written, whatever it is to hold. -/
def Writable (t : FileTree) (p : Path) : Prop := ∀ bytes, ∃ t', t.write p bytes = (.ok (), t')

theorem writable_of_write (h : (t.write p bytes).1 = .ok ()) : t.Writable p := by
  intro bytes'
  obtain ⟨directory, made, place, hmake, hwalk, hentry, -⟩ :=
    write_eq_ok_iff.mp (Prod.ext h rfl : t.write p bytes = (.ok (), (t.write p bytes).2))
  exact ⟨_, write_eq_ok_iff.mpr ⟨directory, made, place, hmake, hwalk, hentry, rfl⟩⟩

/-! ## Reading back -/

/-- A file that was written holds what it was given, and can be written again. -/
theorem read_of_write (h : t.write p bytes = (.ok (), t')) :
    t'.read p = .ok bytes ∧ t'.Writable p := by
  obtain ⟨directory, made, place, hmake, hwalk, hentry, ht'⟩ := write_eq_ok_iff.mp h
  obtain ⟨hcurrent, -, hmade⟩ := makeDirectories_sound t [] (t.absolute p).dropLast
  rw [hmake] at hcurrent hmade
  have habsolute : t'.absolute p = t.absolute p := by rw [absolute, absolute, ht', hcurrent]
  have hpasses : t'.Passes [] (t.absolute p).dropLast directory := by
    rw [ht']
    exact (leavesDirectories_of_put hentry bytes).passes (hmade directory rfl)
  -- the last part of the path leads to the same place as before the file was there
  have hplace : t'.walk directory ((t.absolute p).drop ((t.absolute p).length - 1)) =
      .ok place := by
    rw [← hwalk]
    refine walk_of_length_le_one ?_ t' made directory
    rw [List.length_drop]
    omega
  have hfile : t'.entry place = .file bytes := by rw [ht', entry, lookup_put_self]
  constructor
  · have hsplit : t.absolute p =
        (t.absolute p).dropLast ++ (t.absolute p).drop ((t.absolute p).length - 1) := by
      rw [List.dropLast_eq_take, List.take_append_drop]
    rw [read, habsolute, hsplit, hpasses.walk_append, hplace]
    simp only [hfile]
  · have hagain : t'.write p bytes =
        (.ok (), { t' with files := put place bytes t'.files }) := by
      refine write_eq_ok_iff.mpr ⟨directory, t', place, ?_, ?_, ?_, rfl⟩
      · rw [habsolute]
        exact hpasses.makeDirectories
      · rw [habsolute]
        exact hplace
      · rw [hfile]
        nofun
    exact writable_of_write (congrArg Prod.fst hagain)

/-! ## Running programs -/

@[simp] theorem run_read (p : Path) (t : FileTree) :
    (FileAccess.read p : StateM FileTree _).run t = (pure (t.read p, t) : Id _) := rfl

@[simp] theorem run_write (p : Path) (bytes : ByteArray) (t : FileTree) :
    (FileAccess.write p bytes : StateM FileTree _).run t = (pure (t.write p bytes) : Id _) := rfl

end FileTree

end Agenda
