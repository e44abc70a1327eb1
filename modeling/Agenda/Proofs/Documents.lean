import Agenda.Proofs.Files
import Agenda.Yaml.Content
import Agenda.Yaml.Written

/-!
# Documents read back

A saved mapping is written with its entries in the order of their keys, so what is read back may
have them in another order than what was written. Not every mapping is read back. A key of fewer
than 123 characters is written in one line, and with escapes it may take up more than the 1024
characters after which no key is recognized (`Yaml.not_forall_readsBack`). So that a mapping is read
back (`Yaml.ReadsBack`) is a property of the mapping, and results about saved data assume it of the
mappings that are saved.
-/

namespace Agenda

namespace Yaml

/-! ## Reading back -/

variable {entries : List (Scalar × Value)}

/-- The document that holds a mapping is read as the mapping. -/
def ReadsBack (entries : List (Scalar × Value)) : Prop :=
  ∃ entries', Value.ofText (document entries) = .ok (.map entries') ∧ entries'.Perm entries

/-- A key of 120 characters, each with an escape of ten, is too long to be read. -/
theorem not_forall_readsBack : ¬ ∀ key value, ReadsBack [(.text key, .text value)] := by
  intro h
  obtain ⟨entries', hread, -⟩ := h (List.replicate 120 (Char.ofNat 0x1F600)) []
  have hfails : (Value.ofText (document
      [(.text (List.replicate 120 (Char.ofNat 0x1F600)), .text [])])).toOption.isNone = true := by
    decide +kernel
  rw [hread] at hfails
  cases hfails

theorem readContent_of_readsBack (h : ReadsBack entries) : ∃ entries',
    readContent (bytesOfText (document entries)) = .ok (some (.map entries')) ∧
      entries'.Perm entries := by
  obtain ⟨entries', hread, hperm⟩ := h
  refine ⟨entries', ?_, hperm⟩
  rw [readContent, textOfBytes_bytesOfText]
  simp only [hread]

/-! ## Mappings of scalars -/

/-- A mapping whose values are scalars. -/
def ofScalars (entries : List (Scalar × Scalar)) : List (Scalar × Value) :=
  entries.map fun (key, value) ↦ (key, .scalar value)

/-- The entries of a mapping, if all its values are scalars. -/
def scalars? : List (Scalar × Value) → Option (List (Scalar × Scalar))
  | [] => some []
  | (key, .scalar value) :: entries => (scalars? entries).map ((key, value) :: ·)
  | _ => none

theorem eq_of_scalars? {scalars : List (Scalar × Scalar)} (h : scalars? entries = some scalars) :
    entries = ofScalars scalars := by
  induction entries generalizing scalars with
  | nil =>
    cases h
    rfl
  | cons entry entries ih =>
    obtain ⟨key, _ | _ | _⟩ := entry
    · obtain ⟨rest, hrest, rfl⟩ := Option.map_eq_some_iff.mp h
      rw [ih hrest]
      rfl
    · cases h
    · cases h

/-- Is a mapping of scalars read back? -/
def readsScalarsBack (scalars : List (Scalar × Scalar)) : Bool :=
  match Value.ofText (document (ofScalars scalars)) with
  | .ok (.map entries) =>
    match scalars? entries with
    | some read => read.isPerm scalars
    | none => false
  | _ => false

theorem readsBack_of_readsScalarsBack {scalars : List (Scalar × Scalar)}
    (h : readsScalarsBack scalars = true) : ReadsBack (ofScalars scalars) := by
  rw [readsScalarsBack] at h
  split at h
  · next entries hread =>
    split at h
    · next read hscalars =>
      refine ⟨entries, hread, ?_⟩
      rw [eq_of_scalars? hscalars]
      exact (List.isPerm_iff.mp h).map _
    · cases h
  · cases h

end Yaml

end Agenda
