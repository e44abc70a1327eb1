import Agenda.FilterBook.Keeper
import Agenda.Proofs.Dictionaries
import Agenda.Proofs.Documents
import Mathlib.Data.List.Infix

/-!
# Saved filters last

A filter keeper changes its book and then writes it, so at any time a new keeper of the same file
should know the same filters. That is an invariant of every request (`FilterKeeper.Kept`): whoever
reads the file finds a book with the same filters, perhaps in another order, and the file can be
written. It is preserved because what was written is read back (`FileTree.read_of_write`,
`Yaml.ReadsBack`). What a request does to the filter of one name is the other half of a step
(`FilterKeeper.Kept.exists_answer`).

By induction on the requests, both say what is in the file after any of them: for each name the
filter that was last saved under it and not deleted since (`FilterKeeper.durable`).
-/

namespace Agenda

/-! ## Books read back -/

namespace FilterBook

variable {book : FilterBook} {name query : Text}

/-- The entries of the document that holds the book. -/
def entries (book : FilterBook) : List (Yaml.Scalar × Yaml.Value) :=
  book.saved.map fun (name, query) ↦ (.text name, .text query)

/-- No name is bound twice. -/
def NamesOnce (book : FilterBook) : Prop := (book.saved.map Prod.fst).Nodup

theorem NamesOnce.save (h : book.NamesOnce) (name query : Text) :
    (book.save name query).NamesOnce :=
  Dictionary.nodup_set h name query

theorem get?_save (book : FilterBook) (name query other : Text) :
    (book.save name query).saved.get? other =
      if other = name then some query else book.saved.get? other := by
  rw [FilterBook.save]
  split
  · next h => rw [h, Dictionary.get?_set_self]
  · next h => rw [Dictionary.get?_set_of_ne h]

theorem delete?_of_get? (h : book.saved.get? name = some query) :
    book.delete? name = some ⟨book.saved.erase name⟩ := by
  rw [delete?, h]
  rfl

theorem delete?_of_none (h : book.saved.get? name = none) : book.delete? name = none := by
  rw [delete?, h]
  rfl

/-- A book whose document is read back is found in its file again. -/
theorem exists_ofContent (hnames : book.NamesOnce) (h : Yaml.ReadsBack book.entries) :
    ∃ book', ofContent (.ok (bytesOfText book.toText)) = .ok (book', true) ∧ book'.NamesOnce ∧
      ∀ name, book'.saved.get? name = book.saved.get? name := by
  obtain ⟨entries', hread, hperm⟩ := Yaml.readContent_of_readsBack h
  have hread' : Yaml.readContent (bytesOfText book.toText) = .ok (some (.map entries')) := hread
  -- names and filters are texts, so they are read as they are
  obtain ⟨texts, htexts, hid⟩ : ∃ texts : Yaml.Scalar × Yaml.Value → Text × Text,
      (∀ entries, ofValue (.map entries) = ⟨Dictionary.ofBindings (entries.map texts)⟩) ∧
        ∀ name query, texts (.text name, .text query) = (name, query) :=
    ⟨_, fun _ ↦ rfl, fun _ _ ↦ rfl⟩
  have hsaved : book.entries.map texts = book.saved := by
    rw [entries, List.map_map]
    exact List.map_congr_left (fun _ _ ↦ hid _ _) |>.trans (List.map_id _)
  have hperm' : (entries'.map texts).Perm book.saved := by
    rw [← hsaved]
    exact hperm.map texts
  have hnames' : ((entries'.map texts).map Prod.fst).Nodup :=
    (hperm'.map Prod.fst).nodup_iff.mpr hnames
  refine ⟨⟨entries'.map texts⟩, ?_, hnames', fun name ↦ lookup_eq_of_perm hnames hperm' name⟩
  rw [ofContent, hread']
  simp only [htexts, Dictionary.ofBindings_of_nodup hnames']

end FilterBook

/-! ## What requests do -/

/-- The request saves or deletes the filter of a name. -/
def FilterRequest.Concerns : FilterRequest → Text → Prop
  | .save other _, name | .delete other, name => name = other
  | _, _ => False

/-- The filter is the last one saved under the name, and it is not deleted afterwards. -/
def IsLastSave (name query : Text) (requests : List FilterRequest) : Prop :=
  ∃ earlier later, requests = earlier ++ .save name query :: later ∧
    ∀ request ∈ later, ¬ request.Concerns name

theorem not_isLastSave_nil {name query : Text} : ¬ IsLastSave name query [] := by
  rintro ⟨_ | _, _, heq, -⟩
  · cases heq
  · cases heq

theorem isLastSave_cons_iff {name query : Text} {request : FilterRequest}
    {requests : List FilterRequest} :
    IsLastSave name query (request :: requests) ↔ IsLastSave name query requests ∨
      request = .save name query ∧ ∀ later ∈ requests, ¬ later.Concerns name := by
  constructor
  · rintro ⟨_ | ⟨first, earlier⟩, later, heq, hlater⟩
    · obtain ⟨rfl, rfl⟩ := List.cons.inj heq
      exact .inr ⟨rfl, hlater⟩
    · obtain ⟨rfl, rfl⟩ := List.cons.inj heq
      exact .inl ⟨earlier, later, rfl, hlater⟩
  · rintro (⟨earlier, later, rfl, hlater⟩ | ⟨rfl, hlater⟩)
    · exact ⟨request :: earlier, later, rfl, hlater⟩
    · exact ⟨[], requests, rfl, hlater⟩

namespace FilterKeeper

variable {keeper : FilterKeeper} {tree tree' : FileTree} {book : FilterBook} {place : Path}
  {style : PatternStyle} {request : FilterRequest} {requests : List FilterRequest}
  {name query : Text}

/-! ### Over a table of files -/

theorem run_load (place : Path) (style : PatternStyle) (tree : FileTree) :
    (load place style : StateM FileTree _).run tree =
      ((FilterBook.ofContent (tree.read place)).map fun (book, fit) ↦ (⟨book, place, style⟩, fit),
        tree) := by
  simp only [load, StateT.run_bind, FileTree.run_read, pure_bind]
  rfl

theorem run_keep (h : tree.write keeper.place (bytesOfText book.toText) = (.ok (), tree')) :
    (keeper.keep book : StateM FileTree _).run tree =
      ((.ok (), { keeper with book }), tree') := by
  simp only [keep, StateT.run_bind, FileTree.run_write, pure_bind, h]
  rfl

theorem run_save
    (h : tree.write keeper.place (bytesOfText (keeper.book.save name query).toText) =
      (.ok (), tree')) :
    (keeper.answer (.save name query) : StateM FileTree _).run tree =
      ((.ok .saved, { keeper with book := keeper.book.save name query }), tree') := by
  simp only [answer, save, StateT.run_bind, run_keep h]
  rfl

theorem run_delete_of_some (hdelete : keeper.book.delete? name = some book)
    (h : tree.write keeper.place (bytesOfText book.toText) = (.ok (), tree')) :
    (keeper.answer (.delete name) : StateM FileTree _).run tree =
      ((.ok (.deleted true), { keeper with book }), tree') := by
  simp only [answer, delete, hdelete, StateT.run_bind, run_keep h]
  rfl

theorem run_delete_of_none (hdelete : keeper.book.delete? name = none) (tree : FileTree) :
    (keeper.answer (.delete name) : StateM FileTree _).run tree =
      ((.ok (.deleted false), keeper), tree) := by
  simp only [answer, delete, hdelete]
  rfl

theorem run_reload {fit : Bool}
    (h : FilterBook.ofContent (tree.read keeper.place) = .ok (book, fit)) :
    (keeper.answer .reload : StateM FileTree _).run tree =
      ((.ok (.reloaded fit), { keeper with book }), tree) := by
  simp only [answer, StateT.run_bind, run_load, h]
  rfl

/-! ## The invariant -/

/-- The file of a keeper can be written, and holds the filters of the keeper. -/
structure Kept (keeper : FilterKeeper) (tree : FileTree) : Prop where
  namesOnce : keeper.book.NamesOnce
  writable : tree.Writable keeper.place
  /-- Who reads the file finds the same filters. -/
  reopened : ∃ book, FilterBook.ofContent (tree.read keeper.place) = .ok (book, true) ∧
    book.NamesOnce ∧ ∀ name, book.saved.get? name = keeper.book.saved.get? name

theorem kept_of_write (hnames : book.NamesOnce) (hyaml : Yaml.ReadsBack book.entries)
    (h : tree.write keeper.place (bytesOfText book.toText) = (.ok (), tree')) :
    ({ keeper with book } : FilterKeeper).Kept tree' := by
  obtain ⟨hread, hwritable⟩ := FileTree.read_of_write h
  refine ⟨hnames, hwritable, ?_⟩
  rw [hread]
  exact FilterBook.exists_ofContent hnames hyaml

theorem kept_of_missing (hmissing : tree.read place = .error .missing)
    (hwritable : tree.Writable place) : (⟨.empty, place, style⟩ : FilterKeeper).Kept tree := by
  refine ⟨List.nodup_nil, hwritable, .empty, ?_, List.nodup_nil, fun _ ↦ rfl⟩
  rw [hmissing]
  rfl

/-- A request keeps the invariant, and changes the filter of a name if it concerns the name. -/
theorem Kept.exists_answer (h : keeper.Kept tree) (request : FilterRequest)
    (hyaml : Yaml.ReadsBack
      ((keeper.answer request : StateM FileTree _).run tree).1.2.book.entries) :
    ∃ answer book tree', (keeper.answer request : StateM FileTree _).run tree =
        ((answer, { keeper with book }), tree') ∧
      ({ keeper with book } : FilterKeeper).Kept tree' ∧
      ∀ name query, book.saved.get? name = some query ↔ request = .save name query ∨
        keeper.book.saved.get? name = some query ∧ ¬ request.Concerns name := by
  cases request with
  | save name query =>
    -- the new book is written, and is found again since its document is read back
    obtain ⟨tree', hwrite⟩ := h.writable (bytesOfText (keeper.book.save name query).toText)
    have hrun := run_save hwrite
    rw [hrun] at hyaml
    refine ⟨_, _, _, hrun, kept_of_write (h.namesOnce.save name query) hyaml hwrite, ?_⟩
    intro other query'
    rw [FilterBook.get?_save, FilterRequest.Concerns]
    by_cases hother : other = name
    · simp [hother]
    · simp [hother, Ne.symm hother]
  | delete name =>
    cases hget : keeper.book.saved.get? name with
    | some query =>
      have hdelete := FilterBook.delete?_of_get? hget
      obtain ⟨tree', hwrite⟩ :=
        h.writable (bytesOfText (FilterBook.toText ⟨keeper.book.saved.erase name⟩))
      have hrun := run_delete_of_some hdelete hwrite
      rw [hrun] at hyaml
      have hnames := Dictionary.nodup_erase h.namesOnce name
      refine ⟨_, _, _, hrun, kept_of_write hnames hyaml hwrite, ?_⟩
      intro other query'
      rw [Dictionary.get?_erase, FilterRequest.Concerns]
      by_cases hother : other = name
      · simp [hother]
      · simp [hother]
    | none =>
      -- nothing is written
      have hrun := run_delete_of_none (FilterBook.delete?_of_none hget) tree
      refine ⟨_, _, _, hrun, h, fun other query' ↦ ?_⟩
      rw [FilterRequest.Concerns]
      by_cases hother : other = name
      · simp [hother, hget]
      · simp [hother]
  | reload =>
    -- the book that is read again may have its filters in another order
    obtain ⟨book, hread, hnames, hsame⟩ := h.reopened
    refine ⟨_, _, _, run_reload hread, ⟨hnames, h.writable, book, hread, hnames, fun _ ↦ rfl⟩, ?_⟩
    intro other query'
    rw [hsame]
    simp [FilterRequest.Concerns]
  | expand query => exact ⟨_, keeper.book, tree, rfl, h, by simp [FilterRequest.Concerns]⟩
  | search tasks query base =>
    exact ⟨_, keeper.book, tree, rfl, h, by simp [FilterRequest.Concerns]⟩
  | list => exact ⟨_, keeper.book, tree, rfl, h, by simp [FilterRequest.Concerns]⟩

/-- Any requests keep the invariant. Afterwards a name has the filter that was last saved under it
and not deleted since, or the filter that it had before if no request concerns it. -/
theorem Kept.exists_after (h : keeper.Kept tree) (requests : List FilterRequest)
    (hyaml : ∀ earlier, earlier <+: requests → Yaml.ReadsBack
      ((keeper.after earlier : StateM FileTree _).run tree).1.book.entries) :
    ∃ book tree', (keeper.after requests : StateM FileTree _).run tree =
        ({ keeper with book }, tree') ∧
      ({ keeper with book } : FilterKeeper).Kept tree' ∧
      ∀ name query, book.saved.get? name = some query ↔ IsLastSave name query requests ∨
        keeper.book.saved.get? name = some query ∧
          ∀ request ∈ requests, ¬ request.Concerns name := by
  induction requests generalizing keeper tree with
  | nil =>
    refine ⟨keeper.book, tree, rfl, h, fun name query ↦ ?_⟩
    simp [IsLastSave]
  | cons request requests ih =>
    have hafter : ∀ later, (keeper.after (request :: later) : StateM FileTree _).run tree =
        let ((_, keeper'), tree') := (keeper.answer request : StateM FileTree _).run tree
        (keeper'.after later : StateM FileTree _).run tree' := fun later ↦ rfl
    have hfirst := hyaml [request] (List.prefix_cons_iff.mpr (.inr ⟨_, rfl, List.nil_prefix⟩))
    obtain ⟨answer, book, tree', hrun, hkept, hget⟩ := h.exists_answer request hfirst
    simp only [hrun] at hafter
    obtain ⟨book', tree'', hrun', hkept', hget'⟩ := ih hkept fun earlier hearlier ↦ by
      rw [← hafter]
      exact hyaml _ (List.prefix_cons_iff.mpr (.inr ⟨_, rfl, hearlier⟩))
    refine ⟨book', tree'', (hafter requests).trans hrun', hkept', fun name query ↦ ?_⟩
    rw [hget', hget, isLastSave_cons_iff, List.forall_mem_cons, or_and_right, and_assoc, or_assoc]

/-! ## Durability -/

/-- **Saved filters last.** A keeper of a file that is missing begins without filters. After any
requests a new keeper of the file knows the same filters; a name has the filter that was last saved
under it and not deleted since; deleting tells whether the name has a filter; and an at sign with a
name stands for its filter, or is refused and leaves filters and files as they are. It is assumed
that the file can be written, and that each of the books on the way is read back from its
document. -/
theorem durable (place : Path) (style : PatternStyle) (tree : FileTree)
    (requests : List FilterRequest) (hmissing : tree.read place = .error .missing)
    (hwritable : tree.Writable place)
    (hyaml : ∀ earlier, earlier <+: requests → Yaml.ReadsBack
      ((after ⟨.empty, place, style⟩ earlier : StateM FileTree _).run tree).1.book.entries) :
    (load place style : StateM FileTree _).run tree =
        (.ok (⟨.empty, place, style⟩, true), tree) ∧
      ∃ keeper files,
        (after ⟨.empty, place, style⟩ requests : StateM FileTree _).run tree = (keeper, files) ∧
        (∃ reopened, (load place style : StateM FileTree _).run files =
            (.ok (reopened, true), files) ∧
          ∀ name, reopened.book.saved.get? name = keeper.book.saved.get? name) ∧
        (∀ name query, keeper.book.saved.get? name = some query ↔
          IsLastSave name query requests) ∧
        (∀ name, ∃ keeper' files', (keeper.answer (.delete name) : StateM FileTree _).run files =
          ((.ok (.deleted (keeper.book.saved.get? name).isSome), keeper'), files')) ∧
        ∀ name, (keeper.answer (.expand ('@' :: name)) : StateM FileTree _).run files =
          ((match keeper.book.saved.get? name with
            | some query => .ok (.expanded query)
            | none => .error (.search (.unknownFilter name)), keeper), files) := by
  have hstart : (⟨.empty, place, style⟩ : FilterKeeper).Kept tree :=
    kept_of_missing hmissing hwritable
  obtain ⟨book, files, hrun, hkept, hget⟩ := hstart.exists_after requests hyaml
  refine ⟨?_, ⟨book, place, style⟩, files, hrun, ?_, ?_, ?_, ?_⟩
  · rw [run_load, hmissing]
    rfl
  · obtain ⟨reopened, hread, -, hsame⟩ := hkept.reopened
    refine ⟨⟨reopened, place, style⟩, ?_, hsame⟩
    rw [run_load, hread]
    rfl
  · intro name query
    -- no filter was there before the first request
    rw [hget, or_iff_left]
    rintro ⟨hempty, -⟩
    cases hempty
  · intro name
    cases hname : book.saved.get? name with
    | some query =>
      obtain ⟨files', hwrite⟩ :=
        hkept.writable (bytesOfText (FilterBook.toText ⟨book.saved.erase name⟩))
      exact ⟨_, files', run_delete_of_some (FilterBook.delete?_of_get? hname) hwrite⟩
    | none => exact ⟨_, files, run_delete_of_none (FilterBook.delete?_of_none hname) files⟩
  · intro name
    have hexpand : ((⟨book, place, style⟩ : FilterKeeper).answer (.expand ('@' :: name)) :
        StateM FileTree _).run files =
          ((((book.expand ('@' :: name)).map .expanded).mapError .search, ⟨book, place, style⟩),
            files) := rfl
    rw [hexpand, FilterBook.expand]
    cases book.saved.get? name <;> rfl

theorem durable_true :
    let tree : FileTree := ⟨⟨['/'], []⟩, [], []⟩
    let place := FilterBook.path [] "/filters".toList
    let requests : List FilterRequest := [.save "true".toList "12".toList,
      .save "calls".toList "@=phone".toList, .reload, .delete "calls".toList]
    ∃ keeper files reopened,
      (after ⟨.empty, place, .wildcard⟩ requests : StateM FileTree _).run tree = (keeper, files) ∧
      (load place .wildcard : StateM FileTree _).run files = (.ok (reopened, true), files) ∧
      reopened.book.saved.get? "true".toList = some "12".toList ∧
      reopened.book.saved.get? "calls".toList = none := by
  intro tree place requests
  have hmissing : tree.read place = .error .missing := by decide +kernel
  have hwrite : (tree.write place .empty).1 = .ok () := by decide +kernel
  -- the new keeper has the filters in another order, so there are four books on the way
  let books : List Dictionary := [[], [("true".toList, "12".toList)],
    [("true".toList, "12".toList), ("calls".toList, "@=phone".toList)],
    [("calls".toList, "@=phone".toList), ("true".toList, "12".toList)]]
  have hbooks : ∀ earlier ∈ requests.inits,
      ((after ⟨.empty, place, .wildcard⟩ earlier : StateM FileTree _).run tree).1.book.saved ∈
        books := by
    decide +kernel
  have hread : ∀ saved ∈ books, Yaml.readsScalarsBack
      (saved.map fun (name, query) ↦ (.text name, .text query)) = true := by
    decide +kernel
  have hyaml : ∀ earlier, earlier <+: requests → Yaml.ReadsBack
      ((after ⟨.empty, place, .wildcard⟩ earlier : StateM FileTree _).run tree).1.book.entries := by
    intro earlier hearlier
    have hbook := hbooks earlier ((List.mem_inits _ _).mpr hearlier)
    have hback := Yaml.readsBack_of_readsScalarsBack (hread _ hbook)
    rwa [Yaml.ofScalars, List.map_map] at hback
  obtain ⟨-, keeper, files, hrun, ⟨reopened, hload, hsame⟩, hget, -⟩ :=
    durable place .wildcard tree requests hmissing (FileTree.writable_of_write hwrite) hyaml
  refine ⟨keeper, files, reopened, hrun, hload, ?_, ?_⟩
  · rw [hsame, hget]
    exact ⟨[], _, rfl, by simp [FilterRequest.Concerns]⟩
  · rw [hsame, Option.eq_none_iff_forall_ne_some]
    intro query hquery
    have hlast := (hget _ _).mp hquery
    simp [requests, isLastSave_cons_iff, not_isLastSave_nil, FilterRequest.Concerns] at hlast

end FilterKeeper

end Agenda
