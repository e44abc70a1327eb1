import Agenda.FilterBook
import Agenda.Proofs.Combination
import Agenda.Proofs.Dictionaries

/-!
# The names of a field in a search

Several fields have more than one name, and in a filter it does not matter by which of them a field
is called (`Candidate.passes?_congr_name`): the contexts of a task go by `ctx`, by `context` and by
`@`.

In a search the at sign has another meaning. A text that begins with it stands for a saved filter,
and this is settled before the text is looked at as a filter, whatever follows the sign. So the
names of a field are interchangeable in a search except for this one: `@=home` does not ask for the
context `home` but for a saved filter called `=home`. Behind the name of a saved filter, and at any
place other than the first, the sign keeps its meaning as a field.
-/

namespace Agenda

variable {name name' query : Text} {base : Date} {tasks : List Task}
  {style : PatternStyle} {book : FilterBook}

/-! ## Names of one field -/

theorem Field.eq_of_ofName_eq_tag {tag : Text} (h : Field.ofName name = .tag tag) : name = tag := by
  rcases Field.ofName_eq_tag_or_mem name with htag | hmem
  · exact Field.tag.inj (htag.symm.trans h)
  · have hbuiltIn : ∀ entry ∈ fieldNames, entry.2 ≠ .tag tag := by simp [fieldNames]
    exact absurd h (hbuiltIn _ hmem)

/-- The kind of a value matters for tags alone. -/
theorem Condition.matches?_congr_kind {field : Field} (hfield : ∀ tag, field ≠ .tag tag)
    (condition : Condition) (kind kind' : ValueKind) (c : Candidate) :
    condition.matches? field kind c = condition.matches? field kind' c := by
  cases field with
  | tag tag => exact absurd rfl (hfield tag)
  | _ => cases condition <;> rfl

theorem Candidate.meets?_congr_name (h : Field.ofName name = Field.ofName name') (c : Candidate) :
    c.meets? name = c.meets? name' := by
  by_cases htag : ∃ tag, Field.ofName name = .tag tag
  · obtain ⟨tag, htag⟩ := htag
    rw [Field.eq_of_ofName_eq_tag htag, Field.eq_of_ofName_eq_tag (h.symm.trans htag)]
  · funext condition
    rw [Candidate.meets?, Candidate.meets?, ← h]
    exact condition.matches?_congr_kind (fun tag hfield ↦ htag ⟨tag, hfield⟩) _ _ c

theorem Candidate.passes?_congr_name (hname : IsFieldName name) (hname' : IsFieldName name')
    (h : Field.ofName name = Field.ofName name') (c : Candidate) (values : Text) :
    c.passes? (name ++ '=' :: values) = c.passes? (name' ++ '=' :: values) := by
  have hrule : ∀ u : Text, ';' ∉ u →
      c.passes? (name ++ '=' :: u) = c.passes? (name' ++ '=' :: u) := by
    intro u hu
    rw [passes?_plain_assignment hname hu, passes?_plain_assignment hname' hu,
      c.meets?_congr_name h]
  by_cases hmem : ';' ∈ values
  · -- the name belongs to the first rule, and the other rules are the same
    obtain ⟨u, rest, rfl, hu⟩ := List.eq_append_cons_of_mem hmem
    have hfirst : ∀ name : Text,
        name ++ '=' :: (u ++ ';' :: rest) = (name ++ '=' :: u) ++ ';' :: rest := by simp
    rw [hfirst, hfirst, passes?_append_cons, passes?_append_cons, hrule u hu]
  · exact hrule values hmem

/-! ## Searching -/

theorem Filter.select_congr {f g : Filter}
    (h : ∀ task id, f.matches? task id base = g.matches? task id base) :
    f.select tasks base = g.select tasks base := by
  -- the numbers go on along the list, so the induction is over lists numbered from anywhere
  have hfrom : ∀ id, f.selectFrom base id tasks = g.selectFrom base id tasks := by
    induction tasks with
    | nil => exact fun _ ↦ rfl
    | cons task tasks ih =>
      intro id
      rw [selectFrom, selectFrom, h, ih]
  exact hfrom 1

namespace FilterBook

/-- What a search answers once it is settled which filter the text stands for. -/
def searchWith (style : PatternStyle) (tasks : List Task) (base : Date) (filter : Text) :
    Except SearchFault (List (Nat × Task)) :=
  ((Filter.ofText filter style).select tasks base).mapError .operand

/-- The tasks found are those that match, in order, and a search has an answer if every task has. -/
theorem searchWith_eq_ok_iff {found : List (Nat × Task)} :
    searchWith style tasks base query = .ok found ↔
      (∀ p ∈ numberedFrom 1 tasks, ∃ answer,
        (Filter.ofText query style).matches? p.2 p.1 base = .ok answer) ∧
      found = (numberedFrom 1 tasks).filter fun p ↦
        (Filter.ofText query style).matches? p.2 p.1 base = .ok true := by
  have hselect : searchWith style tasks base query = .ok found ↔
      (Filter.ofText query style).selectFrom base 1 tasks = .ok found := by
    -- faults are only renamed
    rw [searchWith, Filter.select]
    cases (Filter.ofText query style).selectFrom base 1 tasks <;> simp [Except.mapError]
  rw [hselect, Filter.selectFrom_eq_ok_iff]

theorem searchWith_congr_name (hname : IsFieldName name) (hname' : IsFieldName name')
    (h : Field.ofName name = Field.ofName name') (values : Text) :
    searchWith style tasks base (name ++ '=' :: values) =
      searchWith style tasks base (name' ++ '=' :: values) := by
  rw [searchWith, searchWith]
  refine congrArg _ (Filter.select_congr fun task id ↦ ?_)
  exact Candidate.passes?_congr_name hname hname' h ⟨task, id, base, style⟩ values

/-- A text that begins with an at sign stands for a saved filter, or for nothing. -/
theorem search_at (book : FilterBook) (style : PatternStyle) (tasks : List Task) (name : Text)
    (base : Date) : book.search style tasks ('@' :: name) base =
      match book.saved.get? name with
      | some saved => searchWith style tasks base saved
      | none => .error (.unknownFilter name) := by
  have hblank : Text.allBlank ('@' :: name) = false := rfl
  rw [search, hblank, expand]
  cases book.saved.get? name <;> rfl

theorem search_assignment (hat : name.head? ≠ some '@') (values : Text) :
    book.search style tasks (name ++ '=' :: values) base =
      searchWith style tasks base (name ++ '=' :: values) := by
  have hblank : Text.allBlank (name ++ '=' :: values) = false := by
    rw [Text.allBlank, List.all_eq_false]
    exact ⟨'=', by simp, by decide⟩
  have hexpand : book.expand (name ++ '=' :: values) = .ok (name ++ '=' :: values) := by
    cases name with
    | nil => rfl
    | cons c name =>
      rw [List.cons_append, expand.eq_def]
      split
      · next hcons => exact absurd (congrArg List.head? hcons) hat
      · rfl
  rw [search, hblank, hexpand]
  rfl

theorem search_of_passes (hat : name.head? ≠ some '@') {values : Text} {p : Nat × Task → Bool}
    (h : ∀ q : Nat × Task,
      Candidate.passes? ⟨q.2, q.1, base, style⟩ (name ++ '=' :: values) = .ok (p q)) :
    book.search style tasks (name ++ '=' :: values) base =
      .ok ((numberedFrom 1 tasks).filter p) := by
  refine (search_assignment hat values).trans (searchWith_eq_ok_iff.mpr ⟨?_, ?_⟩)
  · exact fun q _ ↦ ⟨p q, h q⟩
  · refine List.filter_congr fun q _ ↦ ?_
    have hq : (Filter.ofText (name ++ '=' :: values) style).matches? q.2 q.1 base = .ok (p q) := h q
    rw [hq, Bool.eq_iff_iff]
    simp

/-- **The names of the contexts.** A search for contexts by `ctx` is one by `context`, it finds the
tasks that match the filter under the name `@`, in order, provided that each of them can be held
against it, and it is the search with this filter if it has been saved. Written out in a search, the
filter under the name `@` is taken for the name of a saved filter. -/
theorem search_contexts (book : FilterBook) (style : PatternStyle) (tasks : List Task)
    (base : Date) (values : Text) :
    book.search style tasks ("context=".toList ++ values) base =
        book.search style tasks ("ctx=".toList ++ values) base ∧
      (∀ found, book.search style tasks ("ctx=".toList ++ values) base = .ok found ↔
        (∀ p ∈ numberedFrom 1 tasks, ∃ answer,
          (Filter.ofText ("@=".toList ++ values) style).matches? p.2 p.1 base = .ok answer) ∧
        found = (numberedFrom 1 tasks).filter fun p ↦
          (Filter.ofText ("@=".toList ++ values) style).matches? p.2 p.1 base = .ok true) ∧
      (∀ name, book.saved.get? name = some ("@=".toList ++ values) →
        book.search style tasks ('@' :: name) base =
          book.search style tasks ("ctx=".toList ++ values) base) ∧
      ((∀ entry ∈ book.saved, entry.1.head? ≠ some '=') →
        book.search style tasks ("@=".toList ++ values) base =
          .error (.unknownFilter ('=' :: values))) := by
  have hat : IsFieldName "@".toList := ⟨by decide, by decide, by decide⟩
  have hctx : IsFieldName "ctx".toList := ⟨by decide, by decide, by decide⟩
  have hcontext : IsFieldName "context".toList := ⟨by decide, by decide, by decide⟩
  have hctxHead : "ctx".toList.head? ≠ some '@' := by decide
  have hcontextHead : "context".toList.head? ≠ some '@' := by decide
  -- in meaning it is the search by the at sign, which cannot be written out
  have hsearch : book.search style tasks ("ctx=".toList ++ values) base =
      searchWith style tasks base ("@=".toList ++ values) :=
    (search_assignment hctxHead values).trans (searchWith_congr_name hctx hat (by decide) values)
  refine ⟨?_, ?_, ?_, ?_⟩
  · rw [hsearch]
    exact (search_assignment hcontextHead values).trans
      (searchWith_congr_name hcontext hat (by decide) values)
  · intro found
    rw [hsearch, searchWith_eq_ok_iff]
  · intro name hsaved
    rw [hsearch, search_at, hsaved]
  · intro hnames
    have hnone : book.saved.get? ('=' :: values) = none := by
      refine Dictionary.get?_eq_none fun entry hentry heq ↦ hnames entry hentry ?_
      rw [heq]
      rfl
    exact (search_at book style tasks ('=' :: values) base).trans (by rw [hnone])

theorem search_contexts_phone :
    let book : FilterBook := ⟨[("calls".toList, "@=phone".toList)]⟩
    let call : Task := Task.parse "call mom @phone".toList none
    let tasks : List Task := [call, Task.parse "pay rent".toList none]
    let base : Date := ⟨2020, 3, 15, by decide⟩
    book.search .wildcard tasks "ctx=phone".toList base = .ok [(1, call)] ∧
      [(1, call)] = ((numberedFrom 1 tasks).filter fun p ↦
        (Filter.ofText "@=phone".toList .wildcard).matches? p.2 p.1 base = .ok true) ∧
      book.search .wildcard tasks "@calls".toList base =
        book.search .wildcard tasks "ctx=phone".toList base ∧
      book.search .wildcard tasks "@=phone".toList base =
        .error (.unknownFilter "=phone".toList) := by
  intro book call tasks base
  obtain ⟨-, hfound, hsaved, hwritten⟩ :=
    search_contexts book .wildcard tasks base "phone".toList
  have hctx : book.search .wildcard tasks "ctx=phone".toList base = .ok [(1, call)] := by
    decide
  refine ⟨hctx, ((hfound _).mp hctx).2, hsaved "calls".toList (by decide), hwritten ?_⟩
  exact List.forall_mem_singleton.mpr (by decide)

/-- So a search by `@` is not always one by `ctx`, even if no saved filter could be meant. -/
theorem not_forall_search_at_eq : ¬ ∀ (book : FilterBook) (style : PatternStyle)
    (tasks : List Task) (base : Date) (values : Text) (found : List (Nat × Task)),
    (∀ entry ∈ book.saved, entry.1.head? ≠ some '=') →
    book.search style tasks ("ctx=".toList ++ values) base = .ok found →
    book.search style tasks ("@=".toList ++ values) base = .ok found := by
  intro h
  have hat := h .empty .wildcard [Task.parse "call mom @phone".toList none]
    ⟨2020, 3, 15, by decide⟩ "phone".toList [(1, Task.parse "call mom @phone".toList none)]
    (by simp [FilterBook.empty]) (by decide)
  cases hat

end FilterBook

end Agenda
