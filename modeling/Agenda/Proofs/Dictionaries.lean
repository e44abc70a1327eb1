import Agenda.Dictionary
import Mathlib.Data.List.Induction
import Mathlib.Data.List.Nodup
import Mathlib.Data.List.Perm.Basic

/-!
# Laws of dictionaries

A dictionary built from bindings gives a key its last value, and has one entry for every key. Where
every key has one entry, a look-up finds the entry wherever it stands, so the order of the entries
does not matter for it (`lookup_eq_of_perm`). What a dictionary is beyond its look-ups is the order
of its keys (`eq_of_get?`), and that comes from the keys of the bindings alone.
-/

namespace Agenda

/-! ## Entries in any order -/

section

variable {α β : Type} [BEq α] [LawfulBEq α] {entries entries' : List (α × β)} {key : α} {value : β}

theorem lookup_eq_some_iff_mem (hkeys : (entries.map Prod.fst).Nodup) :
    entries.lookup key = some value ↔ (key, value) ∈ entries := by
  rw [List.lookup_eq_some_iff]
  constructor
  · rintro ⟨before, after, rfl, -⟩
    simp
  · intro hmem
    obtain ⟨before, after, rfl⟩ := List.append_of_mem hmem
    refine ⟨before, after, rfl, fun entry hentry ↦ ?_⟩
    rw [List.map_append, List.map_cons, List.nodup_append] at hkeys
    rw [bne_iff_ne]
    exact (hkeys.2.2 _ (List.mem_map_of_mem hentry) _ List.mem_cons_self).symm

theorem lookup_eq_of_perm (hkeys : (entries.map Prod.fst).Nodup) (h : entries'.Perm entries)
    (key : α) : entries'.lookup key = entries.lookup key := by
  have hkeys' : (entries'.map Prod.fst).Nodup := (h.map Prod.fst).nodup_iff.mpr hkeys
  refine Option.ext fun value ↦ ?_
  rw [lookup_eq_some_iff_mem hkeys', lookup_eq_some_iff_mem hkeys, h.mem_iff]

end

namespace Dictionary

variable {dict : Dictionary} {key : Text}

/-! ## Building -/

theorem ofBindings_append_singleton (bindings : List (Text × Text)) (binding : Text × Text) :
    ofBindings (bindings ++ [binding]) = set binding.1 binding.2 (ofBindings bindings) := by
  rw [ofBindings, List.foldl_append]
  rfl

theorem get?_ofBindings (bindings : List (Text × Text)) (key : Text) :
    get? (ofBindings bindings) key =
      (bindings.filterMap fun (k, v) ↦ if k = key then some v else none).getLast? := by
  induction bindings using List.reverseRecOn with
  | nil => rfl
  | append_singleton bindings binding ih =>
    obtain ⟨k, v⟩ := binding
    rw [ofBindings_append_singleton, List.filterMap_append]
    by_cases hk : k = key
    · subst hk
      rw [get?_set_self]
      simp
    · rw [get?_set_of_ne (Ne.symm hk), ih]
      simp [hk]

theorem set_of_not_mem (h : key ∉ dict.map Prod.fst) (value : Text) :
    set key value dict = dict ++ [(key, value)] := by
  induction dict with
  | nil => rfl
  | cons binding dict ih =>
    obtain ⟨hk, hrest⟩ := not_or.mp (mt List.mem_cons.mpr h)
    rw [set, if_neg (Ne.symm hk), ih hrest, List.cons_append]

/-- Bindings in which every key has one value are a dictionary as they are. -/
theorem ofBindings_of_nodup {bindings : List (Text × Text)} (h : (bindings.map Prod.fst).Nodup) :
    ofBindings bindings = bindings := by
  induction bindings using List.reverseRecOn with
  | nil => rfl
  | append_singleton bindings binding ih =>
    rw [List.map_append, List.nodup_append] at h
    obtain ⟨hbindings, -, hnew⟩ := h
    rw [ofBindings_append_singleton, ih hbindings]
    refine set_of_not_mem (fun hmem ↦ ?_) binding.2
    exact hnew _ hmem _ (List.mem_singleton_self _) rfl

/-! ## Keys -/

theorem get?_eq_none (h : ∀ entry ∈ dict, entry.1 ≠ key) : get? dict key = none :=
  List.lookup_eq_none_iff.mpr fun entry hentry ↦ bne_iff_ne.mpr (h entry hentry).symm

theorem get?_of_not_mem (h : key ∉ dict.map Prod.fst) : get? dict key = none := by
  refine get?_eq_none fun entry hentry hkey ↦ h ?_
  rw [← hkey]
  exact List.mem_map_of_mem hentry

theorem map_fst_set (key value : Text) (dict : Dictionary) : (set key value dict).map Prod.fst =
    if key ∈ dict.map Prod.fst then dict.map Prod.fst else dict.map Prod.fst ++ [key] := by
  induction dict with
  | nil => rfl
  | cons binding dict ih =>
    obtain ⟨k, v⟩ := binding
    rw [set]
    by_cases hk : k = key
    · simp [hk]
    · simp only [if_neg hk, List.map_cons, ih, List.mem_cons, Ne.symm hk, false_or]
      split
      · rfl
      · rfl

theorem nodup_set (h : (dict.map Prod.fst).Nodup) (key value : Text) :
    ((set key value dict).map Prod.fst).Nodup := by
  rw [map_fst_set]
  split
  · exact h
  · next hnew =>
    refine List.nodup_append.mpr ⟨h, List.pairwise_singleton _ _, fun key hkey key' hkey' ↦ ?_⟩
    rw [List.mem_singleton.mp hkey']
    rintro rfl
    exact hnew hkey

theorem nodup_ofBindings (bindings : List (Text × Text)) :
    ((ofBindings bindings).map Prod.fst).Nodup := by
  induction bindings using List.reverseRecOn with
  | nil => exact List.nodup_nil
  | append_singleton bindings binding ih =>
    rw [ofBindings_append_singleton]
    exact nodup_set ih _ _

/-- The keys of a dictionary come from the keys of the bindings alone. -/
theorem map_fst_ofBindings (bindings : List (Text × Text)) :
    (ofBindings bindings).map Prod.fst = (bindings.map Prod.fst).foldl
      (fun keys key ↦ if key ∈ keys then keys else keys ++ [key]) [] := by
  induction bindings using List.reverseRecOn with
  | nil => rfl
  | append_singleton bindings binding ih =>
    rw [ofBindings_append_singleton, map_fst_set, ih, List.map_append, List.foldl_append]
    rfl

/-- A dictionary is told by its keys in order and by what is found for them. -/
theorem eq_of_get? {dict' : Dictionary} (hnodup : (dict.map Prod.fst).Nodup)
    (hkeys : dict.map Prod.fst = dict'.map Prod.fst)
    (hget : ∀ key, get? dict key = get? dict' key) : dict = dict' := by
  induction dict generalizing dict' with
  | nil => exact (List.map_eq_nil_iff.mp hkeys.symm).symm
  | cons binding dict ih =>
    obtain ⟨k, v⟩ := binding
    have hne : dict' ≠ [] := by
      rintro rfl
      cases hkeys
    obtain ⟨⟨k', v'⟩, dict', rfl⟩ := List.exists_cons_of_ne_nil hne
    obtain ⟨rfl, htail⟩ := List.cons.inj hkeys
    obtain ⟨hk, hnodup⟩ := List.nodup_cons.mp hnodup
    have hvalue : v = v' := by
      simpa [get?_cons] using hget k
    have hrest : ∀ key, get? dict key = get? dict' key := by
      intro key
      by_cases hkey : key = k
      · rw [hkey, get?_of_not_mem hk, get?_of_not_mem (htail ▸ hk)]
      · simpa [get?_cons, hkey] using hget key
    rw [hvalue, ih hnodup htail hrest]

/-! ## Removing -/

theorem get?_erase (dict : Dictionary) (key name : Text) :
    get? (erase dict key) name = if name = key then none else get? dict name := by
  induction dict with
  | nil => simp [erase]
  | cons binding dict ih =>
    obtain ⟨k, v⟩ := binding
    rw [erase] at ih ⊢
    by_cases hk : k = key
    · rw [List.filter_cons_of_neg (by simp [hk]), ih, get?_cons]
      split
      · rfl
      · next hname => rw [if_neg (hk ▸ hname)]
    · rw [List.filter_cons_of_pos (by simp [hk]), get?_cons, get?_cons, ih]
      by_cases hname : name = k
      · simp [hname, hk]
      · simp [hname]

theorem nodup_erase (h : (dict.map Prod.fst).Nodup) (key : Text) :
    ((erase dict key).map Prod.fst).Nodup :=
  h.sublist (List.filter_sublist.map Prod.fst)

end Dictionary

end Agenda
