import Agenda.Text.Basic

/-!
# Dictionaries in order of insertion

A dictionary binds each key to one value and lists its keys in the order in which they were first
bound. Binding a key again changes its value and not its place.
-/

namespace Agenda

/-- Bindings of texts to texts. -/
abbrev Dictionary := List (Text × Text)

namespace Dictionary

/-- The value of a key. -/
def get? (d : Dictionary) (key : Text) : Option Text := d.lookup key

/-- Binds a key: in its old place, or at the end if it is new. -/
def set (key value : Text) : Dictionary → Dictionary
  | [] => [(key, value)]
  | (k, v) :: d => if k = key then (k, value) :: d else (k, v) :: set key value d

/-- Removes a key. -/
def erase (d : Dictionary) (key : Text) : Dictionary := d.filter fun (k, _) ↦ k != key

/-- The dictionary that a list of bindings builds, later bindings of a key winning. -/
def ofBindings (bindings : List (Text × Text)) : Dictionary :=
  bindings.foldl (fun d (key, value) ↦ set key value d) []

@[simp] theorem get?_nil (key : Text) : get? [] key = none := rfl

theorem get?_cons (k v key : Text) (d : Dictionary) :
    get? ((k, v) :: d) key = if key = k then some v else get? d key := by
  by_cases h : key = k
  · subst h; simp [get?]
  · have hk : (key == k) = false := by simpa using h
    simp [get?, List.lookup_cons, h, hk]

@[simp] theorem get?_set_self (d : Dictionary) (key value : Text) :
    get? (set key value d) key = some value := by
  induction d with
  | nil => simp [set, get?_cons]
  | cons b d ih =>
    obtain ⟨k, v⟩ := b
    by_cases h : k = key
    · simp [set, h, get?_cons]
    · simp [set, h, get?_cons, Ne.symm h, ih]

theorem get?_set_of_ne {key other : Text} (h : other ≠ key) (d : Dictionary) (value : Text) :
    get? (set key value d) other = get? d other := by
  induction d with
  | nil => simp [set, get?_cons, h]
  | cons b d ih =>
    obtain ⟨k, v⟩ := b
    by_cases hk : k = key
    · subst hk; simp [set, get?_cons, h]
    · simp [set, hk, get?_cons, ih]

end Dictionary

end Agenda
