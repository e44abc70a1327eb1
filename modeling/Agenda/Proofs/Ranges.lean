import Agenda.Proofs.Fields

/-!
# Ranges

A range has two ends. An end that is empty, or that asks for a missing value, is *open*; any other
is *given* and sets a bound. Numbers, priorities, days and tags are each compared in a way of their
own, but what becomes of the ends is one rule for all of them (`betweenEnds`): two ends that ask for
a missing value match no field that is there, and else every given end has to be kept. So a range
with two given ends is the meeting of two ranges with one (`Candidate.matches_range_iff`).

## Where the fields part

The rule says nothing of two open ends, which bound nothing and should match whatever is there. Here
the fields differ. The number of a task is held against the upper end, which it keeps to if that end
is empty; a priority matches only if both ends are empty; a day never matches; and the value of a
tag is compared with the text of the upper end as if it were given (`Candidate.MatchesOpen`).

A missing field matches if one of the ends asks for it. The priority is the exception again: it is
not matched if the lower end is empty.
-/

namespace Agenda

/-- The fields whose values have an order, so that ranges make sense for them. -/
def Field.IsOrdered : Field → Prop
  | .id | .priority | .created | .completed | .tag _ => True
  | _ => False

/-- The first value keeps to the second one as a bound. -/
def Bound.Holds {α : Type} (le : α → α → Prop) : Bound → α → α → Prop
  | .atMost, a, b => le a b
  | .atLeast, a, b => le b a

/-- A day keeps to the day that an operand stands for. -/
def DayKeeps (base : Date) (bound : Bound) (d : Date) (operand : Text) : Prop :=
  isAny operand = true ∨ ∃ other, readDate? base operand = some other ∧
    bound.Holds (fun a b ↦ a.le b = true) d other

/-- The candidate has the field, and its value keeps to an operand as a bound. -/
def Candidate.Keeps (c : Candidate) (name : Text) (bound : Bound) (operand : Text) : Prop :=
  match Field.ofName name with
  | .id => isAny operand = true ∨
      Text.isNumber operand = true ∧ bound.Holds (· ≤ ·) c.id (Text.toNat operand)
  | .priority => ∃ actual wanted, c.task.priority = some actual ∧
      Priority.ofText? operand = .ok (some wanted) ∧ bound.Holds (· ≤ ·) actual wanted
  | .created => ∃ d, c.task.createDate = some d ∧ DayKeeps c.base bound d operand
  | .completed => ∃ d, c.task.finishDate = some d ∧ DayKeeps c.base bound d operand
  | .tag tag => ∃ value, c.task.tags.get? tag = some value ∧
      valuesCompare (.ofTagValue name (c.task.tags.get? name)) c.base bound value operand = true
  | _ => False

/-- What a range with two open ends, not both of which ask for a missing value, takes for a match
with a field that is there. -/
def Candidate.MatchesOpen (c : Candidate) (name low high : Text) : Prop :=
  match Field.ofName name with
  | .id => high = []
  | .priority => low = [] ∧ high = []
  | .tag tag => ∃ value, c.task.tags.get? tag = some value ∧
      valuesCompare (.ofTagValue name (c.task.tags.get? name)) c.base .atMost value high = true
  | _ => False

variable {low high operand name : Text} {bound : Bound} {c : Candidate}

/-! ## The two ends -/

/-- What a range asks of a value, given the test for a lower and the test for an upper bound. -/
def betweenEnds (low high : Text) (atLeast atMost : Text → Bool) : Bool :=
  if isNone low && isNone high then false
  else if isOpen low then atMost high
  else if isOpen high then atLeast low
  else atLeast low && atMost high

section Ends

variable {atLeast atMost : Text → Bool}

theorem isOpen_of_isNone (h : isNone operand = true) : isOpen operand = true := by
  rw [isOpen, h, Bool.true_or]

theorem isOpen_iff :
    isOpen operand = true ↔ operand = "none".toList ∨ operand = ['-'] ∨ operand = [] := by
  rw [isOpen, isNone, Bool.or_eq_true, Bool.or_eq_true, beq_iff_eq, beq_iff_eq, List.isEmpty_iff,
    or_assoc]

theorem isAny_of_isOpen (h : isOpen operand = true) : isAny operand = false := by
  rcases isOpen_iff.mp h with rfl | rfl | rfl
  · rfl
  · rfl
  · rfl

theorem isEmpty_of_isNone (h : isNone operand = true) : operand.isEmpty = false := by
  cases operand with
  | nil => cases h
  | cons c s => rfl

theorem betweenEnds_of_isNone (hlow : isNone low = true) (hhigh : isNone high = true) :
    betweenEnds low high atLeast atMost = false := by
  rw [betweenEnds, hlow, hhigh]
  rfl

theorem betweenEnds_of_isOpen (hlow : isOpen low = true)
    (hnone : ¬ (isNone low = true ∧ isNone high = true)) :
    betweenEnds low high atLeast atMost = atMost high := by
  have hne : (isNone low && isNone high) = false := by
    rw [← Bool.not_eq_true, Bool.and_eq_true]
    exact hnone
  rw [betweenEnds, hne, hlow]
  rfl

theorem betweenEnds_iff (h : ¬ (isOpen low = true ∧ isOpen high = true)) :
    betweenEnds low high atLeast atMost = true ↔
      (isOpen low = true ∨ atLeast low = true) ∧ (isOpen high = true ∨ atMost high = true) := by
  by_cases hlow : isOpen low = true
  · have hhigh : ¬ isOpen high = true := fun hhigh ↦ h ⟨hlow, hhigh⟩
    have hnone : ¬ (isNone low = true ∧ isNone high = true) :=
      fun hnone ↦ hhigh (isOpen_of_isNone hnone.2)
    rw [betweenEnds_of_isOpen hlow hnone]
    simp [hlow, hhigh]
  · have hnone : isNone low = false := by
      rw [← Bool.not_eq_true]
      exact fun hnone ↦ hlow (isOpen_of_isNone hnone)
    rw [Bool.not_eq_true] at hlow
    rw [betweenEnds, hnone, hlow]
    by_cases hhigh : isOpen high = true
    · simp [hhigh]
    · simp [hhigh]

end Ends

/-! ## Bounds -/

theorem Range.idWithin_iff (hoperand : isOpen operand = false) {id : Nat} :
    Range.idWithin bound id operand = true ↔ isAny operand = true ∨
      Text.isNumber operand = true ∧ bound.Holds (· ≤ ·) id (Text.toNat operand) := by
  rw [isOpen, Bool.or_eq_false_iff] at hoperand
  obtain ⟨hnone, hempty⟩ := hoperand
  cases bound with
  | atMost => simp [Range.idWithin, hnone, hempty, Bound.Holds]
  | atLeast => simp [Range.idWithin, hnone, hempty, Bound.Holds]

theorem Range.dateWithin_iff (hoperand : isOpen operand = false) {base d : Date} :
    Range.dateWithin bound base d operand = true ↔ DayKeeps base bound d operand := by
  rw [Range.dateWithin, DayKeeps, hoperand]
  cases readDate? base operand with
  | none => simp
  | some other => cases bound <;> simp [Bound.Holds]

/-- Does a priority keep to the letter of an operand? -/
def priorityWithin (bound : Bound) (actual : Priority) (operand : Text) : Bool :=
  match Priority.ofText? operand with
  | .ok (some wanted) =>
    match bound with
    | .atMost => actual ≤ wanted
    | .atLeast => wanted ≤ actual
  | _ => false

theorem priorityWithin_iff {actual : Priority} : priorityWithin bound actual operand = true ↔
    ∃ wanted, Priority.ofText? operand = .ok (some wanted) ∧
      bound.Holds (· ≤ ·) actual wanted := by
  unfold priorityWithin
  rcases Priority.ofText? operand with fault | _ | wanted
  · simp
  · simp
  · cases bound <;> simp [Bound.Holds]

theorem ofText?_of_isOpen (h : isOpen operand = true) : Priority.ofText? operand = .ok none := by
  rcases isOpen_iff.mp h with rfl | rfl | rfl
  · rfl
  · rfl
  · rfl

/-! ## Fields that are there -/

theorem Range.matchesId_eq (low high : Text) (id : Nat) : Range.matchesId low high id =
    betweenEnds low high (Range.idWithin .atLeast id) (Range.idWithin .atMost id) := rfl

theorem Range.matchesDate_some (low high : Text) (base d : Date) :
    Range.matchesDate low high base (some d) =
      betweenEnds low high (Range.dateWithin .atLeast base d)
        (Range.dateWithin .atMost base d) := by
  rw [Range.matchesDate, betweenEnds, Bool.and_comm (Range.dateWithin .atMost base d high)]

/-- The text `none` as a value is the one that a range takes for a missing one. -/
theorem Range.matchesTag_some {value : Text} (hvalue : value ≠ "none".toList) (low high : Text)
    (kind : ValueKind) (base : Date) : Range.matchesTag low high kind base (some value) =
      betweenEnds low high (valuesCompare kind base .atLeast value)
        (valuesCompare kind base .atMost value) := by
  have hne : (value == "none".toList) = false := beq_false_of_ne hvalue
  rw [betweenEnds, Bool.and_comm (valuesCompare kind base .atLeast value low)]
  simp only [Range.matchesTag, hne, Bool.and_false, Bool.false_eq_true, if_false]

theorem Range.matchesPriority_some {actual : Priority} :
    Range.matchesPriority low high (some actual) = .ok true ↔
      (low = [] ∧ high = []) ∨ betweenEnds low high (priorityWithin .atLeast actual)
        (priorityWithin .atMost actual) = true := by
  by_cases hempty : low = [] ∧ high = []
  · obtain ⟨rfl, rfl⟩ := hempty
    exact iff_of_true rfl (Or.inl ⟨rfl, rfl⟩)
  · have hends : (low.isEmpty && high.isEmpty) = false := by
      simpa [← Bool.not_eq_true, List.isEmpty_iff] using hempty
    rw [or_iff_right hempty, Range.matchesPriority, betweenEnds, hends]
    by_cases hnone : (isNone low && isNone high) = true
    · simp [hnone]
    by_cases hlow : isOpen low = true
    · -- only the upper end is read
      simp only [hnone, hlow, Bool.false_eq_true, if_false, if_true]
      rw [priorityWithin]
      rcases Priority.ofText? high with fault | _ | upper <;> simp
    by_cases hhigh : isOpen high = true
    · simp only [hnone, hlow, hhigh, Bool.false_eq_true, if_false, if_true]
      rw [priorityWithin]
      rcases Priority.ofText? low with fault | _ | lower <;> simp
    · simp only [hnone, hlow, hhigh, Bool.false_eq_true, if_false]
      rw [priorityWithin, priorityWithin]
      rcases Priority.ofText? low with fault | _ | lower <;>
        rcases Priority.ofText? high with fault' | _ | upper <;> simp

/-! ## Fields that are missing -/

/-- A missing priority is matched if one end asks for it and the lower end is not empty, unless
there is a letter that cannot be read. -/
theorem Range.matchesPriority_none : Range.matchesPriority low high none = .ok true ↔
    (isNone low = true ∨ isNone high = true) ∧ low ≠ [] ∧
      (Condition.range low high).wideLetter? = none := by
  have hfails := failure?_matchesPriority_range low high none
  rw [← Condition.wideLetter?] at hfails
  cases hwide : (Condition.range low high).wideLetter? with
  | some letter =>
    rw [hwide] at hfails
    rw [failure?_eq_some_iff.mp hfails]
    simp
  | none =>
    obtain ⟨hlow, hhigh⟩ := Option.or_eq_none_iff.mp hwide
    obtain ⟨lower, hlower⟩ := exists_ofText?_of_wideLetter? hlow
    obtain ⟨upper, hupper⟩ := exists_ofText?_of_wideLetter? hhigh
    -- without a fault, what the letters are does not matter
    have hmissing : Range.matchesPriority low high none =
        .ok ((isNone low || isNone high) && !low.isEmpty) := by
      rw [Range.matchesPriority, hlower, hupper]
      by_cases hasks : isNone low = true
      · simp [isOpen, hasks, isEmpty_of_isNone hasks]
      by_cases hempty : low.isEmpty = true
      · simp [isOpen, hasks, hempty]
      by_cases hasks' : isNone high = true
      · simp [isOpen, hasks, hempty, hasks', isEmpty_of_isNone hasks']
      · simp [isOpen, hasks, hempty, hasks']
    rw [hmissing]
    simp

/-! ## All fields -/

/-- The test that a range makes of a field at one of its ends. -/
def Candidate.keepsEnd (c : Candidate) (name : Text) (bound : Bound) (operand : Text) : Bool :=
  match Field.ofName name with
  | .id => Range.idWithin bound c.id operand
  | .priority => c.task.priority.any (priorityWithin bound · operand)
  | .created => c.task.createDate.any (Range.dateWithin bound c.base · operand)
  | .completed => c.task.finishDate.any (Range.dateWithin bound c.base · operand)
  | .tag tag => (c.task.tags.get? tag).any
      (valuesCompare (.ofTagValue name (c.task.tags.get? name)) c.base bound · operand)
  | _ => false

/-- At a given end, the test is whether the bound is kept. -/
theorem Candidate.keepsEnd_iff (hoperand : isOpen operand = false) :
    c.keepsEnd name bound operand = true ↔ c.Keeps name bound operand := by
  rw [keepsEnd, Keeps]
  cases Field.ofName name with
  | id => exact Range.idWithin_iff hoperand
  | priority =>
    simp only [Option.any_eq_true, priorityWithin_iff, exists_and_left]
  | created | completed =>
    simp only [Option.any_eq_true, Range.dateWithin_iff hoperand]
  | tag tag => exact Option.any_eq_true _ _
  | finished | subject | contexts | projects | hashtags => simp

/-- A range matches a field that is there as its ends say, or if it is the range of all
priorities. -/
theorem Candidate.matches_range_of_has (hfield : (Field.ofName name).IsOrdered)
    (hvalue : ∀ tag, Field.ofName name = .tag tag → c.task.tags.get? tag ≠ some "none".toList)
    (h : c.Has (.ofName name)) : c.Matches name (.range low high) ↔
      (Field.ofName name = .priority ∧ low = [] ∧ high = []) ∨
        betweenEnds low high (c.keepsEnd name .atLeast) (c.keepsEnd name .atMost) = true := by
  unfold Candidate.keepsEnd
  rw [Matches, meets?]
  cases hname : Field.ofName name with
  | id => simp [Condition.matches?, Range.matchesId_eq]
  | priority =>
    rw [hname] at h
    obtain ⟨actual, hactual⟩ := Option.isSome_iff_exists.mp h
    simp [Condition.matches?, hactual, mapError_eq_ok_iff, Range.matchesPriority_some]
  | created | completed =>
    rw [hname] at h
    obtain ⟨d, hd⟩ := Option.isSome_iff_exists.mp h
    simp [Condition.matches?, hd, Range.matchesDate_some]
  | tag tag =>
    rw [hname] at h
    obtain ⟨value, hget⟩ := Option.isSome_iff_exists.mp h
    have hne : value ≠ "none".toList := fun heq ↦ hvalue tag hname (heq ▸ hget)
    simp [Condition.matches?, hget, Range.matchesTag_some hne]
  | finished | subject | contexts | projects | hashtags =>
    rw [hname] at hfield
    exact hfield.elim

theorem Candidate.matches_range_of_not_has (hfield : (Field.ofName name).IsOrdered)
    (h : ¬ c.Has (.ofName name)) : c.Matches name (.range low high) ↔
      (isNone low = true ∨ isNone high = true) ∧
        (Field.ofName name = .priority →
          low ≠ [] ∧ (Condition.range low high).wideLetter? = none) := by
  rw [Matches, meets?]
  cases hname : Field.ofName name with
  | id =>
    rw [hname] at h
    exact absurd trivial h
  | priority =>
    rw [hname] at h
    have hactual : c.task.priority = none := Option.not_isSome_iff_eq_none.mp h
    simp [Condition.matches?, hactual, mapError_eq_ok_iff, Range.matchesPriority_none]
  | created | completed =>
    rw [hname] at h
    rw [Condition.matches?, Option.not_isSome_iff_eq_none.mp h]
    simp [Range.matchesDate]
  | tag tag =>
    rw [hname] at h
    have hget : c.task.tags.get? tag = none := Option.not_isSome_iff_eq_none.mp h
    simp [Condition.matches?, hget, Range.matchesTag]
  | finished | subject | contexts | projects | hashtags =>
    rw [hname] at hfield
    exact hfield.elim

theorem Candidate.matches_range_of_isOpen (hfield : (Field.ofName name).IsOrdered)
    (hvalue : ∀ tag, Field.ofName name = .tag tag → c.task.tags.get? tag ≠ some "none".toList)
    (h : c.Has (.ofName name)) (hlow : isOpen low = true) (hhigh : isOpen high = true)
    (hnone : ¬ (isNone low = true ∧ isNone high = true)) :
    c.Matches name (.range low high) ↔ c.MatchesOpen name low high := by
  rw [matches_range_of_has hfield hvalue h, betweenEnds_of_isOpen hlow hnone, keepsEnd, MatchesOpen]
  have hany : isAny high = false := isAny_of_isOpen hhigh
  cases hname : Field.ofName name with
  | id =>
    by_cases hasks : isNone high = true
    · simp [Range.idWithin, hany, hasks]
    · rw [isOpen, Bool.or_eq_true, or_iff_right hasks] at hhigh
      simp [Range.idWithin, List.isEmpty_iff.mp hhigh]
  | priority =>
    -- an open end is no letter, so only the range of all priorities is left
    have hletter : ∀ actual, priorityWithin .atMost actual high = false := by
      intro actual
      rw [priorityWithin, ofText?_of_isOpen hhigh]
    simp [hletter]
  | created | completed =>
    have hday : ∀ d, Range.dateWithin .atMost c.base d high = false := by
      intro d
      rw [Range.dateWithin, hany, hhigh]
      rfl
    simp [hday]
  | tag tag => simp [Option.any_eq_true]
  | finished | subject | contexts | projects | hashtags =>
    rw [hname] at hfield
    exact hfield.elim

theorem Candidate.matches_range_of_given (hfield : (Field.ofName name).IsOrdered)
    (hvalue : ∀ tag, Field.ofName name = .tag tag → c.task.tags.get? tag ≠ some "none".toList)
    (h : c.Has (.ofName name)) (hends : ¬ (isOpen low = true ∧ isOpen high = true)) :
    c.Matches name (.range low high) ↔
      (isOpen low = true ∨ c.Keeps name .atLeast low) ∧
        (isOpen high = true ∨ c.Keeps name .atMost high) := by
  have hall : ¬ (Field.ofName name = .priority ∧ low = [] ∧ high = []) := by
    rintro ⟨-, rfl, rfl⟩
    exact hends ⟨rfl, rfl⟩
  have hkeeps : ∀ bound operand, (isOpen operand = true ∨ c.keepsEnd name bound operand = true) ↔
      (isOpen operand = true ∨ c.Keeps name bound operand) := by
    intro bound operand
    by_cases hoperand : isOpen operand = true
    · simp [hoperand]
    · rw [keepsEnd_iff (Bool.not_eq_true _ ▸ hoperand)]
  rw [matches_range_of_has hfield hvalue h, or_iff_right hall, betweenEnds_iff hends, hkeeps,
    hkeeps]

/-- Two ends that ask for a missing value match no field that is there. -/
theorem Candidate.not_matches_range_of_isNone (hfield : (Field.ofName name).IsOrdered)
    (hvalue : ∀ tag, Field.ofName name = .tag tag → c.task.tags.get? tag ≠ some "none".toList)
    (h : c.Has (.ofName name)) (hlow : isNone low = true) (hhigh : isNone high = true) :
    ¬ c.Matches name (.range low high) := by
  rw [matches_range_of_has hfield hvalue h, betweenEnds_of_isNone hlow hhigh]
  rintro (⟨-, rfl, -⟩ | hfalse)
  · cases hlow
  · cases hfalse

/-- **Ranges.** What a range matches, for every field with an order and all pairs of ends. A missing
field is matched if an end asks for it; a field that is there has to keep to the given ends, so that
two given ends are two ranges at once, and is not matched if both ends ask for a missing value. Two
open ends are a case of their own, and so is the missing priority. -/
theorem Candidate.matches_range_iff (c : Candidate) (name low high : Text)
    (hfield : (Field.ofName name).IsOrdered)
    (hvalue : ∀ tag, Field.ofName name = .tag tag → c.task.tags.get? tag ≠ some "none".toList) :
    (¬ c.Has (.ofName name) → (c.Matches name (.range low high) ↔
      (isNone low = true ∨ isNone high = true) ∧
        (Field.ofName name = .priority →
          low ≠ [] ∧ (Condition.range low high).wideLetter? = none))) ∧
    (c.Has (.ofName name) →
      (isNone low = true → isNone high = true → ¬ c.Matches name (.range low high)) ∧
      (¬ (isOpen low = true ∧ isOpen high = true) → (c.Matches name (.range low high) ↔
        (isOpen low = true ∨ c.Keeps name .atLeast low) ∧
          (isOpen high = true ∨ c.Keeps name .atMost high))) ∧
      (isOpen low = false → isOpen high = false → (c.Matches name (.range low high) ↔
        c.Matches name (.range low []) ∧ c.Matches name (.range [] high))) ∧
      (isOpen low = true → isOpen high = true → ¬ (isNone low = true ∧ isNone high = true) →
        (c.Matches name (.range low high) ↔ c.MatchesOpen name low high))) := by
  refine ⟨fun h ↦ matches_range_of_not_has hfield h, fun h ↦ ⟨?_, ?_, ?_, ?_⟩⟩
  · exact not_matches_range_of_isNone hfield hvalue h
  · exact matches_range_of_given hfield hvalue h
  · intro hlow hhigh
    have hempty : isOpen [] = true := rfl
    rw [matches_range_of_given hfield hvalue h (by simp [hlow]),
      matches_range_of_given hfield hvalue h (by simp [hlow]),
      matches_range_of_given hfield hvalue h (by simp [hhigh])]
    simp [hlow, hhigh, hempty]
  · exact matches_range_of_isOpen hfield hvalue h

theorem Candidate.matches_range_due :
    Candidate.Matches ⟨Task.parse "(B) pay rent due:2020-03-20".toList none, 1,
        ⟨2020, 3, 15, by decide⟩, .wildcard⟩ "due".toList (.range "fri".toList "1m".toList) ↔
      Candidate.Matches ⟨Task.parse "(B) pay rent due:2020-03-20".toList none, 1,
          ⟨2020, 3, 15, by decide⟩, .wildcard⟩ "due".toList (.range "fri".toList []) ∧
        Candidate.Matches ⟨Task.parse "(B) pay rent due:2020-03-20".toList none, 1,
          ⟨2020, 3, 15, by decide⟩, .wildcard⟩ "due".toList (.range [] "1m".toList) := by
  have hname : Field.ofName "due".toList = .tag "due".toList := by decide
  have hget : (Task.parse "(B) pay rent due:2020-03-20".toList none).tags.get? "due".toList =
      some "2020-03-20".toList := by decide
  refine ((Candidate.matches_range_iff _ _ _ _ ?_ ?_).2 ?_).2.2.1 rfl rfl
  · rw [hname]
    trivial
  · intro tag htag
    rw [hname, Field.tag.injEq] at htag
    rw [← htag, hget]
    decide
  · rw [hname, Candidate.Has, hget]
    rfl

/-- A range with two open ends does not match everything that is there: it matches no day. -/
theorem Candidate.not_forall_matches_open :
    ¬ ∀ (c : Candidate) (name low high : Text), (Field.ofName name).IsOrdered →
      (∀ tag, Field.ofName name = .tag tag → c.task.tags.get? tag ≠ some "none".toList) →
      c.Has (.ofName name) → isOpen low = true → isOpen high = true →
      ¬ (isNone low = true ∧ isNone high = true) → c.Matches name (.range low high) := by
  intro h
  have hname : Field.ofName "created".toList = .created := by decide
  have hdate : (Task.parse "2020-01-05 pay rent".toList none).createDate.isSome = true := by
    decide
  let c : Candidate :=
    ⟨Task.parse "2020-01-05 pay rent".toList none, 1, ⟨2020, 3, 15, by decide⟩, .wildcard⟩
  have hfield : (Field.ofName "created".toList).IsOrdered := by
    rw [hname]
    trivial
  have hvalue : ∀ tag, Field.ofName "created".toList = .tag tag →
      c.task.tags.get? tag ≠ some "none".toList := by
    intro tag htag
    rw [hname] at htag
    cases htag
  have hhas : c.Has (.ofName "created".toList) := by
    rw [hname]
    exact hdate
  have hnone : ¬ (isNone [] = true ∧ isNone [] = true) := by decide
  have hmatches := h c "created".toList [] [] hfield hvalue hhas rfl rfl hnone
  rw [Candidate.matches_range_of_isOpen hfield hvalue hhas rfl rfl hnone, Candidate.MatchesOpen,
    hname] at hmatches
  exact hmatches

end Agenda
