import Agenda.Proofs.Negation
import Agenda.Proofs.Words

/-!
# Filters as Boolean combinations

The text of a filter is cut three times: at its semicolons into rules, a rule at its first equality
sign into a field and conditions, and these at their commas. What such a text asks is put together
in the same way from what its parts ask. A semicolon is a conjunction, a comma a disjunction and a
mark before the field a negation, whatever the parts are; empty parts ask nothing.

## Order and faults

Conditions and rules are tried from left to right and no further than needed, and one of them may
fail. So the laws are equations between computations, with the conjunction `<&&>` and the
disjunction `<||>` that run their second argument only if it matters.

No such equation holds for texts whose parts are rearranged: one of them may come to a condition
that fails before the condition that decides, the other not. What does hold is that they never give
different answers (`Agrees`), and that takes nothing but the sets of their parts.
-/

namespace Agenda

variable {s t tag u v : Text} {sep mark : Char} {c : Candidate}

/-! ## The parts of a text -/

namespace Text

/-- The pieces of a text between separators, empty ones left out. -/
def pieces (sep : Char) (s : Text) : List Text := (splitOn sep s).filter (!·.isEmpty)

theorem pieces_append_cons (sep : Char) (s t : Text) :
    pieces sep (s ++ sep :: t) = pieces sep s ++ pieces sep t := by
  rw [pieces, splitOn_append_cons, List.filter_append]
  rfl

theorem pieces_of_not_mem (hne : s ≠ []) (h : sep ∉ s) : pieces sep s = [s] := by
  rw [pieces, splitOn_of_not_mem h]
  exact List.filter_cons_of_pos (by simpa using hne)

end Text

theorem FilterRule.ofText_of_not_mem (h : '=' ∉ s) : ofText s = ⟨s, [.one "any".toList]⟩ := by
  rw [ofText, Text.cut?_singleton_eq_none_iff.mpr h]

theorem FilterRule.ofText_append_cons (htag : '=' ∉ tag) (values : Text) :
    ofText (tag ++ '=' :: values) = ⟨tag, (Text.pieces ',' values).map Condition.ofText⟩ := by
  rw [ofText, Text.cut?_singleton_eq_some_iff.mpr ⟨rfl, htag⟩]
  rfl

/-- Does a candidate pass the filter that a text states? -/
def Candidate.passes? (c : Candidate) (s : Text) : Except OperandFault Bool :=
  (Filter.ofText s c.style).matches? c.task c.id c.base

theorem Candidate.passes?_eq (c : Candidate) (s : Text) :
    c.passes? s = allOf (·.matches? c) ((Text.pieces ';' s).map FilterRule.ofText) := rfl

/-! ## Tests in order -/

section Tests

variable {α : Type} {test : α → Except OperandFault Bool} {as bs : List α}

theorem anyOf_append (test : α → Except OperandFault Bool) (as bs : List α) :
    anyOf test (as ++ bs) = (anyOf test as <||> anyOf test bs) := by
  induction as with
  | nil => rfl
  | cons a as ih =>
    rw [List.cons_append, anyOf, anyOf, ih]
    rcases test a with fault | _ | _ <;> rfl

theorem allOf_append (test : α → Except OperandFault Bool) (as bs : List α) :
    allOf test (as ++ bs) = (allOf test as <&&> allOf test bs) := by
  induction as with
  | nil => rfl
  | cons a as ih =>
    rw [List.cons_append, allOf, allOf, ih]
    rcases test a with fault | _ | _ <;> rfl

theorem anyOf_singleton (test : α → Except OperandFault Bool) (a : α) :
    anyOf test [a] = test a := by
  rw [anyOf]
  rcases test a with fault | _ | _ <;> rfl

theorem allOf_singleton (test : α → Except OperandFault Bool) (a : α) :
    allOf test [a] = test a := by
  rw [allOf]
  rcases test a with fault | _ | _ <;> rfl

theorem anyOf_eq_false_iff : anyOf test as = .ok false ↔ ∀ a ∈ as, test a = .ok false := by
  induction as with
  | nil => simp [anyOf]
  | cons a as ih =>
    rw [anyOf, List.forall_mem_cons, ← ih]
    rcases test a with fault | _ | _ <;> simp

theorem exists_of_anyOf_eq_true (h : anyOf test as = .ok true) : ∃ a ∈ as, test a = .ok true := by
  induction as with
  | nil => cases h
  | cons a as ih =>
    rw [anyOf] at h
    split at h
    · obtain ⟨b, hb, htest⟩ := ih h
      exact ⟨b, List.mem_cons_of_mem a hb, htest⟩
    · exact ⟨a, List.mem_cons_self, h⟩

theorem allOf_eq_true_iff : allOf test as = .ok true ↔ ∀ a ∈ as, test a = .ok true := by
  induction as with
  | nil => simp [allOf]
  | cons a as ih =>
    rw [allOf, List.forall_mem_cons, ← ih]
    rcases test a with fault | _ | _ <;> simp

theorem exists_of_allOf_eq_false (h : allOf test as = .ok false) :
    ∃ a ∈ as, test a = .ok false := by
  induction as with
  | nil => cases h
  | cons a as ih =>
    rw [allOf] at h
    split at h
    · obtain ⟨b, hb, htest⟩ := ih h
      exact ⟨b, List.mem_cons_of_mem a hb, htest⟩
    · exact ⟨a, List.mem_cons_self, h⟩

end Tests

/-! ## Answers that do not contradict each other -/

/-- Where both computations give an answer, it is the same. -/
def Agrees {ε α : Type} (x y : Except ε α) : Prop := ∀ a b, x = .ok a → y = .ok b → a = b

section Agrees

variable {ε α : Type} {test : α → Except OperandFault Bool} {as bs : List α}

theorem Agrees.refl (x : Except ε α) : Agrees x x := by
  intro a b ha hb
  rw [ha] at hb
  exact Except.ok.inj hb

theorem Agrees.of_ne {x y : Except ε Bool} (h₁ : x = .ok true → y ≠ .ok false)
    (h₂ : x = .ok false → y ≠ .ok true) : Agrees x y := by
  rintro (_ | _) (_ | _) ha hb
  · rfl
  · exact absurd hb (h₂ ha)
  · exact absurd hb (h₁ ha)
  · rfl

theorem Agrees.map {β : Type} (f : α → β) {x y : Except ε α} (h : Agrees x y) :
    Agrees (x.map f) (y.map f) := by
  intro a b ha hb
  cases x with
  | error => cases ha
  | ok x =>
    cases y with
    | error => cases hb
    | ok y =>
      cases ha
      cases hb
      rw [h x y rfl rfl]

/-- A disjunction depends on the set of its members alone. -/
theorem agrees_anyOf (h : ∀ a, a ∈ as ↔ a ∈ bs) : Agrees (anyOf test as) (anyOf test bs) := by
  refine .of_ne (fun has hbs ↦ ?_) (fun has hbs ↦ ?_)
  · obtain ⟨a, ha, htest⟩ := exists_of_anyOf_eq_true has
    rw [anyOf_eq_false_iff.mp hbs a ((h a).mp ha)] at htest
    cases htest
  · obtain ⟨b, hb, htest⟩ := exists_of_anyOf_eq_true hbs
    rw [anyOf_eq_false_iff.mp has b ((h b).mpr hb)] at htest
    cases htest

/-- Two conjunctions agree if every member of either has one that agrees with it in the other. -/
theorem agrees_allOf (h₁ : ∀ a ∈ as, ∃ b ∈ bs, Agrees (test a) (test b))
    (h₂ : ∀ b ∈ bs, ∃ a ∈ as, Agrees (test a) (test b)) :
    Agrees (allOf test as) (allOf test bs) := by
  -- the member that decides against one side has a partner among those that all hold
  refine .of_ne (fun has hbs ↦ ?_) (fun has hbs ↦ ?_)
  · obtain ⟨b, hb, htest⟩ := exists_of_allOf_eq_false hbs
    obtain ⟨a, ha, hagrees⟩ := h₂ b hb
    cases hagrees _ _ (allOf_eq_true_iff.mp has a ha) htest
  · obtain ⟨a, ha, htest⟩ := exists_of_allOf_eq_false has
    obtain ⟨b, hb, hagrees⟩ := h₁ a ha
    cases hagrees _ _ htest (allOf_eq_true_iff.mp hbs b hb)

end Agrees

/-! ## Rules -/

theorem Candidate.passes?_rule (hne : s ≠ []) (h : ';' ∉ s) :
    c.passes? s = (FilterRule.ofText s).matches? c := by
  rw [passes?_eq, Text.pieces_of_not_mem hne h, List.map_singleton, allOf_singleton]

/-- A semicolon is a conjunction. -/
theorem Candidate.passes?_append_cons (c : Candidate) (s t : Text) :
    c.passes? (s ++ ';' :: t) = (c.passes? s <&&> c.passes? t) := by
  rw [passes?_eq, Text.pieces_append_cons, List.map_append, allOf_append]
  rfl

theorem not_mem_assignment (htag : sep ∉ tag) (hu : sep ∉ u) (hsep : sep ≠ '=') :
    sep ∉ tag ++ '=' :: u := by
  rw [List.mem_append, List.mem_cons, not_or, not_or]
  exact ⟨htag, hsep, hu⟩

theorem not_mem_mark (hmark : mark = '-' ∨ mark = '!') (hsep : sep = ';' ∨ sep = '=')
    (h : sep ∉ tag) : sep ∉ mark :: tag := by
  rw [List.mem_cons, not_or]
  refine ⟨?_, h⟩
  rcases hsep with rfl | rfl <;> rcases hmark with rfl | rfl <;> decide

/-- A rule with conditions asks for one of them, or for none of them if its field is marked. -/
theorem Candidate.passes?_assignment (c : Candidate) (hsemicolon : ';' ∉ tag) (htag : '=' ∉ tag)
    (hu : ';' ∉ u) : c.passes? (tag ++ '=' :: u) =
      (anyOf (c.meets? (splitNegation tag).2)
        ((Text.pieces ',' u).map Condition.ofText)).map (· != (splitNegation tag).1) := by
  rw [passes?_rule (by simp) (not_mem_assignment hsemicolon hu (by decide)),
    FilterRule.ofText_append_cons htag, FilterRule.matches?_eq]

/-- A name that can stand in front of the equality sign of a rule, and is meant as it is written. -/
structure IsFieldName (name : Text) : Prop where
  /-- It does not end the rule. -/
  semicolon : ';' ∉ name
  /-- It does not begin the conditions. -/
  equals : '=' ∉ name
  /-- It does not negate the rule. -/
  plain : isNegated name = false

section Conditions

variable (hname : IsFieldName tag) (hu : ';' ∉ u)

include hname hu

theorem Candidate.passes?_plain_assignment (c : Candidate) : c.passes? (tag ++ '=' :: u) =
    anyOf (c.meets? tag) ((Text.pieces ',' u).map Condition.ofText) := by
  have hmap : ∀ x : Except OperandFault Bool, x.map (· != false) = x := by
    rintro (_ | _ | _) <;> rfl
  rw [passes?_assignment c hname.semicolon hname.equals hu,
    splitNegation_of_not_isNegated hname.plain, hmap]

/-- A comma is a disjunction. -/
theorem Candidate.passes?_comma (c : Candidate) (hv : ';' ∉ v) :
    c.passes? (tag ++ '=' :: (u ++ ',' :: v)) =
      (c.passes? (tag ++ '=' :: u) <||> c.passes? (tag ++ '=' :: v)) := by
  have huv : ';' ∉ u ++ ',' :: v := by
    rw [List.mem_append, List.mem_cons, not_or, not_or]
    exact ⟨hu, by decide, hv⟩
  rw [passes?_plain_assignment hname huv, passes?_plain_assignment hname hu,
    passes?_plain_assignment hname hv, Text.pieces_append_cons, List.map_append, anyOf_append]

/-- A mark before the field is a negation. -/
theorem Candidate.passes?_marked (c : Candidate) (hmark : mark = '-' ∨ mark = '!') :
    c.passes? (mark :: tag ++ '=' :: u) = (c.passes? (tag ++ '=' :: u)).map (!·) := by
  rw [passes?_assignment c (not_mem_mark hmark (.inl rfl) hname.semicolon)
      (not_mem_mark hmark (.inr rfl) hname.equals) hu,
    passes?_plain_assignment hname hu, splitNegation_mark hmark]
  simp only [Bool.bne_true]

end Conditions

theorem Candidate.passes?_operand (hname : IsFieldName tag) (hcomma : Text.pieces ',' u = [u])
    (hrange : Text.cut? ['.', '.'] u = none) (hu : ';' ∉ u) (c : Candidate) :
    c.passes? (tag ++ '=' :: u) = c.meets? tag (.one u) := by
  rw [passes?_plain_assignment hname hu, hcomma, List.map_singleton, anyOf_singleton,
    Condition.ofText, hrange]

theorem Candidate.passes?_plain_operand (hname : IsFieldName tag) (hne : u ≠ [])
    (hsemicolon : ';' ∉ u) (hcomma : ',' ∉ u) (hpoint : '.' ∉ u) (c : Candidate) :
    c.passes? (tag ++ '=' :: u) = c.meets? tag (.one u) := by
  have hrange : Text.cut? ['.', '.'] u = none := by
    refine Option.eq_none_iff_forall_ne_some.mpr fun parts hcut ↦ hpoint ?_
    rw [Text.eq_of_cut? hcut]
    simp
  exact passes?_operand hname (Text.pieces_of_not_mem hne hcomma) hrange hsemicolon c

/-! ## Rearranged texts -/

/-- The texts of two rules differ in the order and number of their conditions, or not at all. -/
def SameRule (r r' : Text) : Prop :=
  r = r' ∨ ∃ tag u v, '=' ∉ tag ∧ r = tag ++ '=' :: u ∧ r' = tag ++ '=' :: v ∧
    ∀ piece, piece ∈ Text.pieces ',' u ↔ piece ∈ Text.pieces ',' v

/-- The texts of two filters differ in the order and number of their rules and of the conditions in
these. Empty rules and conditions do not count. -/
def Rearranged (s t : Text) : Prop :=
  (∀ r ∈ Text.pieces ';' s, ∃ r' ∈ Text.pieces ';' t, SameRule r r') ∧
    ∀ r' ∈ Text.pieces ';' t, ∃ r ∈ Text.pieces ';' s, SameRule r r'

theorem SameRule.agrees {r r' : Text} (h : SameRule r r') (c : Candidate) :
    Agrees ((FilterRule.ofText r).matches? c) ((FilterRule.ofText r').matches? c) := by
  rcases h with rfl | ⟨tag, u, v, htag, rfl, rfl, hpieces⟩
  · exact .refl _
  · rw [FilterRule.ofText_append_cons htag, FilterRule.ofText_append_cons htag,
      FilterRule.matches?_eq, FilterRule.matches?_eq]
    refine (agrees_anyOf fun condition ↦ ?_).map _
    simp only [List.mem_map, hpieces]

theorem Rearranged.agrees (h : Rearranged s t) (c : Candidate) :
    Agrees (c.passes? s) (c.passes? t) := by
  rw [Candidate.passes?_eq, Candidate.passes?_eq]
  refine agrees_allOf ?_ ?_
  · rw [List.forall_mem_map]
    intro r hr
    obtain ⟨r', hr', hsame⟩ := h.1 r hr
    exact ⟨_, List.mem_map_of_mem hr', hsame.agrees c⟩
  · rw [List.forall_mem_map]
    intro r' hr'
    obtain ⟨r, hr, hsame⟩ := h.2 r' hr'
    exact ⟨_, List.mem_map_of_mem hr, hsame.agrees c⟩

/-! ## Lists of tasks -/

section Selection

variable {f : Filter} {base : Date} {id : Nat} {tasks : List Task} {found : List (Nat × Task)}

/-- The tasks of a list with their numbers, counted from the one given. -/
def numberedFrom (id : Nat) (tasks : List Task) : List (Nat × Task) :=
  tasks.mapIdx fun i task ↦ (i + id, task)

theorem numberedFrom_cons (id : Nat) (task : Task) (tasks : List Task) :
    numberedFrom id (task :: tasks) = (id, task) :: numberedFrom (id + 1) tasks := by
  rw [numberedFrom, List.mapIdx_cons, Nat.zero_add, numberedFrom]
  simp only [Nat.add_right_comm _ 1 id, Nat.add_assoc]

/-- The tasks selected are those that match, in order, provided that every task can be held against
the filter. -/
theorem Filter.selectFrom_eq_ok_iff : f.selectFrom base id tasks = .ok found ↔
    (∀ p ∈ numberedFrom id tasks, ∃ answer, f.matches? p.2 p.1 base = .ok answer) ∧
      found = (numberedFrom id tasks).filter fun p ↦ f.matches? p.2 p.1 base = .ok true := by
  induction tasks generalizing id found with
  | nil => simp [selectFrom, numberedFrom, eq_comm]
  | cons task tasks ih =>
    rw [numberedFrom_cons, List.forall_mem_cons, List.filter_cons, selectFrom]
    cases hmatches : f.matches? task id base with
    | error fault => simp
    | ok matched =>
      cases hrest : f.selectFrom base (id + 1) tasks with
      | error fault =>
        -- a fault further on is one at some task of the rest
        have hnot : ¬ ∀ p ∈ numberedFrom (id + 1) tasks,
            ∃ answer, f.matches? p.2 p.1 base = .ok answer := by
          intro hall
          have hok := ih.mpr ⟨hall, rfl⟩
          rw [hrest] at hok
          cases hok
        exact iff_of_false (by simp) fun h ↦ hnot h.1.2
      | ok rest =>
        obtain ⟨hall, hfound⟩ := ih.mp hrest
        rw [and_iff_right ⟨⟨matched, rfl⟩, hall⟩, ← hfound]
        cases matched with
        | false => simp [eq_comm]
        | true => simp [eq_comm]

theorem Filter.agrees_select {g : Filter} (h : ∀ task id,
    Agrees (f.matches? task id base) (g.matches? task id base)) :
    Agrees (f.select tasks base) (g.select tasks base) := by
  intro found found' hf hg
  obtain ⟨hallf, rfl⟩ := selectFrom_eq_ok_iff.mp hf
  obtain ⟨hallg, rfl⟩ := selectFrom_eq_ok_iff.mp hg
  refine List.filter_congr fun p hp ↦ ?_
  obtain ⟨x, hx⟩ := hallf p hp
  obtain ⟨y, hy⟩ := hallg p hp
  rw [hx, hy, h p.2 p.1 x y hx hy]

end Selection

/-- **Filters are Boolean combinations.** Semicolons, commas and marks before a field are
conjunction, disjunction and negation. So what a text asks depends on the set of its rules, and what
a rule asks on the set of its conditions. -/
theorem Candidate.passes?_combination :
    (∀ (c : Candidate) (s t : Text), c.passes? (s ++ ';' :: t) = (c.passes? s <&&> c.passes? t)) ∧
    (∀ (c : Candidate) (tag u v : Text), ';' ∉ tag → '=' ∉ tag → isNegated tag = false →
      ';' ∉ u → ';' ∉ v →
      c.passes? (tag ++ '=' :: (u ++ ',' :: v)) =
          (c.passes? (tag ++ '=' :: u) <||> c.passes? (tag ++ '=' :: v)) ∧
        c.passes? ('-' :: tag ++ '=' :: u) = (c.passes? (tag ++ '=' :: u)).map (!·) ∧
        c.passes? ('!' :: tag ++ '=' :: u) = (c.passes? (tag ++ '=' :: u)).map (!·)) ∧
    ∀ s t : Text, Rearranged s t → (∀ c : Candidate, Agrees (c.passes? s) (c.passes? t)) ∧
      ∀ (style : PatternStyle) (tasks : List Task) (base : Date),
        Agrees ((Filter.ofText s style).select tasks base)
          ((Filter.ofText t style).select tasks base) := by
  refine ⟨passes?_append_cons, ?_, ?_⟩
  · intro c tag u v hsemicolon htag hplain hu hv
    have hname : IsFieldName tag := ⟨hsemicolon, htag, hplain⟩
    refine ⟨passes?_comma hname hu c hv, ?_, ?_⟩
    · exact passes?_marked hname hu c (.inl rfl)
    · exact passes?_marked hname hu c (.inr rfl)
  · intro s t h
    refine ⟨h.agrees, fun style tasks base ↦ ?_⟩
    exact Filter.agrees_select fun task id ↦ h.agrees ⟨task, id, base, style⟩

theorem Candidate.passes?_combination_due :
    let c : Candidate := ⟨Task.parse "(B) pay rent due:2020-03-20".toList none, 1,
      ⟨2020, 3, 15, by decide⟩, .wildcard⟩
    (c.passes? ("pri".toList ++ '=' :: ("A".toList ++ ',' :: "C..D".toList)) =
        (c.passes? ("pri".toList ++ '=' :: "A".toList) <||>
          c.passes? ("pri".toList ++ '=' :: "C..D".toList)) ∧
      c.passes? ('-' :: "pri".toList ++ '=' :: "A".toList) =
        (c.passes? ("pri".toList ++ '=' :: "A".toList)).map (!·)) ∧
    Rearranged "due;pri=A,B".toList "pri=B,,A;;due;due".toList ∧
    Agrees (c.passes? "due;pri=A,B".toList) (c.passes? "pri=B,,A;;due;due".toList) := by
  intro c
  obtain ⟨-, hrule, hrearranged⟩ := Candidate.passes?_combination
  obtain ⟨hcomma, hminus, -⟩ := hrule c "pri".toList "A".toList "C..D".toList (by decide)
    (by decide) (by decide) (by decide) (by decide)
  have hsame : SameRule "pri=A,B".toList "pri=B,,A".toList := by
    refine .inr ⟨"pri".toList, "A,B".toList, "B,,A".toList, by decide, rfl, rfl, fun piece ↦ ?_⟩
    rw [show Text.pieces ',' "A,B".toList = ["A".toList, "B".toList] by decide,
      show Text.pieces ',' "B,,A".toList = ["B".toList, "A".toList] by decide]
    simp [or_comm]
  have hrules : Rearranged "due;pri=A,B".toList "pri=B,,A;;due;due".toList := by
    rw [Rearranged,
      show Text.pieces ';' "due;pri=A,B".toList = ["due".toList, "pri=A,B".toList] by decide,
      show Text.pieces ';' "pri=B,,A;;due;due".toList =
        ["pri=B,,A".toList, "due".toList, "due".toList] by decide]
    refine ⟨?_, ?_⟩
    · exact List.forall_mem_cons.mpr ⟨⟨_, by simp, .inl rfl⟩,
        List.forall_mem_singleton.mpr ⟨_, by simp, hsame⟩⟩
    · have hdue : ∃ r ∈ ["due".toList, "pri=A,B".toList], SameRule r "due".toList :=
        ⟨_, List.mem_cons_self, .inl rfl⟩
      refine List.forall_mem_cons.mpr ⟨⟨_, by simp, hsame⟩, ?_⟩
      exact List.forall_mem_cons.mpr ⟨hdue, List.forall_mem_singleton.mpr hdue⟩
  exact ⟨⟨hcomma, hminus⟩, hrules, (hrearranged _ _ hrules).1 c⟩

end Agenda
