import Agenda.Proofs.ErrorKind
import Mathlib.Data.List.Forall2
import Mathlib.Data.List.TakeWhile

/-!
# The grammar of date expressions

An expression is a base followed by signed offsets. The grammar says which texts are bases and which
are offsets, and a *reading* of a text is a base and offsets of the grammar that spell it out. The
reader of expressions commits to the first form of a base that fits and never returns to that
decision, so it has to be shown that the decision costs nothing.

## Ambiguity

A part has to be followed by a sign or by the end. That fixes an offset once its beginning is
known, and it fixes a base up to one case: `03-05-1d` is the fifth of March less a day, but it could
also be the third of the month less five days and another one. Both readings agree on everything
after `03-05`, since what follows a month and day may also follow a day and an offset of two digits.
So the longer base never loses a text, and the reader finds the reading with the longest base.

## The final line feed

A part may also end before a line feed that ends the text. No reading contains a line feed; the rule
decides only whether the base or the offset is blamed when a text is refused.
-/

namespace Agenda.Expression

/-! ## The grammar -/

/-- So many digits and nothing else. -/
def IsDigits (n : Nat) (s : Text) : Prop := s.length = n ∧ ∀ c ∈ s, isDigit c = true

/-- The forms of a base. -/
inductive IsBase : Text → Prop
  /-- A word of letters. -/
  | word {s : Text} (hne : s ≠ []) (hs : ∀ c ∈ s, isLatin c = true) : IsBase s
  /-- An absolute day. -/
  | absolute {year month day : Text} (hy : IsDigits 4 year) (hm : IsDigits 2 month)
      (hd : IsDigits 2 day) : IsBase (year ++ '-' :: (month ++ '-' :: day))
  /-- A month and a day. -/
  | monthDay {month day : Text} (hm : IsDigits 2 month) (hd : IsDigits 2 day) :
      IsBase (month ++ '-' :: day)
  /-- A day of the month. -/
  | day {s : Text} (hs : IsDigits 1 s ∨ IsDigits 2 s) : IsBase s

/-- The letter of a unit, or nothing. -/
def IsUnit (s : Text) : Prop := s = [] ∨ ∃ c ∈ "dwmyDWMY".toList, s = [c]

/-- The forms of an offset: a count with or without a unit, or a unit alone. -/
inductive IsToken : Text → Prop
  | count {digits unit : Text} (hne : digits ≠ []) (hd : ∀ c ∈ digits, isDigit c = true)
      (hu : IsUnit unit) : IsToken (digits ++ unit)
  | unit {s : Text} (hne : s ≠ []) (hu : IsUnit s) : IsToken s

/-- What may follow a part: nothing, a line feed that ends the text, or a sign. -/
inductive Boundary : Text → Prop
  | done : Boundary []
  | lineEnd : Boundary ['\n']
  | sign (s : Sign) (rest : Text) : Boundary (s.toChar :: rest)

/-- The part stands at the start of the text and may end there. -/
def Leads (part s : Text) : Prop := ∃ rest, s = part ++ rest ∧ Boundary rest

/-- A way to take a text apart that the grammar allows. -/
structure IsReading (expr : Text) (e : Expression) : Prop where
  /-- The base has one of the forms. -/
  base : IsBase e.base
  /-- So has every offset. -/
  token : ∀ o ∈ e.offsets, IsToken o.token
  /-- The parts spell the text out. -/
  toText : e.toText = expr

/-! ## Where a part may end -/

theorem endsHere_iff {s : Text} : endsHere s = true ↔ Boundary s := by
  constructor
  · intro h
    unfold endsHere at h
    split at h
    · exact .done
    · exact .lineEnd
    · rcases Bool.or_eq_true .. ▸ h with hc | hc
      · rw [eq_of_beq hc]
        exact .sign .plus _
      · rw [eq_of_beq hc]
        exact .sign .minus _
  · rintro (_ | _ | ⟨s, rest⟩)
    · rfl
    · rfl
    · cases s <;> cases rest <;> simp [endsHere, Sign.toChar]

theorem Boundary.head {c : Char} {s : Text} (h : Boundary (c :: s)) :
    c = '+' ∨ c = '-' ∨ c = '\n' := by
  cases h with
  | lineEnd => simp
  | sign sign _ => cases sign <;> simp [Sign.toChar]

theorem Boundary.not_isDigit {c : Char} {s : Text} (h : Boundary (c :: s)) :
    isDigit c = false := by
  rcases h.head with rfl | rfl | rfl <;> decide

theorem Boundary.not_isLatin {c : Char} {s : Text} (h : Boundary (c :: s)) :
    isLatin c = false := by
  rcases h.head with rfl | rfl | rfl <;> decide

theorem Boundary.not_isUnit {c : Char} {s : Text} (h : Boundary (c :: s)) :
    TimeUnit.ofAnyLetter? c = none := by
  rcases h.head with rfl | rfl | rfl <;> rfl

theorem boundary_flatMap (offsets : List Offset) : Boundary (offsets.flatMap Offset.toText) := by
  cases offsets with
  | nil => exact .done
  | cons o offsets => exact .sign o.sign _

theorem span_append {p : Char → Bool} {s rest : Text} (hs : ∀ c ∈ s, p c = true)
    (hrest : ∀ c t, rest = c :: t → p c = false) :
    (s ++ rest).takeWhile p = s ∧ (s ++ rest).dropWhile p = rest := by
  rw [List.takeWhile_append_of_pos hs, List.dropWhile_append_of_pos hs]
  cases rest with
  | nil => simp
  | cons c t =>
    have hc : p c = false := hrest c t rfl
    simp [hc]

/-! ## Offsets -/

theorem isUnit_singleton_iff {c : Char} :
    (TimeUnit.ofAnyLetter? c).isSome = true ↔ c ∈ "dwmyDWMY".toList := by
  constructor
  · intro h
    unfold TimeUnit.ofAnyLetter? TimeUnit.ofLetter? at h
    split at h
    all_goals first | decide | (split at h <;> first | decide | cases h)
  · intro h
    have hall : "dwmyDWMY".toList.all (TimeUnit.ofAnyLetter? · |>.isSome) = true := by decide
    exact List.all_eq_true.mp hall c h

theorem IsUnit.not_isDigit {s : Text} (h : IsUnit s) {c : Char} (hc : c ∈ s) :
    isDigit c = false := by
  have hall : "dwmyDWMY".toList.all (!isDigit ·) = true := by decide
  rcases h with rfl | ⟨d, hd, rfl⟩
  · cases hc
  · rw [List.mem_singleton.mp hc]
    simpa using List.all_eq_true.mp hall d hd

theorem isToken_iff {s : Text} : IsToken s ↔ s ≠ [] ∧
    ∃ digits unit, s = digits ++ unit ∧ (∀ c ∈ digits, isDigit c = true) ∧ IsUnit unit := by
  constructor
  · rintro (@⟨digits, unit, hne, hd, hu⟩ | ⟨hne, hu⟩)
    · exact ⟨by simp [hne], digits, unit, rfl, hd, hu⟩
    · exact ⟨hne, [], s, rfl, by simp, hu⟩
  · rintro ⟨hne, digits, unit, rfl, hd, hu⟩
    by_cases hdigits : digits = []
    · subst hdigits
      exact .unit hne hu
    · exact .count hdigits hd hu

theorem unitLetter_spec (s : Text) :
    s = (unitLetter s).1 ++ (unitLetter s).2 ∧ IsUnit (unitLetter s).1 := by
  cases s with
  | nil => exact ⟨rfl, Or.inl rfl⟩
  | cons c s =>
    rw [unitLetter]
    split
    · next hc => exact ⟨rfl, Or.inr ⟨c, isUnit_singleton_iff.mp hc, rfl⟩⟩
    · exact ⟨rfl, Or.inl rfl⟩

theorem unitLetter_append {unit rest : Text} (hu : IsUnit unit) (hrest : Boundary rest) :
    unitLetter (unit ++ rest) = (unit, rest) := by
  rcases hu with rfl | ⟨c, hc, rfl⟩
  · cases rest with
    | nil => rfl
    | cons c rest => simp [unitLetter, hrest.not_isUnit]
  · simp [unitLetter, isUnit_singleton_iff.mpr hc]

/-- The offset at the start of a text is the only one of the grammar that may end there. -/
theorem offset?_eq_some_iff {s token : Text} :
    offset? s = some token ↔ IsToken token ∧ Leads token s := by
  have hparts : s.takeWhile isDigit ++ (unitLetter (s.dropWhile isDigit)).1
      ++ (unitLetter (s.dropWhile isDigit)).2 = s := by
    rw [List.append_assoc, ← (unitLetter_spec _).1, List.takeWhile_append_dropWhile]
  constructor
  · intro h
    simp only [offset?, ended] at h
    split at h
    · cases h
    · next hne =>
      split at h
      · next hend =>
        cases h
        refine ⟨isToken_iff.mpr ⟨by simpa using hne, _, _, rfl, fun c hc ↦ ?_,
          (unitLetter_spec _).2⟩, _, hparts.symm, endsHere_iff.mp hend⟩
        exact List.mem_takeWhile_imp hc
      · cases h
  · rintro ⟨htoken, rest, rfl, hrest⟩
    obtain ⟨hne, digits, unit, rfl, hd, hu⟩ := isToken_iff.mp htoken
    -- the digits end at the unit, or at the boundary if there is none
    have hstop : ∀ c t, unit ++ rest = c :: t → isDigit c = false := by
      intro c t hct
      cases unit with
      | nil => exact (hct ▸ hrest : Boundary (c :: t)).not_isDigit
      | cons u unit =>
        cases hct
        exact hu.not_isDigit List.mem_cons_self
    have hspan := span_append hd hstop
    rw [offset?, List.append_assoc, hspan.1, hspan.2, unitLetter_append hu hrest]
    simp [ended, endsHere_iff.mpr hrest, List.append_eq_nil_iff.not.mp hne]

/-- Two offsets at the same place are the same. -/
theorem IsToken.eq_of_leads {s t t' : Text} (ht : IsToken t) (hs : Leads t s) (ht' : IsToken t')
    (hs' : Leads t' s) : t = t' := by
  have h := offset?_eq_some_iff.mpr ⟨ht, hs⟩
  rw [offset?_eq_some_iff.mpr ⟨ht', hs'⟩] at h
  exact (Option.some_inj.mp h).symm

/-! ## Sequences of offsets -/

theorem offsetsFrom_cons (expr : Text) (fuel : Nat) (sign : Sign) {token after : Text}
    (htoken : IsToken token) (hafter : Boundary after) :
    offsetsFrom expr (fuel + 1) (sign.toChar :: (token ++ after)) =
      (offsetsFrom expr fuel after).map (⟨sign, token⟩ :: ·) := by
  have hoffset : offset? (token ++ after) = some token :=
    offset?_eq_some_iff.mpr ⟨htoken, after, rfl, hafter⟩
  have hne : token ++ after ≠ [] := by
    simp [(isToken_iff.mp htoken).1]
  rw [offsetsFrom]
  · rw [Sign.ofChar?_toChar]
    simp only [hoffset, List.drop_left]
    cases offsetsFrom expr fuel after <;> rfl
  · exact fun h ↦ hne h

/-- The text of offsets of the grammar is read back. Its length is enough of a bound, since every
offset has at least two characters. -/
theorem offsetsFrom_flatMap (expr : Text) {fuel : Nat} {offsets : List Offset}
    (htoken : ∀ o ∈ offsets, IsToken o.token)
    (hfuel : (offsets.flatMap Offset.toText).length ≤ fuel) :
    offsetsFrom expr fuel (offsets.flatMap Offset.toText) = .ok offsets := by
  induction offsets generalizing fuel with
  | nil => rw [List.flatMap_nil, offsetsFrom]
  | cons o offsets ih =>
    have ho : IsToken o.token := htoken o List.mem_cons_self
    have hrest : ∀ p ∈ offsets, IsToken p.token := fun p hp ↦ htoken p (List.mem_cons_of_mem _ hp)
    rw [List.flatMap_cons, Offset.toText, List.cons_append] at hfuel ⊢
    rw [List.length_cons, List.length_append] at hfuel
    obtain ⟨fuel, rfl⟩ : ∃ n, fuel = n + 1 := ⟨fuel - 1, by omega⟩
    rw [offsetsFrom_cons expr fuel o.sign ho (boundary_flatMap offsets), ih hrest (by omega)]
    rfl

theorem eq_flatMap_of_offsetsFrom {expr : Text} {fuel : Nat} {rest : Text} {offsets : List Offset}
    (h : offsetsFrom expr fuel rest = .ok offsets) :
    (∀ o ∈ offsets, IsToken o.token) ∧ rest = offsets.flatMap Offset.toText := by
  induction fuel generalizing rest offsets with
  | zero =>
    match rest with
    | [] => cases h; simp
    | [_] => cases h
    | _ :: _ :: _ => cases h
  | succ fuel ih =>
    match rest with
    | [] => cases h; simp
    | [_] => cases h
    | c :: d :: rest =>
      rw [offsetsFrom] at h
      · split at h
        · cases h
        · next sign hsign =>
          split at h
          · cases h
          · next token htoken =>
            -- the first offset is one of the grammar, and the reader goes on behind it
            obtain ⟨hgrammar, after, hafter, -⟩ := offset?_eq_some_iff.mp htoken
            rw [hafter, List.drop_left] at h
            split at h
            · next offsets' hoffsets =>
              cases h
              obtain ⟨hall, hspelt⟩ := ih hoffsets
              refine ⟨?_, ?_⟩
              · intro o ho
                rcases List.mem_cons.mp ho with rfl | ho
                · exact hgrammar
                · exact hall o ho
              · rw [hafter, List.flatMap_cons, ← hspelt, Offset.toText,
                  Sign.toChar_of_ofChar? hsign]
                rfl
            · cases h
      · simp

/-! ## The forms of a base -/

/-- The characters of a text are as described, one by one. -/
def Fits (shape : List (Char → Bool)) (s : Text) : Prop :=
  List.Forall₂ (fun p c ↦ p c = true) shape s

theorem Fits.length_eq {shape : List (Char → Bool)} {s : Text} (h : Fits shape s) :
    s.length = shape.length := (List.Forall₂.length_eq h).symm

theorem fits_cons_iff {p : Char → Bool} {shape : List (Char → Bool)} {s : Text} :
    Fits (p :: shape) s ↔ ∃ c t, p c = true ∧ Fits shape t ∧ s = c :: t :=
  List.forall₂_cons_left_iff

theorem fits_append_iff {ps qs : List (Char → Bool)} {s : Text} :
    Fits (ps ++ qs) s ↔ ∃ t u, Fits ps t ∧ Fits qs u ∧ s = t ++ u := by
  induction ps generalizing s with
  | nil =>
    constructor
    · exact fun h ↦ ⟨[], s, List.Forall₂.nil, h, rfl⟩
    · rintro ⟨t, u, ht, hu, rfl⟩
      rw [List.forall₂_nil_left_iff.mp ht]
      exact hu
  | cons p ps ih =>
    rw [List.cons_append, fits_cons_iff]
    constructor
    · rintro ⟨c, _, hc, hs, rfl⟩
      obtain ⟨t, u, ht, hu, rfl⟩ := ih.mp hs
      exact ⟨c :: t, u, List.Forall₂.cons hc ht, hu, rfl⟩
    · rintro ⟨_, u, hct, hu, rfl⟩
      obtain ⟨c, t, hc, ht, rfl⟩ := fits_cons_iff.mp hct
      exact ⟨c, t ++ u, hc, ih.mpr ⟨t, u, ht, hu, rfl⟩, rfl⟩

theorem fits_digits_iff {n : Nat} {s : Text} :
    Fits (List.replicate n isDigit) s ↔ IsDigits n s := by
  induction n generalizing s with
  | zero =>
    rw [List.replicate_zero, Fits, List.forall₂_nil_left_iff, IsDigits, List.length_eq_zero_iff]
    exact ⟨fun h ↦ ⟨h, by simp [h]⟩, fun h ↦ h.1⟩
  | succ n ih =>
    rw [List.replicate_succ, fits_cons_iff]
    constructor
    · rintro ⟨c, t, hc, ht, rfl⟩
      obtain ⟨hlen, hall⟩ := ih.mp ht
      exact ⟨by rw [List.length_cons, hlen], List.forall_mem_cons.mpr ⟨hc, hall⟩⟩
    · rintro ⟨hlen, hall⟩
      obtain ⟨c, t, rfl⟩ := List.exists_cons_of_length_eq_add_one hlen
      obtain ⟨hc, ht⟩ := List.forall_mem_cons.mp hall
      exact ⟨c, t, hc, ih.mpr ⟨Nat.succ.inj hlen, ht⟩, rfl⟩

theorem fits_dash_iff {shape : List (Char → Bool)} {s : Text} :
    Fits ((· == '-') :: shape) s ↔ ∃ t, Fits shape t ∧ s = '-' :: t := by
  rw [fits_cons_iff]
  constructor
  · rintro ⟨c, t, hc, ht, rfl⟩
    exact ⟨t, ht, by rw [eq_of_beq hc]⟩
  · rintro ⟨t, ht, rfl⟩
    exact ⟨'-', t, rfl, ht, rfl⟩

theorem fits_monthDayShape_iff {s : Text} : Fits monthDayShape s ↔
    ∃ month day, IsDigits 2 month ∧ IsDigits 2 day ∧ s = month ++ '-' :: day := by
  have hshape : monthDayShape =
      List.replicate 2 isDigit ++ (· == '-') :: List.replicate 2 isDigit := rfl
  rw [hshape, fits_append_iff]
  constructor
  · rintro ⟨month, _, hmonth, htail, rfl⟩
    obtain ⟨day, hday, rfl⟩ := fits_dash_iff.mp htail
    exact ⟨month, day, fits_digits_iff.mp hmonth, fits_digits_iff.mp hday, rfl⟩
  · rintro ⟨month, day, hmonth, hday, rfl⟩
    exact ⟨month, '-' :: day, fits_digits_iff.mpr hmonth,
      fits_dash_iff.mpr ⟨day, fits_digits_iff.mpr hday, rfl⟩, rfl⟩

theorem fits_absoluteShape_iff {s : Text} : Fits absoluteShape s ↔
    ∃ year month day, IsDigits 4 year ∧ IsDigits 2 month ∧ IsDigits 2 day ∧
      s = year ++ '-' :: (month ++ '-' :: day) := by
  have hshape : absoluteShape = List.replicate 4 isDigit ++ (· == '-') :: monthDayShape := rfl
  rw [hshape, fits_append_iff]
  constructor
  · rintro ⟨year, _, hyear, htail, rfl⟩
    obtain ⟨_, hrest, rfl⟩ := fits_dash_iff.mp htail
    obtain ⟨month, day, hmonth, hday, rfl⟩ := fits_monthDayShape_iff.mp hrest
    exact ⟨year, month, day, fits_digits_iff.mp hyear, hmonth, hday, rfl⟩
  · rintro ⟨year, month, day, hyear, hmonth, hday, rfl⟩
    exact ⟨year, _, fits_digits_iff.mpr hyear, fits_dash_iff.mpr
      ⟨_, fits_monthDayShape_iff.mpr ⟨month, day, hmonth, hday, rfl⟩, rfl⟩, rfl⟩

theorem isBase_iff {s : Text} : IsBase s ↔ (s ≠ [] ∧ ∀ c ∈ s, isLatin c = true) ∨
    Fits absoluteShape s ∨ Fits monthDayShape s ∨ Fits [isDigit, isDigit] s ∨ Fits [isDigit] s := by
  have htwo : Fits [isDigit, isDigit] s ↔ IsDigits 2 s := fits_digits_iff (n := 2)
  have hone : Fits [isDigit] s ↔ IsDigits 1 s := fits_digits_iff (n := 1)
  rw [fits_absoluteShape_iff, fits_monthDayShape_iff, htwo, hone]
  constructor
  · rintro (⟨hne, hs⟩ | ⟨hy, hm, hd⟩ | ⟨hm, hd⟩ | ⟨hs | hs⟩)
    · exact Or.inl ⟨hne, hs⟩
    · exact Or.inr (Or.inl ⟨_, _, _, hy, hm, hd, rfl⟩)
    · exact Or.inr (Or.inr (Or.inl ⟨_, _, hm, hd, rfl⟩))
    · exact Or.inr (Or.inr (Or.inr (Or.inr hs)))
    · exact Or.inr (Or.inr (Or.inr (Or.inl hs)))
  · rintro (⟨hne, hs⟩ | ⟨_, _, _, hy, hm, hd, rfl⟩ | ⟨_, _, hm, hd, rfl⟩ | hs | hs)
    · exact .word hne hs
    · exact .absolute hy hm hd
    · exact .monthDay hm hd
    · exact .day (Or.inr hs)
    · exact .day (Or.inl hs)

/-! ## The base that the reader finds -/

theorem ended_eq_some_iff {part : Option (Text × Text)} {token : Text} :
    ended part = some token ↔ ∃ rest, part = some (token, rest) ∧ Boundary rest := by
  cases part with
  | none => simp [ended]
  | some p =>
    obtain ⟨t, rest⟩ := p
    rw [ended]
    constructor
    · intro h
      split at h
      · next hend =>
        cases h
        exact ⟨rest, rfl, endsHere_iff.mp hend⟩
      · cases h
    · rintro ⟨rest, hpart, hend⟩
      cases hpart
      rw [if_pos (endsHere_iff.mpr hend)]

theorem shaped?_eq_some_iff {shape : List (Char → Bool)} {s part rest : Text} :
    shaped? shape s = some (part, rest) ↔ Fits shape part ∧ s = part ++ rest := by
  -- one class of characters after the other
  induction shape generalizing s part with
  | nil =>
    rw [shaped?, Fits, List.forall₂_nil_left_iff, Option.some_inj, Prod.mk.injEq]
    constructor
    · rintro ⟨rfl, rfl⟩
      exact ⟨rfl, rfl⟩
    · rintro ⟨rfl, rfl⟩
      exact ⟨rfl, rfl⟩
  | cons p shape ih =>
    rw [fits_cons_iff]
    constructor
    · intro h
      cases s with
      | nil => cases h
      | cons c s =>
        rw [shaped?] at h
        split at h
        · next hc =>
          obtain ⟨⟨t, rest'⟩, ht, heq⟩ := Option.map_eq_some_iff.mp h
          cases heq
          obtain ⟨hfits, rfl⟩ := ih.mp ht
          exact ⟨⟨c, t, hc, hfits, rfl⟩, rfl⟩
        · cases h
    · rintro ⟨⟨c, t, hc, hfits, rfl⟩, rfl⟩
      rw [List.cons_append, shaped?, if_pos hc, ih.mpr ⟨hfits, rfl⟩]
      rfl

theorem ended_shaped?_iff {shape : List (Char → Bool)} {s part : Text} :
    ended (shaped? shape s) = some part ↔ Fits shape part ∧ Leads part s := by
  rw [ended_eq_some_iff]
  constructor
  · rintro ⟨rest, hpart, hrest⟩
    obtain ⟨hfits, hs⟩ := shaped?_eq_some_iff.mp hpart
    exact ⟨hfits, rest, hs, hrest⟩
  · rintro ⟨hfits, rest, hs, hrest⟩
    exact ⟨rest, shaped?_eq_some_iff.mpr ⟨hfits, hs⟩, hrest⟩

theorem ended_word?_iff {s part : Text} : ended (word? s) = some part ↔
    (part ≠ [] ∧ ∀ c ∈ part, isLatin c = true) ∧ Leads part s := by
  rw [ended_eq_some_iff]
  constructor
  · rintro ⟨rest, hpart, hrest⟩
    rw [word?] at hpart
    split at hpart
    · cases hpart
    · next hne =>
      cases hpart
      refine ⟨⟨by simpa using hne, fun c hc ↦ List.mem_takeWhile_imp hc⟩, _,
        List.takeWhile_append_dropWhile.symm, hrest⟩
  · rintro ⟨⟨hne, hs⟩, rest, rfl, hrest⟩
    have hspan := span_append hs fun c t hct ↦ (hct ▸ hrest : Boundary (c :: t)).not_isLatin
    refine ⟨rest, ?_, hrest⟩
    rw [word?, hspan.1, hspan.2, if_neg (by simpa using hne)]

theorem toNat_of_isLatin {c : Char} (h : isLatin c = true) : 65 ≤ c.toNat ∧ c.toNat < 123 := by
  simp only [isLatin, Bool.or_eq_true, Bool.and_eq_true, decide_eq_true_eq, Char.le_def,
    UInt32.le_iff_toNat_le] at h
  have hn : c.toNat = c.val.toNat := rfl
  simp only [show 'a'.val.toNat = 97 from rfl, show 'z'.val.toNat = 122 from rfl,
    show 'A'.val.toNat = 65 from rfl, show 'Z'.val.toNat = 90 from rfl] at h
  omega

theorem not_isLatin_of_isDigit {c : Char} (h : isDigit c = true) : isLatin c = false := by
  have hcodes : ∀ n < 123, 65 ≤ n → digitZeros.find? (fun z ↦ z ≤ n && n < z + 10) = none := by
    decide
  by_contra hlatin
  rw [Bool.not_eq_false] at hlatin
  obtain ⟨hlo, hhi⟩ := toNat_of_isLatin hlatin
  rw [isDigit, digitValue?, hcodes _ hhi hlo] at h
  cases h

theorem not_word_of_digit {c : Char} {s t part : Text} (hc : isDigit c = true)
    (hs : Leads (c :: t) s) (hne : part ≠ []) (hpart : ∀ d ∈ part, isLatin d = true) :
    ¬ Leads part s := by
  rintro ⟨rest, hrest, -⟩
  obtain ⟨rest', rfl, -⟩ := hs
  cases part with
  | nil => exact hne rfl
  | cons d part =>
    obtain ⟨rfl, -⟩ := List.cons.inj hrest
    have hd : isLatin c = true := hpart c List.mem_cons_self
    rw [not_isLatin_of_isDigit hc] at hd
    cases hd

theorem exists_orElse {x y : Option Text} {n : Nat} (hx : ∀ b, x = some b → n ≤ b.length)
    (hy : ∃ b, y = some b ∧ n ≤ b.length) : ∃ b, (x <|> y) = some b ∧ n ≤ b.length := by
  cases x with
  | none => exact hy
  | some b => exact ⟨b, rfl, hx b rfl⟩

/-- Where a base of the grammar stands, the reader finds one that is at least as long: the forms
with digits are tried from the longest, and a word excludes them all. -/
theorem exists_base?_of_leads {s b : Text} (hb : IsBase b) (hs : Leads b s) :
    ∃ b', base? s = some b' ∧ b.length ≤ b'.length := by
  have hfound : ∀ {shape}, Fits shape b → ended (shaped? shape s) = some b :=
    fun hfits ↦ ended_shaped?_iff.mpr ⟨hfits, hs⟩
  have hlonger : ∀ {shape shape' : List (Char → Bool)}, Fits shape b →
      shape.length ≤ shape'.length → ∀ part, ended (shaped? shape' s) = some part →
      b.length ≤ part.length := by
    intro shape shape' hfits hle part hpart
    rw [hfits.length_eq, (ended_shaped?_iff.mp hpart).1.length_eq]
    exact hle
  have hword : ∀ {shape}, Fits (isDigit :: shape) b → ∀ part, ended (word? s) = some part →
      b.length ≤ part.length := by
    intro shape hfits part hpart
    obtain ⟨c, t, hc, -, rfl⟩ := fits_cons_iff.mp hfits
    obtain ⟨⟨hne, hlatin⟩, hleads⟩ := ended_word?_iff.mp hpart
    exact absurd hleads (not_word_of_digit hc hs hne hlatin)
  -- whatever is found before the form of the given base is at least as long
  rw [base?]
  rcases isBase_iff.mp hb with hb | hb | hb | hb | hb
  · rw [ended_word?_iff.mpr ⟨hb, hs⟩]
    exact ⟨b, rfl, le_refl _⟩
  · refine exists_orElse (hword hb) ?_
    rw [hfound hb]
    exact ⟨b, rfl, le_refl _⟩
  · refine exists_orElse (hword hb) (exists_orElse (hlonger hb (by decide)) ?_)
    rw [hfound hb]
    exact ⟨b, rfl, le_refl _⟩
  · refine exists_orElse (hword hb) (exists_orElse (hlonger hb (by decide))
      (exists_orElse (hlonger hb (by decide)) ?_))
    rw [hfound hb]
    exact ⟨b, rfl, le_refl _⟩
  · refine exists_orElse (hword hb) (exists_orElse (hlonger hb (by decide))
      (exists_orElse (hlonger hb (by decide)) (exists_orElse (hlonger hb (by decide)) ?_)))
    exact ⟨b, hfound hb, le_refl _⟩

theorem isBase_of_base? {s b : Text} (h : base? s = some b) : IsBase b ∧ Leads b s := by
  rw [isBase_iff]
  simp only [base?, Option.orElse_eq_orElse, Option.orElse_eq_or, Option.or_eq_some_iff,
    ended_word?_iff, ended_shaped?_iff] at h
  tauto

theorem eq_of_leads {s b b' : Text} (h : Leads b s) (h' : Leads b' s)
    (hlen : b.length = b'.length) : b = b' := by
  obtain ⟨rest, rfl, -⟩ := h
  obtain ⟨rest', heq, -⟩ := h'
  exact (List.append_inj heq hlen).1

/-- The reader finds the longest base of the grammar that may end where it ends. -/
theorem base?_eq_some_iff {s b : Text} : base? s = some b ↔
    (IsBase b ∧ Leads b s) ∧ ∀ b', IsBase b' → Leads b' s → b'.length ≤ b.length := by
  constructor
  · intro h
    refine ⟨isBase_of_base? h, fun b' hb' hs' ↦ ?_⟩
    obtain ⟨b₂, hb₂, hle⟩ := exists_base?_of_leads hb' hs'
    rw [h, Option.some_inj] at hb₂
    rwa [hb₂]
  · rintro ⟨⟨hb, hs⟩, hlongest⟩
    obtain ⟨b', hb', hle⟩ := exists_base?_of_leads hb hs
    obtain ⟨hgrammar, hleads⟩ := isBase_of_base? hb'
    rw [hb', eq_of_leads hs hleads (le_antisymm hle (hlongest b' hgrammar hleads))]

theorem base?_eq_none_iff {s : Text} : base? s = none ↔ ∀ b, IsBase b → ¬ Leads b s := by
  constructor
  · intro h b hb hs
    obtain ⟨b', hb', -⟩ := exists_base?_of_leads hb hs
    rw [h] at hb'
    cases hb'
  · intro h
    cases hb : base? s with
    | none => rfl
    | some b => exact absurd (isBase_of_base? hb).2 (h b (isBase_of_base? hb).1)

/-! ## The one ambiguity -/

theorem exists_boundary_of_lt {s b b' : Text} (h : Leads b s) (h' : Leads b' s)
    (hlt : b'.length < b.length) : ∃ c t rest, b = b' ++ c :: t ∧ Boundary (c :: rest) := by
  obtain ⟨rest, rfl, -⟩ := h
  obtain ⟨rest', heq, hrest'⟩ := h'
  rcases List.append_eq_append_iff.mp heq with ⟨t, hb', -⟩ | ⟨t, hb, hrest⟩
  · rw [hb', List.length_append] at hlt
    omega
  · cases t with
    | nil =>
      rw [hb, List.append_nil] at hlt
      omega
    | cons c t =>
      rw [hrest] at hrest'
      exact ⟨c, t, t ++ rest, hb, hrest'⟩

theorem split_digits {u v x y : Text} {c d : Char} (hu : ∀ a ∈ u, isDigit a = true)
    (hd : isDigit d = false) (h : u ++ c :: v = x ++ d :: y) :
    (x = u ∧ d = c ∧ y = v) ∨ ∃ z, x = u ++ c :: z ∧ v = z ++ d :: y := by
  rcases List.append_eq_append_iff.mp h with ⟨a, hx, hc⟩ | ⟨a, hu', hc⟩
  · cases a with
    | nil =>
      obtain ⟨rfl, rfl⟩ := List.cons.inj hc
      exact Or.inl ⟨by rw [hx, List.append_nil], rfl, rfl⟩
    | cons a z =>
      obtain ⟨rfl, rfl⟩ := List.cons.inj hc
      exact Or.inr ⟨z, hx, rfl⟩
  · cases a with
    | nil =>
      obtain ⟨rfl, rfl⟩ := List.cons.inj hc
      exact Or.inl ⟨by rw [hu', List.append_nil], rfl, rfl⟩
    | cons a z =>
      obtain ⟨rfl, -⟩ := List.cons.inj hc
      have hdigit := hu d (by simp [hu'])
      rw [hd] at hdigit
      cases hdigit

theorem not_mem_of_isDigits {n : Nat} {s z t : Text} {c : Char} (hs : IsDigits n s)
    (hc : isDigit c = false) : s ≠ z ++ c :: t := by
  rintro rfl
  have hdigit := hs.2 c (by simp)
  rw [hc] at hdigit
  cases hdigit

/-- A base that begins with digits has one of four lengths. -/
theorem IsBase.length_of_digits {n : Nat} {digits t : Text} (h : IsBase (digits ++ t))
    (hd : IsDigits (n + 1) digits) : (digits ++ t).length ∈ [10, 5, 2, 1] := by
  rcases isBase_iff.mp h with ⟨-, hlatin⟩ | hfits | hfits | hfits | hfits
  · obtain ⟨c, u, rfl⟩ := List.exists_cons_of_length_eq_add_one hd.1
    have hc : isLatin c = true := hlatin c (by simp)
    rw [not_isLatin_of_isDigit (hd.2 c List.mem_cons_self)] at hc
    cases hc
  all_goals
    rw [hfits.length_eq]
    decide

/-- Of two bases at one place that may both end, the longer is a month and day and the shorter its
month, read as a day of the month. -/
theorem IsBase.eq_append_of_lt {s b b' : Text} (hb : IsBase b) (hs : Leads b s) (hb' : IsBase b')
    (hs' : Leads b' s) (hlt : b'.length < b.length) :
    ∃ token, IsDigits 2 b' ∧ IsDigits 2 token ∧ b = b' ++ '-' :: token := by
  obtain ⟨c, t, rest, heq, hc⟩ := exists_boundary_of_lt hs hs' hlt
  have hmem : c ∈ b := by simp [heq]
  cases hb with
  | word hne hlatin =>
    have hc' := hlatin c hmem
    rw [hc.not_isLatin] at hc'
    cases hc'
  | day hdigits =>
    exact absurd heq (hdigits.elim (not_mem_of_isDigits · hc.not_isDigit)
      (not_mem_of_isDigits · hc.not_isDigit))
  | @monthDay month day hm hd =>
    rcases split_digits hm.2 hc.not_isDigit heq with ⟨rfl, -, -⟩ | ⟨z, -, hday⟩
    · exact ⟨day, hm, hd, rfl⟩
    · exact absurd hday (not_mem_of_isDigits hd hc.not_isDigit)
  | @absolute year month day hy hm hd =>
    -- the shorter base would have four or seven characters
    rcases split_digits hy.2 hc.not_isDigit heq with ⟨rfl, -, -⟩ | ⟨z, rfl, htail⟩
    · have hlen := IsBase.length_of_digits (t := []) (by rwa [List.append_nil]) hy
      rw [List.append_nil, hy.1] at hlen
      cases (by decide : 4 ∉ [10, 5, 2, 1]) hlen
    · rcases split_digits hm.2 hc.not_isDigit htail with ⟨rfl, -, -⟩ | ⟨w, -, hday⟩
      · have hlen := hb'.length_of_digits hy
        rw [List.length_append, List.length_cons, hy.1, hm.1] at hlen
        cases (by decide : 7 ∉ [10, 5, 2, 1]) hlen
      · exact absurd hday (not_mem_of_isDigits hd hc.not_isDigit)

/-! ## The whole expression -/

theorem IsDigits.isToken {n : Nat} {s : Text} (h : IsDigits (n + 1) s) : IsToken s := by
  have hne : s ≠ [] := List.ne_nil_of_length_eq_add_one h.1
  have htoken := IsToken.count hne h.2 (Or.inl rfl)
  rwa [List.append_nil] at htoken

theorem IsReading.leads {expr : Text} {e : Expression} (h : IsReading expr e) :
    Leads e.base expr := ⟨_, h.toText.symm, boundary_flatMap e.offsets⟩

theorem parse_of_base? {expr base : Text} {offsets : List Offset} (hbase : base? expr = some base)
    (htoken : ∀ o ∈ offsets, IsToken o.token)
    (hexpr : expr = base ++ offsets.flatMap Offset.toText) :
    parse expr = .ok ⟨base, offsets⟩ := by
  have hdrop : expr.drop base.length = offsets.flatMap Offset.toText := by
    rw [hexpr, List.drop_left]
  simp only [parse, hbase, hdrop, offsetsFrom_flatMap expr htoken (le_refl _)]

theorem parse_of_isBase {s : Text} (h : IsBase s) : parse s = .ok ⟨s, []⟩ := by
  have hbase : base? s = some s := by
    refine base?_eq_some_iff.mpr ⟨⟨h, [], by rw [List.append_nil], .done⟩, ?_⟩
    rintro b - ⟨rest, hrest, -⟩
    rw [hrest, List.length_append]
    exact Nat.le_add_right _ _
  exact parse_of_base? hbase (by simp) (by simp)

theorem isReading_of_parse {expr : Text} {e : Expression} (h : parse expr = .ok e) :
    base? expr = some e.base ∧ IsReading expr e := by
  rw [parse] at h
  split at h
  · cases h
  · next base hbase =>
    split at h
    · next offsets hoffsets =>
      cases h
      obtain ⟨hgrammar, rest, hrest, -⟩ := isBase_of_base? hbase
      obtain ⟨htoken, hspelt⟩ := eq_flatMap_of_offsetsFrom hoffsets
      refine ⟨hbase, hgrammar, htoken, ?_⟩
      rw [hrest, List.drop_left] at hspelt
      rw [toText, ← hspelt, hrest]
    · cases h

/-- A text with a reading is read, and the reading found is that one or the one with the month and
day for the day of the month. -/
theorem exists_parse_of_isReading {expr : Text} {e' : Expression} (h : IsReading expr e') :
    ∃ e, parse expr = .ok e ∧ (e' = e ∨ ∃ token, IsDigits 2 e'.base ∧ IsDigits 2 token ∧
      e.base = e'.base ++ '-' :: token ∧ e'.offsets = ⟨.minus, token⟩ :: e.offsets) := by
  obtain ⟨b, hb, hle⟩ := exists_base?_of_leads h.base h.leads
  obtain ⟨hgrammar, hleads⟩ := isBase_of_base? hb
  rcases Nat.eq_or_lt_of_le hle with hlen | hlt
  · have hbase : e'.base = b := eq_of_leads h.leads hleads hlen
    exact ⟨e', parse_of_base? (hbase ▸ hb) h.token h.toText.symm, Or.inl rfl⟩
  · obtain ⟨token, hday, htoken, rfl⟩ := hgrammar.eq_append_of_lt hleads h.base h.leads hlt
    obtain ⟨rest, hrest, hboundary⟩ := hleads
    have hdash : e'.offsets.flatMap Offset.toText = '-' :: (token ++ rest) := by
      have hspelt := h.toText
      rw [toText, hrest, List.append_assoc] at hspelt
      exact List.append_cancel_left hspelt
    -- what follows the shorter base is read as an offset of two digits
    cases hoffsets : e'.offsets with
    | nil =>
      rw [hoffsets] at hdash
      cases hdash
    | cons o offsets =>
      rw [hoffsets, List.flatMap_cons, Offset.toText, List.cons_append] at hdash
      obtain ⟨hsign, htail⟩ := List.cons.inj hdash
      have ho : o.token = token := (h.token o (by simp [hoffsets])).eq_of_leads
        ⟨_, htail.symm, boundary_flatMap offsets⟩ htoken.isToken ⟨rest, rfl, hboundary⟩
      rw [ho] at htail
      have hafter : offsets.flatMap Offset.toText = rest := List.append_cancel_left htail
      refine ⟨⟨_, offsets⟩, parse_of_base? hb (fun p hp ↦ h.token p (by simp [hoffsets, hp])) ?_,
        Or.inr ⟨token, hday, htoken, rfl, ?_⟩⟩
      · rw [hrest, hafter]
      · have hminus : o.sign = .minus := by
          cases hs : o.sign with
          | plus => rw [hs] at hsign; cases hsign
          | minus => rfl
        rw [← ho, ← hminus]

theorem parse_eq_ok_iff {expr : Text} {e : Expression} : parse expr = .ok e ↔
    IsReading expr e ∧ ∀ e', IsReading expr e' → e'.base.length ≤ e.base.length := by
  constructor
  · intro h
    obtain ⟨hbase, hreading⟩ := isReading_of_parse h
    exact ⟨hreading, fun e' he' ↦ (base?_eq_some_iff.mp hbase).2 e'.base he'.base he'.leads⟩
  · rintro ⟨hreading, hlongest⟩
    obtain ⟨e', he', rfl | ⟨token, -, -, hbase, -⟩⟩ := exists_parse_of_isReading hreading
    · exact he'
    · have hle := hlongest e' (isReading_of_parse he').2
      rw [hbase, List.length_append, List.length_cons] at hle
      omega

example : parse "03-05-1d".toList = .ok ⟨"03-05".toList, [⟨.minus, "1d".toList⟩]⟩ := rfl

example : parse "03-055".toList = .ok ⟨"03".toList, [⟨.minus, "055".toList⟩]⟩ := rfl

/-- **Reading loses nothing.** A text is taken apart exactly if the grammar takes it apart, into the
reading with the longest base; of other readings there is at most the one that takes the month for a
day of the month. A text that is refused has no base, or something is wrong with its offsets. -/
theorem parse_iff_reading (expr : Text) :
    ((∃ e, parse expr = .ok e) ↔ ∃ e, IsReading expr e) ∧
    (∀ parts, (parse expr).map items = .ok parts ↔
      ∃ base offsets, parts = ⟨.plus, base⟩ :: offsets ∧ IsReading expr ⟨base, offsets⟩ ∧
        ∀ e', IsReading expr e' → e'.base.length ≤ base.length) ∧
    (∀ e e', parse expr = .ok e → IsReading expr e' → e' = e ∨
      ∃ token, IsDigits 2 e'.base ∧ IsDigits 2 token ∧ e.base = e'.base ++ '-' :: token ∧
        e'.offsets = ⟨.minus, token⟩ :: e.offsets) ∧
    ∀ error, parse expr = .error error →
      (error.kind = .base ↔ ¬ ∃ base, IsBase base ∧ Leads base expr) ∧
        (error.kind = .base ∨ error.kind = .offset) := by
  refine ⟨⟨?_, ?_⟩, fun parts ↦ ⟨?_, ?_⟩, ?_, ?_⟩
  · rintro ⟨e, he⟩
    exact ⟨e, (isReading_of_parse he).2⟩
  · rintro ⟨e', he'⟩
    obtain ⟨e, he, -⟩ := exists_parse_of_isReading he'
    exact ⟨e, he⟩
  · intro h
    cases he : parse expr with
    | error error =>
      rw [he] at h
      cases h
    | ok e =>
      rw [he] at h
      cases h
      obtain ⟨hreading, hlongest⟩ := parse_eq_ok_iff.mp he
      exact ⟨e.base, e.offsets, rfl, hreading, hlongest⟩
  · rintro ⟨base, offsets, rfl, hreading, hlongest⟩
    rw [parse_eq_ok_iff.mpr ⟨hreading, hlongest⟩]
    rfl
  · intro e e' he he'
    obtain ⟨e₂, he₂, hcases⟩ := exists_parse_of_isReading he'
    rw [he] at he₂
    cases he₂
    exact hcases
  · intro error herror
    -- the kind of the error tells whether a base was found
    rw [kind_of_parse herror]
    cases hbase : base? expr with
    | none =>
      refine ⟨iff_of_true (if_pos rfl) ?_, Or.inl (if_pos rfl)⟩
      rintro ⟨b, hb, hleads⟩
      exact base?_eq_none_iff.mp hbase b hb hleads
    | some b =>
      rw [if_neg (by simp)]
      exact ⟨iff_of_false (by simp) (not_not_intro ⟨b, isBase_of_base? hbase⟩), Or.inr rfl⟩

end Agenda.Expression
