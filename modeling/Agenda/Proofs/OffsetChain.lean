import Agenda.Proofs.DateText
import Agenda.Proofs.Moves
import Agenda.Proofs.Steps

/-!
# Chains of offsets

An expression whose base is an absolute day has the same day to start from on every base and over
all tags, so its offsets are all that matters. If each of them has a count, the expression is a
chain of moves: it goes from day to day until the end of the chain, or until a move leads out of the
calendar (`applyOffsets_eq_error_iff`). An offset may also lack its count. Then the chain ends there
at the latest, and what was reached before it decides which fault is found
(`applyOffsets_eq_error_iff_fails`).

## What a chain keeps

A single move keeps the order of days, so a chain does, whatever moves it is made of and in
whichever directions (`applyOffsets_le_applyOffsets`). It does not keep days apart: after a move by
months, days that were clamped to the end of a short month are the same, and a chain that goes there
and back ends on an earlier day than it began. That is the only way in which a move is not undone by
its opposite (`evaluate_there_and_back`).
-/

namespace Agenda

open Expression (IsBareUnit IsCount IsDigits IsToken toText)

variable {base a b d r ra rb : Date} {soonDays : Int} {tags : TagTable} {s t token : Text}
  {o : Offset} {offsets : List Offset} {unit : TimeUnit} {n : Nat} {error : DateError}

/-! ## Absolute days -/

/-- An absolute day as expressions have it. The reader of absolute days admits a space in them, and
expressions do not. -/
structure IsLiteral (s : Text) (d : Date) : Prop where
  /-- The text is read as the day. -/
  read : Date.ofText? s = some d
  /-- There is no space in it. -/
  noSpace : ' ' ∉ s

theorem IsLiteral.exists_digit (h : IsLiteral s d) : ∃ c s', s = c :: s' ∧ isDigit c = true := by
  obtain ⟨year, month, day, hy, -, -, rfl⟩ := Date.isDigits_of_ofText? h.read h.noSpace
  obtain ⟨c, year, rfl⟩ := List.exists_cons_of_length_eq_add_one hy.1
  exact ⟨c, _, rfl, hy.2 c List.mem_cons_self⟩

theorem IsLiteral.parse (h : IsLiteral s d) (htoken : ∀ o ∈ offsets, IsToken o.token) :
    Expression.parse (toText ⟨s, offsets⟩) = .ok ⟨s, offsets⟩ := by
  obtain ⟨year, month, day, hy, hm, hd, hs⟩ := Date.isDigits_of_ofText? h.read h.noSpace
  have hlength : s.length = 10 := by
    rw [hs, List.length_append, List.length_cons, List.length_append, List.length_cons, hy.1, hm.1,
      hd.1]
  refine Expression.parse_of_base? (Expression.base?_eq_some_iff.mpr ⟨⟨?_, ?_⟩, ?_⟩) htoken rfl
  · exact Date.isBase_of_ofText? h.read h.noSpace
  · exact ⟨_, rfl, Expression.boundary_flatMap offsets⟩
  · rintro b hb ⟨rest, hrest, -⟩
    obtain ⟨c, s', rfl, hc⟩ := h.exists_digit
    obtain ⟨c', b', rfl⟩ := List.exists_cons_of_ne_nil hb.ne_nil
    obtain ⟨rfl, -⟩ := List.cons.inj hrest
    have hdigit : IsDigits 1 [c] := ⟨rfl, List.forall_mem_singleton.mpr hc⟩
    have hlengths : (c :: b').length ∈ [10, 5, 2, 1] :=
      (show Expression.IsBase ([c] ++ b') from hb).length_of_digits hdigit
    simp only [List.mem_cons, List.not_mem_nil, or_false] at hlengths
    omega

/-- With an absolute day for its base, an expression stands for the same day on every base and over
all tags. -/
theorem IsLiteral.evaluate (h : IsLiteral s d) (htoken : ∀ o ∈ offsets, IsToken o.token) :
    (evaluate base soonDays tags (toText ⟨s, offsets⟩)).1 = applyOffsets d offsets := by
  have hparse := h.parse htoken
  have hliteral : literalDate base soonDays s = .ok d := literalDate_of_ofText? h.read h.noSpace
  obtain ⟨c, s', hs, hc⟩ := h.exists_digit
  have htext : toText ⟨s, offsets⟩ = c :: (s' ++ offsets.flatMap Expression.Offset.toText) := by
    rw [toText, hs, List.cons_append]
  have hname : referenceName? s = none := referenceName?_of_digit hc (htext ▸ hparse)
  rw [htext] at hparse ⊢
  rw [Agenda.evaluate, nestingLimit, evaluateWithin_of_digit hc,
    TagTable.directDate_of_parse hparse, hname, Option.bind_none, hliteral]
  rfl

/-! ## One offset -/

/-- From the day, the offset leads out of the calendar. -/
def Offset.LeadsOut (o : Offset) (d : Date) : Prop :=
  ∃ unit n, IsCount unit n o.token ∧ d.Leaves unit (o.sign.apply n)

/-- The offset is a move from the one day to the other. -/
def Offset.Moves (o : Offset) (d r : Date) : Prop :=
  ∃ unit n, IsCount unit n o.token ∧ d.add unit (o.sign.apply n) false = .ok r

/-- Why an offset does not move a day: it is a unit alone, or it leads out of the calendar. -/
inductive Offset.Fails (o : Offset) (d : Date) : DateError → Prop
  | noCount (h : IsBareUnit o.token) : Fails o d (.countExpected o.token)
  | outside (h : o.LeadsOut d) : Fails o d (.offsetOutside o.sign o.token)

theorem applyOffsets_cons (hcount : IsCount unit n o.token) : applyOffsets d (o :: offsets) =
    match d.add unit (o.sign.apply n) false with
    | .ok r => applyOffsets r offsets
    | .error _ => .error (.offsetOutside o.sign o.token) := by
  rw [applyOffsets, Expression.step_of_isCount hcount]
  rfl

theorem applyOffsets_cons_eq_ok_iff (hcount : IsCount unit n o.token) :
    applyOffsets d (o :: offsets) = .ok r ↔
      ∃ next, d.add unit (o.sign.apply n) false = .ok next ∧ applyOffsets next offsets = .ok r := by
  rw [applyOffsets_cons hcount]
  cases d.add unit (o.sign.apply n) false with
  | ok next => simp
  | error fault => simp

theorem moves_iff (hcount : IsCount unit n o.token) :
    o.Moves d r ↔ d.add unit (o.sign.apply n) false = .ok r := by
  constructor
  · rintro ⟨unit', n', hcount', hmove⟩
    obtain ⟨rfl, rfl⟩ := hcount.unique hcount'
    exact hmove
  · exact fun hmove ↦ ⟨unit, n, hcount, hmove⟩

theorem leadsOut_iff (hcount : IsCount unit n o.token) :
    o.LeadsOut d ↔ ∃ fault, d.add unit (o.sign.apply n) false = .error fault := by
  rw [Date.exists_add_eq_error_iff]
  constructor
  · rintro ⟨unit', n', hcount', hleaves⟩
    obtain ⟨rfl, rfl⟩ := hcount.unique hcount'
    exact hleaves
  · exact fun hleaves ↦ ⟨unit, n, hcount, hleaves⟩

theorem fails_iff_of_isCount (hcount : IsCount unit n o.token) :
    o.Fails d error ↔ o.LeadsOut d ∧ error = .offsetOutside o.sign o.token := by
  constructor
  · rintro (hbare | hout)
    · exact absurd hcount hbare.not_isCount
    · exact ⟨hout, rfl⟩
  · rintro ⟨hout, rfl⟩
    exact .outside hout

theorem fails_iff_of_isBareUnit (hbare : IsBareUnit o.token) :
    o.Fails d error ↔ error = .countExpected o.token := by
  constructor
  · rintro (- | ⟨unit, n, hcount, -⟩)
    · rfl
    · exact absurd hcount hbare.not_isCount
  · rintro rfl
    exact .noCount hbare

theorem not_moves_of_isBareUnit (hbare : IsBareUnit o.token) : ¬ o.Moves d r :=
  fun ⟨_, _, hcount, _⟩ ↦ hbare.not_isCount hcount

theorem applyOffsets_cons_eq_ok_iff_moves (htoken : IsToken o.token) :
    applyOffsets d (o :: offsets) = .ok r ↔
      ∃ next, o.Moves d next ∧ applyOffsets next offsets = .ok r := by
  rcases Expression.isToken_iff_bareUnit_or_count.mp htoken with hbare | ⟨unit, n, hcount⟩
  · simp [applyOffsets, hbare.step, not_moves_of_isBareUnit hbare]
  · simp only [applyOffsets_cons_eq_ok_iff hcount, moves_iff hcount]

theorem applyOffsets_cons_eq_error_iff (htoken : IsToken o.token) :
    applyOffsets d (o :: offsets) = .error error ↔
      o.Fails d error ∨ ∃ next, o.Moves d next ∧ applyOffsets next offsets = .error error := by
  rcases Expression.isToken_iff_bareUnit_or_count.mp htoken with hbare | ⟨unit, n, hcount⟩
  · simp [applyOffsets, hbare.step, not_moves_of_isBareUnit hbare, fails_iff_of_isBareUnit hbare,
      eq_comm]
  · rw [fails_iff_of_isCount hcount, leadsOut_iff hcount, applyOffsets_cons hcount]
    simp only [moves_iff hcount]
    cases d.add unit (o.sign.apply n) false with
    | ok next => simp
    | error fault => simp [eq_comm]

/-! ## The whole chain -/

theorem applyOffsets_le_applyOffsets (hcount : ∀ o ∈ offsets, ∃ unit n, IsCount unit n o.token)
    (hle : a.le b = true) (ha : applyOffsets a offsets = .ok ra)
    (hb : applyOffsets b offsets = .ok rb) : ra.le rb = true := by
  induction offsets generalizing a b with
  | nil =>
    cases ha
    cases hb
    exact hle
  | cons o offsets ih =>
    obtain ⟨⟨unit, n, ho⟩, hcount⟩ := List.forall_mem_cons.mp hcount
    obtain ⟨a', ha', ha⟩ := (applyOffsets_cons_eq_ok_iff ho).mp ha
    obtain ⟨b', hb', hb⟩ := (applyOffsets_cons_eq_ok_iff ho).mp hb
    exact ih hcount (Date.add_le_add hle ha' hb') ha hb

/-- From one day to another by moves, all of them within the calendar. -/
inductive Date.Reaches : Date → List Offset → Date → Prop
  | here {d : Date} : Reaches d [] d
  | move {d next r : Date} {o : Offset} {offsets : List Offset} (hmove : o.Moves d next)
    (hrest : Reaches next offsets r) : Reaches d (o :: offsets) r

theorem applyOffsets_eq_ok_iff_reaches (htoken : ∀ o ∈ offsets, IsToken o.token) :
    applyOffsets d offsets = .ok r ↔ d.Reaches offsets r := by
  induction offsets generalizing d with
  | nil =>
    constructor
    · rintro ⟨⟩
      exact .here
    · rintro ⟨⟩
      rfl
  | cons o offsets ih =>
    obtain ⟨ho, hrest⟩ := List.forall_mem_cons.mp htoken
    rw [applyOffsets_cons_eq_ok_iff_moves ho]
    constructor
    · rintro ⟨next, hmove, hr⟩
      exact .move hmove ((ih hrest).mp hr)
    · rintro (_ | ⟨hmove, hr⟩)
      exact ⟨_, hmove, (ih hrest).mpr hr⟩

/-- Offsets fail at the first of them that does not move the day reached before it. -/
theorem applyOffsets_eq_error_iff_fails (htoken : ∀ o ∈ offsets, IsToken o.token) :
    applyOffsets d offsets = .error error ↔ ∃ before o after r, offsets = before ++ o :: after ∧
      d.Reaches before r ∧ o.Fails r error := by
  induction offsets generalizing d with
  | nil => simp [applyOffsets]
  | cons o offsets ih =>
    obtain ⟨ho, hrest⟩ := List.forall_mem_cons.mp htoken
    rw [applyOffsets_cons_eq_error_iff ho]
    constructor
    · rintro (hfails | ⟨next, hmove, htail⟩)
      · exact ⟨[], o, offsets, d, rfl, .here, hfails⟩
      · obtain ⟨before, o', after, r, rfl, hbefore, hfails⟩ := (ih hrest).mp htail
        exact ⟨o :: before, o', after, r, rfl, .move hmove hbefore, hfails⟩
    · rintro ⟨before, o', after, r, hsplit, hbefore, hfails⟩
      cases hbefore with
      | here =>
        obtain ⟨rfl, rfl⟩ := List.cons.inj hsplit
        exact .inl hfails
      | move hmove hbefore =>
        obtain ⟨rfl, rfl⟩ := List.cons.inj hsplit
        exact .inr ⟨_, hmove, (ih hrest).mpr ⟨_, o', after, r, rfl, hbefore, hfails⟩⟩

/-- A chain fails at the first of its offsets that leads out of the calendar, and only there. -/
theorem applyOffsets_eq_error_iff (hcount : ∀ o ∈ offsets, ∃ unit n, IsCount unit n o.token) :
    applyOffsets d offsets = .error error ↔ ∃ before o after r, offsets = before ++ o :: after ∧
      applyOffsets d before = .ok r ∧ o.LeadsOut r ∧ error = .offsetOutside o.sign o.token := by
  have htoken : ∀ o ∈ offsets, IsToken o.token := fun o ho ↦
    Expression.isToken_iff_bareUnit_or_count.mpr (.inr (hcount o ho))
  have hreach : ∀ {before o after r}, offsets = before ++ o :: after →
      (applyOffsets d before = .ok r ↔ d.Reaches before r) := by
    rintro before o after r rfl
    exact applyOffsets_eq_ok_iff_reaches fun p hp ↦ htoken p (List.mem_append_left _ hp)
  rw [applyOffsets_eq_error_iff_fails htoken]
  constructor
  · rintro ⟨before, o, after, r, hsplit, hbefore, hbare | hout⟩
    · obtain ⟨unit, n, ho⟩ := hcount o (by simp [hsplit])
      exact absurd ho hbare.not_isCount
    · exact ⟨before, o, after, r, hsplit, (hreach hsplit).mpr hbefore, hout, rfl⟩
  · rintro ⟨before, o, after, r, hsplit, hbefore, hout, rfl⟩
    exact ⟨before, o, after, r, hsplit, (hreach hsplit).mp hbefore, .outside hout⟩

/-- **Chains of offsets.** Of two absolute days, the earlier one stays the earlier one or meets the
later one if both are moved by the same chain of counts to a day. A chain fails exactly if one of
its moves leads out of the calendar, and the first such offset is to blame. -/
theorem evaluate_chain (base : Date) (soonDays : Int) (tags : TagTable) {x y : Date}
    (hs : IsLiteral s x) (ht : IsLiteral t y) (hle : x.le y = true)
    (hparse : Expression.parse (toText ⟨s, offsets⟩) = .ok ⟨s, offsets⟩)
    (hdigit : ∀ o ∈ offsets, ∃ c ∈ o.token, isDigit c = true) :
    (∀ rx ry, (evaluate base soonDays tags (toText ⟨s, offsets⟩)).1 = .ok rx →
      (evaluate base soonDays tags (toText ⟨t, offsets⟩)).1 = .ok ry → rx.le ry = true) ∧
    ∀ error, (evaluate base soonDays tags (toText ⟨s, offsets⟩)).1 = .error error ↔
      ∃ before o after r, offsets = before ++ o :: after ∧
        (evaluate base soonDays tags (toText ⟨s, before⟩)).1 = .ok r ∧ o.LeadsOut r ∧
        error = .offsetOutside o.sign o.token ∧ error.kind = .offset ∧ error.token = o.token := by
  have htoken : ∀ o ∈ offsets, IsToken o.token := (Expression.isReading_of_parse hparse).2.token
  have hcount : ∀ o ∈ offsets, ∃ unit n, IsCount unit n o.token := fun o ho ↦
    Expression.exists_isCount_of_isToken (htoken o ho) (hdigit o ho)
  refine ⟨fun rx ry hx hy ↦ ?_, fun error ↦ ?_⟩
  · rw [hs.evaluate htoken] at hx
    rw [ht.evaluate htoken] at hy
    exact applyOffsets_le_applyOffsets hcount hle hx hy
  · rw [hs.evaluate htoken, applyOffsets_eq_error_iff hcount]
    constructor
    · rintro ⟨before, o, after, r, rfl, hbefore, hout, rfl⟩
      refine ⟨before, o, after, r, rfl, ?_, hout, rfl, rfl, rfl⟩
      rw [hs.evaluate fun o ho ↦ htoken o (List.mem_append_left _ ho)]
      exact hbefore
    · rintro ⟨before, o, after, r, rfl, hbefore, hout, herror, -⟩
      rw [hs.evaluate fun o ho ↦ htoken o (List.mem_append_left _ ho)] at hbefore
      exact ⟨before, o, after, r, rfl, hbefore, hout, herror⟩

theorem evaluate_chain_january :
    let x : Date := ⟨2020, 1, 30, by decide⟩
    let y : Date := ⟨2020, 1, 31, by decide⟩
    let chain : List Offset :=
      [⟨.plus, "1m".toList⟩, ⟨.minus, "30".toList⟩, ⟨.plus, "8000Y".toList⟩]
    (IsLiteral "2020-01-30".toList x ∧ IsLiteral "2020-01-31".toList y ∧ x.le y = true ∧
      Expression.parse "2020-01-30+1m-30+8000Y".toList = .ok ⟨"2020-01-30".toList, chain⟩ ∧
      ∀ o ∈ chain, ∃ c ∈ o.token, isDigit c = true) ∧
    (∀ rx ry, (evaluate x 7 .empty "2020-01-30+1m-30+8000Y".toList).1 = .ok rx →
      (evaluate x 7 .empty "2020-01-31+1m-30+8000Y".toList).1 = .ok ry → rx.le ry = true) ∧
    (evaluate x 7 .empty "2020-01-30+1m-30+8000Y".toList).1 =
      .error (.offsetOutside .plus "8000Y".toList) := by
  intro x y chain
  have hx : IsLiteral "2020-01-30".toList x := ⟨by decide, by decide⟩
  have hy : IsLiteral "2020-01-31".toList y := ⟨by decide, by decide⟩
  have hle : x.le y = true := by decide
  have hparse : Expression.parse (toText ⟨"2020-01-30".toList, chain⟩) =
    .ok ⟨"2020-01-30".toList, chain⟩ := rfl
  have hcounts : ∀ o ∈ chain, o.token.any isDigit = true := by decide
  have hdigit : ∀ o ∈ chain, ∃ c ∈ o.token, isDigit c = true := fun o ho ↦
    List.any_eq_true.mp (hcounts o ho)
  obtain ⟨horder, herror⟩ := evaluate_chain x 7 .empty hx hy hle hparse hdigit
  have hstart : (evaluate x 7 .empty "2020-01-30+1m-30".toList).1 = .ok x :=
    eq_ok_of_toOption (by decide +kernel)
  have hcount : IsCount .year 8000 ("8000".toList ++ ['Y']) := .units rfl rfl rfl
  refine ⟨⟨hx, hy, hle, hparse, hdigit⟩, horder, (herror _).mpr ?_⟩
  exact ⟨[⟨.plus, "1m".toList⟩, ⟨.minus, "30".toList⟩], ⟨.plus, "8000Y".toList⟩, [], x, rfl,
    hstart, ⟨.year, 8000, hcount, by decide⟩, rfl, rfl, rfl⟩

/-! ## There and back -/

/-- The other direction. -/
def Sign.opposite : Sign → Sign
  | plus => minus
  | minus => plus

theorem Sign.apply_opposite (sign : Sign) (n : Nat) : sign.opposite.apply n = -sign.apply n := by
  cases sign with
  | plus => rfl
  | minus => exact (Int.neg_neg n).symm

/-- **There and back.** A count that leads from an absolute day to a day, followed by the same count
in the other direction, stands for a day. With days or weeks that is the day to begin with. With
months or years it is in the same month, on the same day as far as the month on the way has that
day, so it is the day to begin with exactly if that month is long enough. -/
theorem evaluate_there_and_back {x r : Date} (hs : IsLiteral s x) (hcount : IsCount unit n token)
    (sign : Sign)
    (h : (evaluate base soonDays tags (toText ⟨s, [⟨sign, token⟩]⟩)).1 = .ok r) :
    ∃ back, (evaluate base soonDays tags
        (toText ⟨s, [⟨sign, token⟩, ⟨sign.opposite, token⟩]⟩)).1 = .ok back ∧
      (unit = .day ∨ unit = .week → back = x) ∧
      (unit = .month ∨ unit = .year → (back.year = x.year ∧ back.month = x.month) ∧
        back.day = min x.day r.monthDays ∧ (back = x ↔ x.day ≤ r.monthDays)) := by
  have hboth : ∀ o ∈ [(⟨sign, token⟩ : Offset), ⟨sign.opposite, token⟩], IsToken o.token := by
    simpa using hcount.isToken
  have hthere : x.add unit (sign.apply n) false = .ok r := by
    rw [hs.evaluate (by simpa using hcount.isToken), applyOffsets_cons_eq_ok_iff hcount] at h
    obtain ⟨next, hnext, hr⟩ := h
    cases hr
    exact hnext
  have hchain : ∀ back, r.add unit (-sign.apply n) false = .ok back →
      (evaluate base soonDays tags
        (toText ⟨s, [⟨sign, token⟩, ⟨sign.opposite, token⟩]⟩)).1 = .ok back := by
    intro back hback
    rw [← Sign.apply_opposite] at hback
    rw [hs.evaluate hboth, applyOffsets_cons_eq_ok_iff hcount]
    exact ⟨r, hthere, (applyOffsets_cons_eq_ok_iff hcount).mpr ⟨back, hback, rfl⟩⟩
  -- days and weeks are undone exactly, months and years up to the length of the month
  obtain ⟨k, -, ⟨hunit, -⟩ | ⟨hunit, -⟩⟩ := unit.exists_factor
  · refine ⟨x, hchain x (Date.add_neg_of_days hunit hthere), fun _ ↦ rfl, fun hmonths ↦ ?_⟩
    exact absurd hmonths (TimeUnit.not_months_of_days hunit)
  · obtain ⟨back, hback, hmonth, hday⟩ := Date.exists_add_neg_of_months hunit hthere
    refine ⟨back, hchain back hback, fun hdays ↦ ?_, fun _ ↦ ⟨hmonth, hday, ?_, fun hlong ↦ ?_⟩⟩
    · exact absurd hunit (TimeUnit.not_months_of_days hdays)
    · rintro rfl
      omega
    · exact Date.ext_parts hmonth.1 hmonth.2 (by omega)

theorem evaluate_there_and_back_january :
    let x : Date := ⟨2020, 1, 31, by decide⟩
    let r : Date := ⟨2020, 2, 29, by decide⟩
    (IsLiteral "2020-01-31".toList x ∧ IsCount .month 1 "1m".toList ∧
      (evaluate x 7 .empty "2020-01-31+1m".toList).1 = .ok r) ∧
    ∃ back, (evaluate x 7 .empty "2020-01-31+1m-1m".toList).1 = .ok back ∧ back.day = 29 ∧
      back ≠ x := by
  intro x r
  have hx : IsLiteral "2020-01-31".toList x := ⟨by decide, by decide⟩
  have hcount : IsCount .month 1 (['1'] ++ ['m']) := .units rfl rfl rfl
  have hthere : (evaluate x 7 .empty "2020-01-31+1m".toList).1 = .ok r :=
    eq_ok_of_toOption (by decide +kernel)
  obtain ⟨back, hback, -, hmonths⟩ := evaluate_there_and_back hx hcount .plus hthere
  obtain ⟨-, hday, hsame⟩ := hmonths (.inl rfl)
  have hshort : ¬ x.day ≤ r.monthDays := by decide
  exact ⟨⟨hx, hcount, hthere⟩, back, hback, hday.trans (by decide), hshort ∘ hsame.mp⟩

end Agenda
