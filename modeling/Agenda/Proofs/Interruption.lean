import Agenda.Proofs.ClampedDays
import Agenda.Proofs.ErrorKind
import Agenda.Proofs.Reference
import Agenda.Rewriting

/-!
# Faults of the calendar do not escape

A calculation in the calendar can leave it, and such a fault is no error that a user of the library
should meet. Here the functions that find a day are written once more, each with its calendar
calculations left to fail in the middle: the fault stops whatever is going on until it is caught. It
is caught in two places only. A date word is read as a whole and any fault on the way turns into the
one error that the word lies outside the calendar; of the offsets of an expression each is caught by
itself. Nothing is caught around an expression, along a chain of references or while a text is
rewritten.

Those two places are enough. The functions of this form have the answers and the errors of the
others and never end in a fault (`only_errors_escape`). The error that a word is an absolute day
comes from the reader of date words alone, and for exactly the words of digits and dashes that have
two dashes or more (`DateWord.resolve_eq_absolute_iff`).
-/

namespace Agenda

/-- What stops a calculation of days. -/
inductive Interruption where
  /-- The calendar was left. -/
  | fault (fault : CalendarFault)
  /-- An error of the library was met. -/
  | refused (error : DateError)

namespace Interruptible

/-- Lets the faults of a calculation in the calendar through. -/
def ofFault {α : Type} (x : Except CalendarFault α) : Except Interruption α := x.mapError .fault

/-- Lets errors through. -/
def ofError {α : Type} (x : Except DateError α) : Except Interruption α := x.mapError .refused

@[simp] theorem ofFault_ok {α : Type} (a : α) : ofFault (.ok a) = .ok a := rfl

@[simp] theorem ofFault_error {α : Type} (fault : CalendarFault) :
    ofFault (.error fault : Except CalendarFault α) = .error (.fault fault) := rfl

@[simp] theorem ofError_ok {α : Type} (a : α) : ofError (.ok a) = .ok a := rfl

@[simp] theorem ofError_error {α : Type} (error : DateError) :
    ofError (.error error : Except DateError α) = .error (.refused error) := rfl

/-- Turns any fault into an error. -/
def catchFault {α : Type} (error : DateError) : Except Interruption α → Except Interruption α
  | .error (.fault _) => .error (.refused error)
  | answer => answer

/-! ## Date words -/

/-- The day with these parts. -/
def date (year month day : Nat) : Except Interruption Date :=
  match Date.ofParts? year month day with
  | some d => .ok d
  | none => .error (.fault (.yearOutside year))

/-- The next day with this number. -/
def dayOfMonth (base : Date) (token : Text) : Except Interruption Date :=
  let n := Text.toNat (Text.chomp token)
  if n = 0 || 31 < n then .error (.refused (.dayTooBig n token))
  else
    let index := base.monthIndex + if n ≤ base.day then 1 else 0
    let (year, month) := ((index / 12).toNat, (index % 12).toNat + 1)
    let last := monthLength (isLeap year) month
    date year month (if last ≤ n || base.monthDays ≤ n then last else n)

/-- The first day on or after the base that falls on the given month and day. -/
def monthDay (base : Date) (token month day : Text) : Except Interruption Date :=
  if !Text.isNumber month then .error (.refused (.monthNotANumber month token))
  else if !Text.isNumber day then .error (.refused (.dayNotANumber day token))
  else
    let m := Text.toNat month
    let d := Text.toNat day
    if m < 1 || 12 < m then .error (.refused (.noSuchMonth m token))
    else if d < 1 || 31 < d then .error (.refused (.noSuchDay d token))
    else
      (date base.year m (min d (monthLength (isLeap base.year) m))).bind fun r ↦
        if base.le r then .ok r
        else date (base.year + 1) m (min d (monthLength (isLeap (base.year + 1 : Nat)) m))

/-- The day at an offset. -/
def offset (base : Date) (token : Text) : Except Interruption Date :=
  (ofFault (DateWord.offsetFrom 0 base token)).bind fun r ↦
    if r = base then .error (.refused (.unknownWord token)) else .ok r

/-- The day that a keyword or the name of a weekday stands for. -/
def spoken (base : Date) (soonDays : Int) (token : Text) : Except Interruption Date :=
  match DateWord.spokenDay? base soonDays (DateWord.plainWord token) with
  | some answer => ofFault answer
  | none => .error (.refused (.unknownWord token))

/-- The calculation of the day that a date word stands for. -/
def calculate (base : Date) (soonDays : Int) (token : Text) : Except Interruption Date :=
  if DateWord.isDayOfMonth token then dayOfMonth base token
  else if DateWord.isDashed token then
    match Text.cut? ['-'] token with
    | some (month, day) =>
      if '-' ∈ day then .error (.refused (.absolute token)) else monthDay base token month day
    | none => .error (.refused (.absolute token))
  else if DateWord.isOffset token then offset base token
  else spoken base soonDays token

/-- The day that a date word stands for. Faults are caught around the calculation as a whole. -/
def resolve (base : Date) (soonDays : Int) (token : Text) : Except Interruption Date :=
  if token.isEmpty then .error (.refused .emptyWord)
  else catchFault (.outside token) (calculate base soonDays token)

/-! ## Expressions -/

/-- The day that a token without a tag stands for. -/
def literalDate (base : Date) (soonDays : Int) (token : Text) : Except Interruption Date :=
  match resolve base soonDays token with
  | .error (.refused (.absolute _)) =>
    match Date.ofText? token with
    | some d => .ok d
    | none => .error (.refused (.noSuchDate token))
  | result => result

/-- The day after the offsets of an expression. Faults are caught around each of them. -/
def applyOffsets (d : Date) : List Offset → Except Interruption Date
  | [] => .ok d
  | o :: os =>
    (ofError (Expression.step o.token)).bind fun step ↦
      (catchFault (.offsetOutside o.sign o.token) (ofFault (step.apply d o.sign))).bind fun r ↦
        applyOffsets r os

/-- Evaluates an expression with a budget of nested evaluations. -/
def evaluateWithin (base : Date) (soonDays : Int) :
    Nat → TagTable → Text → Except Interruption Date × TagTable
  | 0, tags, expr => (.error (.refused (.tooDeep expr)), tags)
  | budget + 1, tags, expr =>
    if expr.isEmpty then (.error (.refused .emptyExpression), tags)
    else
      match Expression.parse expr with
      | .error error => (.error (.refused error), tags)
      | .ok e =>
        let reference := (referenceName? e.base).bind fun name ↦
          (tags.value? name).map fun value ↦ (name, value)
        let (start, tags) : Except Interruption Date × TagTable :=
          match reference with
          | none => (literalDate base soonDays e.base, tags)
          | some (_, .date d) => (.ok d, tags)
          | some (name, .raw text) =>
            match evaluateWithin base soonDays budget tags text with
            | (.ok d, tags) => (.ok d, tags.set name d)
            | failed => failed
        (start.bind (applyOffsets · e.offsets), tags)

/-- Evaluates an expression against a base day and the tags of a task. -/
def evaluate (base : Date) (soonDays : Int) (tags : TagTable) (expr : Text) :
    Except Interruption Date × TagTable :=
  evaluateWithin base soonDays nestingLimit tags expr

/-! ## Texts -/

/-- Resolves the given tags in order. -/
def resolveTags (base : Date) (soonDays : Int) :
    List Text → TagTable → Except Interruption Bool × TagTable
  | [], tags => (.ok false, tags)
  | name :: names, tags =>
    match tags.value? name with
    | some (.raw text) =>
      match evaluate base soonDays tags text with
      | (.error interruption, tags) => (.error interruption, tags)
      | (.ok d, tags) =>
        if d.toText = text then resolveTags base soonDays names tags
        else
          match resolveTags base soonDays names (tags.set name d) with
          | (.ok _, tags) => (.ok true, tags)
          | failed => failed
    | _ => resolveTags base soonDays names tags

/-- The text with the expressions of its main tags replaced by days. -/
def resolveText (base : Date) (soonDays : Int) (text : Text) : Except Interruption Text :=
  match resolveTags base soonDays mainTags (.ofText text base) with
  | (.ok true, tags) => .ok (updateText tags text)
  | (.ok false, _) => .ok text
  | (.error interruption, _) => .error interruption

/-! ## Faults that are caught -/

theorem catchFault_date (error : DateError) (year month day : Nat) :
    catchFault error (date year month day) =
      ofError (match Date.ofParts? year month day with
        | some r => .ok r
        | none => .error error) := by
  rw [date]
  cases Date.ofParts? year month day <;> rfl

theorem catchFault_ofFault {α : Type} (error : DateError) (x : Except CalendarFault α) :
    catchFault error (ofFault x) =
      ofError (match x with
        | .ok r => .ok r
        | .error _ => .error error) := by
  cases x <;> rfl

theorem catchFault_dayOfMonth (base : Date) (token : Text) :
    catchFault (.outside token) (dayOfMonth base token) =
      ofError (DateWord.dayOfMonth base token) := by
  rw [dayOfMonth, DateWord.dayOfMonth]
  split
  · rfl
  · exact catchFault_date _ _ _ _

theorem catchFault_monthDay (base : Date) (token month day : Text) :
    catchFault (.outside token) (monthDay base token month day) =
      ofError (DateWord.monthDay base token month day) := by
  rw [monthDay, DateWord.monthDay]
  split
  · rfl
  · split
    · rfl
    · dsimp only
      split
      · rfl
      · next hmonth =>
        split
        · rfl
        · next hday =>
          -- of the two days that may be calculated only the later one can fail
          simp only [Bool.or_eq_true, decide_eq_true_eq] at hmonth hday
          have hm : 1 ≤ Text.toNat month ∧ Text.toNat month ≤ 12 := by omega
          have hn : 1 ≤ Text.toNat day := by omega
          obtain ⟨r, hr⟩ := DateWord.exists_clampedDay? base hm hn
          have hfirst : date base.year (Text.toNat month) (min (Text.toNat day)
              (monthLength (isLeap base.year) (Text.toNat month))) = .ok r := by
            rw [date, ← DateWord.clampedDay?, hr]
          rw [hfirst, hr]
          cases hle : base.le r with
          | true => simp [Except.bind, Option.filter, hle, catchFault]
          | false =>
            have hnone : (some r).filter (base.le ·) = none := by simp [Option.filter, hle]
            rw [hnone]
            simp only [Except.bind, hle]
            exact catchFault_date _ _ _ _

theorem catchFault_offset (base : Date) (token : Text) :
    catchFault (.outside token) (offset base token) = ofError (DateWord.offset base token) := by
  rw [offset, DateWord.offset]
  cases DateWord.offsetFrom 0 base token with
  | error fault => rfl
  | ok r =>
    simp only [ofFault_ok, Except.bind]
    split <;> rfl

theorem catchFault_spoken (base : Date) (soonDays : Int) (token : Text) :
    catchFault (.outside token) (spoken base soonDays token) =
      ofError (DateWord.spoken base soonDays token) := by
  rw [spoken, DateWord.spoken]
  rcases DateWord.spokenDay? base soonDays (DateWord.plainWord token) with _ | fault | r
  · rfl
  · rfl
  · rfl

/-- Around a date word every fault is caught. -/
theorem resolve_eq (base : Date) (soonDays : Int) (token : Text) :
    resolve base soonDays token = ofError (DateWord.resolve base soonDays token) := by
  rw [resolve, DateWord.resolve]
  split
  · rfl
  · rw [calculate]
    split
    · exact catchFault_dayOfMonth base token
    · split
      · rcases Text.cut? ['-'] token with _ | ⟨month, day⟩
        · rfl
        · dsimp only
          split
          · rfl
          · exact catchFault_monthDay base token month day
      · split
        · exact catchFault_offset base token
        · exact catchFault_spoken base soonDays token

theorem literalDate_eq (base : Date) (soonDays : Int) (token : Text) :
    literalDate base soonDays token = ofError (Agenda.literalDate base soonDays token) := by
  rw [literalDate, Agenda.literalDate, resolve_eq]
  cases DateWord.resolve base soonDays token with
  | ok d => rfl
  | error error =>
    cases error with
    | absolute token' =>
      dsimp only [ofError_error]
      cases Date.ofText? token <;> rfl
    | _ => rfl

theorem applyOffsets_eq (d : Date) (offsets : List Offset) :
    applyOffsets d offsets = ofError (Agenda.applyOffsets d offsets) := by
  induction offsets generalizing d with
  | nil => rfl
  | cons o offsets ih =>
    rw [applyOffsets, Agenda.applyOffsets]
    cases Expression.step o.token with
    | error error => rfl
    | ok step =>
      dsimp only [ofError_ok, Except.bind]
      rw [catchFault_ofFault]
      cases step.apply d o.sign with
      | error fault => rfl
      | ok r => exact ih r

theorem evaluateWithin_eq (base : Date) (soonDays : Int) (budget : Nat) (tags : TagTable)
    (expr : Text) : evaluateWithin base soonDays budget tags expr =
      (ofError (Agenda.evaluateWithin base soonDays budget tags expr).1,
        (Agenda.evaluateWithin base soonDays budget tags expr).2) := by
  induction budget generalizing expr with
  | zero => rfl
  | succ budget ih =>
    rw [evaluateWithin, Agenda.evaluateWithin]
    split
    · rfl
    · cases Expression.parse expr with
      | error error => rfl
      | ok e =>
        dsimp only
        -- the base names nothing, a text or a day
        rcases (referenceName? e.base).bind fun name ↦
          (tags.value? name).map fun value ↦ (name, value) with _ | ⟨name, text | d⟩
        · dsimp only
          rw [literalDate_eq]
          cases Agenda.literalDate base soonDays e.base with
          | error error => rfl
          | ok d => exact congrArg (·, tags) (applyOffsets_eq d e.offsets)
        · dsimp only
          rw [ih]
          rcases Agenda.evaluateWithin base soonDays budget tags text with ⟨error | d, tags'⟩
          · rfl
          · exact congrArg (·, tags'.set name d) (applyOffsets_eq d e.offsets)
        · exact congrArg (·, tags) (applyOffsets_eq d e.offsets)

theorem evaluate_eq (base : Date) (soonDays : Int) (tags : TagTable) (expr : Text) :
    evaluate base soonDays tags expr = (ofError (Agenda.evaluate base soonDays tags expr).1,
      (Agenda.evaluate base soonDays tags expr).2) :=
  evaluateWithin_eq base soonDays nestingLimit tags expr

theorem resolveTags_eq (base : Date) (soonDays : Int) (names : List Text) (tags : TagTable) :
    resolveTags base soonDays names tags =
      (ofError (Agenda.resolveTags base soonDays names tags).1,
        (Agenda.resolveTags base soonDays names tags).2) := by
  induction names generalizing tags with
  | nil => rfl
  | cons name names ih =>
    rw [resolveTags, Agenda.resolveTags]
    rcases tags.value? name with _ | text | d
    · exact ih tags
    · dsimp only
      rw [evaluate_eq]
      rcases Agenda.evaluate base soonDays tags text with ⟨error | d, tags'⟩
      · rfl
      · dsimp only [ofError_ok]
        split
        · exact ih tags'
        · rw [ih]
          rcases Agenda.resolveTags base soonDays names (tags'.set name d) with
            ⟨error | rewritten, tags''⟩
          · rfl
          · rfl
    · exact ih tags

theorem resolveText_eq (base : Date) (soonDays : Int) (text : Text) :
    resolveText base soonDays text = ofError (Agenda.resolveText base soonDays text) := by
  rw [resolveText, Agenda.resolveText, resolveTags_eq, resolveMainTags]
  rcases Agenda.resolveTags base soonDays mainTags (.ofText text base) with
    ⟨error | _ | _, tags⟩
  · rfl
  · rfl
  · rfl

end Interruptible

/-! ## What escapes -/

theorem kind_of_evaluateWithin {base : Date} {soonDays : Int} {n : Nat} {tags : TagTable}
    {expr : Text} {error : DateError}
    (h : (evaluateWithin base soonDays n tags expr).1 = .error error) :
    error.kind ≠ .absolute := by
  induction n generalizing expr error with
  | zero =>
    rw [evaluateWithin] at h
    cases h
    simp [DateError.kind]
  | succ n ih =>
    cases hr : tags.reference? expr with
    | none =>
      rw [evaluateWithin_of_none n hr] at h
      exact ne_of_mem_of_not_mem (TagTable.kind_of_directDate h) (by decide)
    | some r =>
      rw [evaluateWithin_of_some n hr] at h
      rcases error_of_bind h with hnested | ⟨d, -, happly⟩
      · exact ih hnested
      · exact ne_of_mem_of_not_mem (kind_of_applyOffsets happly) (by decide)

theorem kind_of_resolveTags {base : Date} {soonDays : Int} {names : List Text} {tags : TagTable}
    {error : DateError} (h : (resolveTags base soonDays names tags).1 = .error error) :
    error.kind ≠ .absolute := by
  induction names generalizing tags with
  | nil => cases h
  | cons name names ih =>
    rw [resolveTags] at h
    split at h
    · next text _ =>
      split at h
      · next error' tags' hanswer =>
        cases h
        exact kind_of_evaluateWithin (congrArg Prod.fst hanswer)
      · next d tags' hanswer =>
        split at h
        · exact ih h
        · split at h
          · cases h
          · exact ih h
    · exact ih h

theorem kind_of_resolveText {base : Date} {soonDays : Int} {text : Text} {error : DateError}
    (h : resolveText base soonDays text = .error error) : error.kind ≠ .absolute := by
  rw [resolveText] at h
  split at h
  · cases h
  · cases h
  · next hresult =>
    cases h
    exact kind_of_resolveTags (congrArg Prod.fst hresult)

/-- **Only errors escape.** Faults of the calendar are left to stop a calculation wherever they
arise, except for the two places where they are caught. Then reading a date word ends with a day of
the calendar or an error of the library, and so does evaluating an expression over any table and
rewriting a text, where the error is never that a word is an absolute day. -/
theorem only_errors_escape (base : Date) (soonDays : Int) :
    (∀ token, Interruptible.resolve base soonDays token =
        Interruptible.ofError (DateWord.resolve base soonDays token) ∧
      ((∃ d : Date, Interruptible.resolve base soonDays token = .ok d ∧
          IsDate d.year d.month d.day) ∨
        ∃ error, Interruptible.resolve base soonDays token = .error (.refused error))) ∧
    (∀ tags expr, Interruptible.evaluate base soonDays tags expr =
        (Interruptible.ofError (evaluate base soonDays tags expr).1,
          (evaluate base soonDays tags expr).2) ∧
      ((∃ d : Date, (Interruptible.evaluate base soonDays tags expr).1 = .ok d ∧
          IsDate d.year d.month d.day) ∨
        ∃ error, (Interruptible.evaluate base soonDays tags expr).1 = .error (.refused error) ∧
          error.kind ≠ .absolute)) ∧
    ∀ text, Interruptible.resolveText base soonDays text =
        Interruptible.ofError (resolveText base soonDays text) ∧
      ((∃ r, Interruptible.resolveText base soonDays text = .ok r) ∨
        ∃ error, Interruptible.resolveText base soonDays text = .error (.refused error) ∧
          error.kind ≠ .absolute) := by
  refine ⟨fun token ↦ ⟨Interruptible.resolve_eq base soonDays token, ?_⟩,
    fun tags expr ↦ ⟨Interruptible.evaluate_eq base soonDays tags expr, ?_⟩,
    fun text ↦ ⟨Interruptible.resolveText_eq base soonDays text, ?_⟩⟩
  · rw [Interruptible.resolve_eq]
    cases DateWord.resolve base soonDays token with
    | ok d => exact Or.inl ⟨d, rfl, d.valid⟩
    | error error => exact Or.inr ⟨error, rfl⟩
  · rw [Interruptible.evaluate_eq]
    cases hanswer : (evaluate base soonDays tags expr).1 with
    | ok d => exact Or.inl ⟨d, rfl, d.valid⟩
    | error error => exact Or.inr ⟨error, rfl, kind_of_evaluateWithin hanswer⟩
  · rw [Interruptible.resolveText_eq]
    cases hanswer : resolveText base soonDays text with
    | ok r => exact Or.inl ⟨r, rfl⟩
    | error error => exact Or.inr ⟨error, rfl, kind_of_resolveText hanswer⟩

end Agenda
