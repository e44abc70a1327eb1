import Agenda.Calendar.Unit
import Agenda.DateError
import Agenda.Text.Case

/-!
# Date words

A date word names a day relative to a base day. What kind of word it is shows in its characters
alone, in this order:

* digits only: a coming day of the month, `15`;
* digits and dashes: month and day, `07-04`; with any other number of dashes the word is an absolute
  day, which is for others to read;
* digits and the letters of the units: an offset, `2w3d`;
* anything else: a keyword or a weekday, `tomorrow`, `next-fri`, whatever its case and its dashes.

A line feed at the very end of a word does not change the kind of the word. The numbers in a word
may have any number of digits.
-/

namespace Agenda.DateWord

/-! ## The kinds of words -/

/-- Digits only. -/
def isDayOfMonth (token : Text) : Bool := Text.isNumber (Text.chomp token)

/-- Digits and dashes only. -/
def isDashed (token : Text) : Bool :=
  let body := Text.chomp token
  !body.isEmpty && body.all fun c ↦ isDigit c || c == '-'

/-- Digits and small letters of units only. -/
def isOffset (token : Text) : Bool :=
  let body := Text.chomp token
  !body.isEmpty && body.all fun c ↦ isDigit c || (TimeUnit.ofLetter? c).isSome

/-! ## Days and months -/

/-- The next day with this number. The last day of the base month stands for the last day of the
target month, as does every number that the target month does not reach. -/
def dayOfMonth (base : Date) (token : Text) : Except DateError Date :=
  let n := Text.toNat (Text.chomp token)
  if n = 0 || 31 < n then .error (.dayTooBig n token)
  else
    let index := base.monthIndex + if n ≤ base.day then 1 else 0
    let (year, month) := ((index / 12).toNat, (index % 12).toNat + 1)
    let last := monthLength (isLeap year) month
    match Date.ofParts? year month (if last ≤ n || base.monthDays ≤ n then last else n) with
    | some r => .ok r
    | none => .error (.outside token)

/-- The given day of a month of the year, or the last day of that month if it is shorter. -/
def clampedDay? (year month day : Nat) : Option Date :=
  Date.ofParts? year month (min day (monthLength (isLeap year) month))

/-- The first day on or after the base that falls on the given month and day. -/
def monthDay (base : Date) (token month day : Text) : Except DateError Date :=
  if !Text.isNumber month then .error (.monthNotANumber month token)
  else if !Text.isNumber day then .error (.dayNotANumber day token)
  else
    let m := Text.toNat month
    let d := Text.toNat day
    if m < 1 || 12 < m then .error (.noSuchMonth m token)
    else if d < 1 || 31 < d then .error (.noSuchDay d token)
    else
      match (clampedDay? base.year m d).filter (base.le ·) <|> clampedDay? (base.year + 1) m d with
      | some r => .ok r
      | none => .error (.outside token)

/-! ## Offsets -/

/-- The day reached by the counts and units of an offset, taken one after the other and anchored at
the end of the month. A letter without a count, or with the count zero, does not move. -/
def offsetFrom : Nat → Date → Text → Except CalendarFault Date
  | _, d, [] => .ok d
  | n, d, c :: s =>
    match digitValue? c, TimeUnit.ofLetter? c with
    | some v, _ => offsetFrom (10 * n + v) d s
    | none, none => offsetFrom 0 d s
    | none, some unit =>
      if n = 0 then offsetFrom 0 d s
      else
        match d.add unit n true with
        | .ok r => offsetFrom 0 r s
        | .error fault => .error fault

/-- The day at an offset, which has to differ from the base. -/
def offset (base : Date) (token : Text) : Except DateError Date :=
  match offsetFrom 0 base token with
  | .ok r => if r = base then .error (.unknownWord token) else .ok r
  | .error _ => .error (.outside token)

/-! ## Keywords -/

/-- The keywords other than weekdays. -/
inductive Keyword where
  | today
  | yesterday
  | tomorrow
  | soon
  | first
  | last
  deriving DecidableEq, Repr

/-- The spellings of the keywords. -/
def keywords : List (Text × Keyword) := [
  ("today".toList, .today), ("yesterday".toList, .yesterday), ("tomorrow".toList, .tomorrow),
  ("tm".toList, .tomorrow), ("tmr".toList, .tomorrow), ("soon".toList, .soon),
  ("first".toList, .first), ("last".toList, .last)]

/-- The spellings of the weekdays, Monday being 1. -/
def weekdays : List (Text × Nat) := [
  ("mo".toList, 1), ("mon".toList, 1), ("monday".toList, 1),
  ("tu".toList, 2), ("tue".toList, 2), ("tuesday".toList, 2),
  ("we".toList, 3), ("wed".toList, 3), ("wednesday".toList, 3),
  ("th".toList, 4), ("thu".toList, 4), ("thursday".toList, 4),
  ("fr".toList, 5), ("fri".toList, 5), ("friday".toList, 5),
  ("sa".toList, 6), ("sat".toList, 6), ("saturday".toList, 6),
  ("su".toList, 7), ("sun".toList, 7), ("sunday".toList, 7)]

/-- The day that a keyword stands for. -/
def Keyword.resolve (base : Date) (soonDays : Int) : Keyword → Except CalendarFault Date
  | today => .ok base
  | yesterday => base.addDays (-1)
  | tomorrow => base.addDays 1
  | soon => base.addDays soonDays
  | first => base.firstOfNextMonth
  | last => .ok base.lastOfMonth

/-- The meaning of a word in small letters without dashes, if it has one: a keyword, a weekday, or
a weekday of the week after. -/
def spokenDay? (base : Date) (soonDays : Int) (word : Text) :
    Option (Except CalendarFault Date) :=
  match keywords.lookup word, weekdays.lookup word with
  | some keyword, _ => some (keyword.resolve base soonDays)
  | none, some weekday => some (base.closestWeekday weekday 0)
  | none, none =>
    if "next".toList.isPrefixOf word then
      (weekdays.lookup (word.drop 4)).map fun weekday ↦ base.nextWeekday weekday
    else none

/-- The word in small letters without dashes and underscores. -/
def plainWord (token : Text) : Text := Text.lower (token.filter fun c ↦ c != '-' && c != '_')

/-- The day that a keyword or the name of a weekday stands for. -/
def spoken (base : Date) (soonDays : Int) (token : Text) : Except DateError Date :=
  match spokenDay? base soonDays (plainWord token) with
  | some (.ok r) => .ok r
  | some (.error _) => .error (.outside token)
  | none => .error (.unknownWord token)

/-! ## All words -/

/-- The day that a date word stands for. -/
def resolve (base : Date) (soonDays : Int) (token : Text) : Except DateError Date :=
  if token.isEmpty then .error .emptyWord
  else if isDayOfMonth token then dayOfMonth base token
  else if isDashed token then
    match Text.cut? ['-'] token with
    | some (month, day) =>
      if '-' ∈ day then .error (.absolute token) else monthDay base token month day
    | none => .error (.absolute token)
  else if isOffset token then offset base token
  else spoken base soonDays token

end Agenda.DateWord
