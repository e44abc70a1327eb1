import Agenda.Calendar.Unit
import Agenda.DateError
import Agenda.Text.Case

/-!
# Recurrences

A recurrence is a count of one unit of time, strict if it is marked by a plus sign in front. The
offsets of date expressions are recurrences too. The reader takes any digits, however many there
are, and either case of the unit; the writer uses ASCII digits and the small letter.
-/

namespace Agenda

/-- A count of a unit of time, after which a task comes back. -/
structure Recurrence where
  /-- The unit. -/
  unit : TimeUnit
  /-- How many units. -/
  count : Nat
  /-- Whether the count starts at the day due and not at the day done. -/
  strict : Bool
  deriving DecidableEq, Repr

namespace Recurrence

/-- The plus sign, the digits and the letter of a recurrence, each possibly missing. -/
def parts? (value : Text) : Option (Bool × Text × Text) :=
  let body := Text.chomp value
  let strict := body.head? == some '+'
  let rest := if strict then body.drop 1 else body
  match rest.dropWhile isDigit with
  | [] => some (strict, rest.takeWhile isDigit, [])
  | [c] => if isLatin c then some (strict, rest.takeWhile isDigit, [c]) else none
  | _ => none

/-- The recurrence that a text denotes. -/
def parse (value : Text) : Except DateError Recurrence :=
  match parts? value with
  | none | some (_, [], _) => .error (.countExpected value)
  | some (strict, digits, letter) =>
    match Text.lower letter with
    | [c] =>
      match TimeUnit.ofLetter? c with
      | some unit => .ok ⟨unit, Text.toNat digits, strict⟩
      | none => .error (.unknownUnit value [c])
    | unit => .error (.unknownUnit value unit)

/-- The written form of a recurrence. -/
def toText (r : Recurrence) : Text :=
  (if r.strict then ['+'] else []) ++ Text.ofNat r.count ++ [r.unit.letter]

/-- The day one recurrence later or earlier. -/
def apply (r : Recurrence) (d : Date) (sign : Sign) : Except CalendarFault Date :=
  d.add r.unit (sign.apply r.count) false

end Recurrence

end Agenda
