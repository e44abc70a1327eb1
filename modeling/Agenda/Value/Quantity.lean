import Agenda.Text.Case
import Agenda.Text.Digit

/-!
# Sizes, durations and times of day

Three readers for tag values. A size is a count of bytes with the letter of a multiple, each
multiple being 1024 times the one before. A duration is a sequence of counts and units, in seconds.
A time of day is the number of hours times a hundred and minutes, on a clock of 24 hours or, with
`am` or `pm`, of 12. The numbers in all three may have any number of digits.
-/

namespace Agenda

/-! ## Sizes -/

/-- The letters of the multiples from the largest to the smallest, and the power of 1024 of each. -/
def sizeLetters : List (Char × Nat) :=
  [('e', 6), ('p', 5), ('t', 4), ('g', 3), ('m', 2), ('k', 1)]

/-- The ends of sizes with their multiples: for each letter the longest end first, so that the end
of the end is not taken for a shorter one. -/
def sizeEnds : List (Text × Nat) :=
  sizeLetters.flatMap fun (c, power) ↦
    let multiple := Nat.pow 1024 power
    [([c, 'i', 'b'], multiple), ([c, 'b'], multiple), ([c], multiple)]

/-- The number of bytes of a size. -/
def readSize? (value : Text) : Option Nat :=
  let s := Text.lower value
  match sizeEnds.find? fun (ending, _) ↦ ending.isSuffixOf s with
  | some (ending, multiple) =>
    let digits := s.take (s.length - ending.length)
    if Text.isNumber digits then some (Text.toNat digits * multiple) else none
  | none => if Text.isNumber value then some (Text.toNat value) else none

/-! ## Durations -/

/-- The seconds of a unit of duration. -/
def unitSeconds? : Char → Option Nat
  | 'w' => some (7 * 24 * 60 * 60)
  | 'd' => some (24 * 60 * 60)
  | 'h' => some (60 * 60)
  | 'm' => some 60
  | 's' => some 1
  | _ => none

/-- The seconds of a sequence of counts and units behind the count given, if one is being read. The
unit of the last count may be missing; it counts seconds then. -/
def secondsFrom : Option Nat → Text → Option Nat
  | none, [] => some 0
  | some n, [] => some n
  | count, c :: s =>
    match digitValue? c, count with
    | some v, _ => secondsFrom (some (10 * count.getD 0 + v)) s
    | none, none => none
    | none, some n =>
      match unitSeconds? c with
      | some seconds => (secondsFrom none s).map (n * seconds + ·)
      | none => none

/-- The seconds of a duration, negative if it begins with minus signs. -/
def readDuration? (value : Text) : Option Int :=
  let s := Text.lower value
  if s.head? == some '-' then
    (secondsFrom none (s.dropWhile (· == '-'))).map fun n ↦ -(n : Int)
  else (secondsFrom none s).map fun n ↦ (n : Int)

/-! ## Times of day -/

/-- A time on a clock of 24 hours. -/
def clock24? (number : Nat) : Option Nat :=
  if 23 < number / 100 || 59 < number % 100 then none else some number

/-- A time on a clock of 12 hours in one half of the day. From twelve o'clock on, the morning is
moved back by twelve hours; before it, the afternoon is moved ahead by as much. -/
def clock12? (afternoon : Bool) (number : Nat) : Option Nat :=
  if 12 < number / 100 || number / 100 == 0 || 59 < number % 100 then none
  else
    let number := if 1200 ≤ number && number ≤ 1259 && !afternoon then number - 1200 else number
    some (if number < 1200 && afternoon then number + 1200 else number)

/-- The number of a time of day. -/
def readTime? (value : Text) : Option Nat :=
  let s := Text.lower value
  if Text.isNumber s then
    if s.length < 3 then none else clock24? (Text.toNat s)
  else
    let digits := Text.trimEnd (fun c ↦ c == 'a' || c == 'p' || c == 'm') s
    if Text.isNumber digits then
      match s.drop digits.length with
      | ['a', 'm'] => clock12? false (Text.toNat digits)
      | ['p', 'm'] => clock12? true (Text.toNat digits)
      | _ => none
    else none

end Agenda
