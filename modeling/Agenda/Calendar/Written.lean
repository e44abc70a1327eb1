import Agenda.Calendar.Date
import Agenda.Text.Digit

/-!
# The written form of a day

A day is written as year, month and day of the month with dashes between. The month and the day have
two digits; the year has as many digits as it needs. The reader asks for ten characters, so it reads
back what is written for the years from 1000 on.

The reader takes any decimal digits for the year and for the second digit of a day from 10 to 29,
and a space in place of the zero before a day below 10.
-/

namespace Agenda.Date

/-- The written form of a day. -/
def toText (d : Date) : Text :=
  Text.ofNat d.year ++ ['-'] ++ Text.ofNatPadded 2 d.month ++ ['-'] ++ Text.ofNatPadded 2 d.day

/-- The written form of a day with four digits for the year. -/
def toPaddedText (d : Date) : Text :=
  Text.ofNatPadded 4 d.year ++ ['-'] ++ Text.ofNatPadded 2 d.month ++ ['-'] ++
    Text.ofNatPadded 2 d.day

/-- The number of a month in two digits. -/
def readMonth? : Char → Char → Option Nat
  | '1', c => if '0' ≤ c && c ≤ '2' then some (10 + digitValue c) else none
  | '0', c => if '1' ≤ c && c ≤ '9' then some (digitValue c) else none
  | _, _ => none

/-- The number of a day of the month in two characters. -/
def readDay? : Char → Char → Option Nat
  | '3', c => if c == '0' || c == '1' then some (30 + digitValue c) else none
  | '0', c | ' ', c => if '1' ≤ c && c ≤ '9' then some (digitValue c) else none
  | a, c => if (a == '1' || a == '2') && isDigit c then some (Text.toNat [a, c]) else none

/-- The day that a text of ten characters denotes. -/
def ofText? : Text → Option Date
  | [y₁, y₂, y₃, y₄, '-', m₁, m₂, '-', d₁, d₂] => do
    guard (Text.isNumber [y₁, y₂, y₃, y₄])
    ofParts? (Text.toNat [y₁, y₂, y₃, y₄]) (← readMonth? m₁ m₂) (← readDay? d₁ d₂)
  | _ => none

end Agenda.Date
