import Agenda.Number.Binary64
import Agenda.Text.Blank
import Agenda.Text.Case
import Agenda.Text.Digit

/-!
# Number literals

Integers and double precision numbers as people type them into tag values: blanks around, a sign,
digits of any script with single underscores between them, and for doubles a fraction, an exponent
or the words for infinity and not-a-number. Nothing bounds the number of digits.
-/

namespace Agenda

/-- The blanks allowed around a number: all but the information separators. -/
def isNumberBlank (c : Char) : Bool := isBlank c && !(0x1C ≤ c.toNat && c.toNat ≤ 0x1F)

/-- A sign in front, and the rest. -/
def Text.sign (s : Text) : Bool × Text :=
  match s with
  | '-' :: rest => (true, rest)
  | '+' :: rest => (false, rest)
  | _ => (false, s)

/-- The text without its underscores, each of which must stand between two digits. The flag says
whether a digit comes before. -/
def dropUnderscores? (afterDigit : Bool) : Text → Option Text
  | [] => some []
  | '_' :: c :: s =>
    if afterDigit && isDigit c then (dropUnderscores? true s).map (c :: ·) else none
  | c :: s => if c == '_' then none else (dropUnderscores? (isDigit c) s).map (c :: ·)

/-- The integer that a text denotes. -/
def readInteger? (s : Text) : Option Int := do
  let (negative, digits) := Text.sign (Text.trim isNumberBlank s)
  let digits ← dropUnderscores? false digits
  guard (Text.isNumber digits)
  return if negative then -Text.toNat digits else Text.toNat digits

/-- The digits before a point, those after it, and the rest. -/
def splitMantissa (s : Text) : Text × Text × Text :=
  let rest := s.dropWhile isDigit
  match rest with
  | '.' :: tail => (s.takeWhile isDigit, tail.takeWhile isDigit, tail.dropWhile isDigit)
  | _ => (s.takeWhile isDigit, [], rest)

/-- The exponent that a text denotes: nothing, or the letter e and an integer. -/
def readExponent? : Text → Option Int
  | [] => some 0
  | c :: s =>
    let (negative, digits) := Text.sign s
    if (c == 'e' || c == 'E') && Text.isNumber digits then
      some (if negative then -Text.toNat digits else Text.toNat digits)
    else none

/-- The double that a text denotes: the nearest one to the decimal number written. -/
def readDouble? (s : Text) : Option Binary64 := do
  let (negative, body) := Text.sign (Text.trim isNumberBlank s)
  let word := body.map fun c ↦ if isLatin c then simpleSmall c else c
  if word == "inf".toList || word == "infinity".toList then return .inf negative
  if word == "nan".toList then return .nan
  let body ← dropUnderscores? false body
  let (whole, fraction, tail) := splitMantissa body
  guard (!(whole ++ fraction).isEmpty)
  let exponent ← readExponent? tail
  return .ofDecimal negative (Text.toNat (whole ++ fraction)) (exponent - fraction.length)

end Agenda
