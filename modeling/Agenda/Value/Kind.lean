import Agenda.Number.Literal
import Agenda.Text.Case

/-!
# The kinds of tag values

A tag value is a text, and what it means is guessed: from the name of the tag if that says enough,
else from the form of the value. The forms are tried in a fixed order on the small letters of the
value, and a text that has none of them is just a text.
-/

namespace Agenda

/-- What the values of a tag mean. -/
inductive ValueKind where
  | unknown
  | integer
  | float
  | text
  | date
  | time
  | duration
  | size
  deriving DecidableEq, Repr

namespace ValueKind

/-! ## By the name of the tag -/

/-- Does the name end so? -/
def endsIn (name : Text) (ending : String) : Bool := ending.toList.isSuffixOf name

/-- Is the name one of these? -/
def isOneOf (name : Text) (names : List String) : Bool := names.any (·.toList == name)

/-- The kind that the name of a tag tells. -/
def ofTag (name : Text) : ValueKind :=
  if endsIn name "_time" then time
  else if endsIn name "_date" || isOneOf name ["due", "t"] then date
  else if isOneOf name ["spent"] || endsIn name "_dur" || endsIn name "_duration" then duration
  else if endsIn name "_size" || endsIn name "_sz" then size
  else if isOneOf name ["started", "finished", "completed"] then date
  else if isOneOf name ["pri", "priority", "@", "ctx", "context", "+", "prj", "project", "proj",
      "subj", "subject"] || name.head? == some '#' then text
  else if isOneOf name ["ID", "done"] then integer
  else unknown

/-! ## By the form of the value -/

/-- Digits after a sign, if any. -/
def isIntegerForm (s : Text) : Bool := Text.isNumber (Text.sign s).2

/-- Digits with a point, a fraction and an exponent, each of them optional. -/
def isFloatForm (s : Text) : Bool :=
  let (whole, fraction, tail) := splitMantissa (Text.sign s).2
  !(whole ++ fraction).isEmpty && (readExponent? tail).isSome

/-- Four digits, two digits and two digits with dashes between. -/
def isDateForm : Text → Bool
  | [y₁, y₂, y₃, y₄, '-', m₁, m₂, '-', d₁, d₂] =>
    [y₁, y₂, y₃, y₄, m₁, m₂, d₁, d₂].all isDigit
  | _ => false

/-- Counts with the given units, each unit at most once and in this order. -/
def isCountForm : List Char → Text → Bool
  | [], s => s.isEmpty
  | unit :: units, s =>
    match s.takeWhile isDigit, s.dropWhile isDigit with
    | _ :: _, c :: rest => if c == unit then isCountForm units rest else isCountForm units s
    | _, _ => isCountForm units s

/-- The ends of a size behind its digits: `b`, or the letter of a multiple with or without `i` and
`b`. -/
def isSizeEnd : Text → Bool
  | ['b'] => true
  | c :: rest => ['p', 't', 'g', 'm', 'k'].contains c && [[], ['i'], ['b'], ['i', 'b']].contains rest
  | [] => false

/-- Digits and the end of a size. -/
def isSizeForm (s : Text) : Bool :=
  !(s.takeWhile isDigit).isEmpty && isSizeEnd (s.dropWhile isDigit)

/-- Three or four digits and a half of the day. -/
def isTimeForm (s : Text) : Bool :=
  let digits := s.takeWhile isDigit
  (digits.length == 3 || digits.length == 4) &&
    [['a', 'm'], ['p', 'm']].contains (s.dropWhile isDigit)

/-- The kind that the form of a value tells. -/
def ofValue (value : Text) : ValueKind :=
  let s := Text.chomp (Text.lower value)
  if isIntegerForm s then integer
  else if isFloatForm s then float
  else if isDateForm s then date
  else if isCountForm ['w', 'd', 'h', 'm', 's'] s then duration
  else if isSizeForm s then size
  else if isTimeForm s then time
  else text

/-- The kind that the form of a value tells; a missing value is a text. -/
def ofValue? (value : Option Text) : ValueKind := (value.map ofValue).getD text

/-- The kind of a tag with a value: by its name, else by its value. -/
def ofTagValue (name : Text) (value : Option Text) : ValueKind :=
  match value, ofTag name with
  | none, _ => text
  | some value, unknown => ofValue value
  | some _, kind => kind

end ValueKind

end Agenda
