import Agenda.DateError
import Agenda.Recurrence

/-!
# Date expressions

An expression is a base followed by signed offsets: `fri+1w`, `2021-05-07-3d`, `due+1m-2`. The base
is a word of letters, an absolute day, a month and day, or a day of the month; an offset is a count
with or without a unit, or a unit alone. Each part has to be followed by a sign or by the end of the
expression, so a text is taken apart in at most one way once the form of its base is fixed. The
forms are tried from the longest; `12-31` is a month and day and not the twelfth less 31 days.

Taking an expression apart loses nothing: the base and the offsets with their signs, written one
after the other, are the expression.
-/

namespace Agenda

/-- A signed offset. -/
structure Offset where
  /-- The direction. -/
  sign : Sign
  /-- The count and unit as written. -/
  token : Text
  deriving DecidableEq, Repr

/-- An expression taken apart. -/
structure Expression where
  /-- The base as written. -/
  base : Text
  /-- The offsets in order. -/
  offsets : List Offset
  deriving DecidableEq, Repr

namespace Expression

/-! ## The parts -/

/-- Does a part end here: at a sign, at the end, or before a final line feed? -/
def endsHere : Text → Bool
  | [] => true
  | ['\n'] => true
  | c :: _ => c == '+' || c == '-'

/-- The first characters of a text if they are as described, one test for each. -/
def shaped? : List (Char → Bool) → Text → Option (Text × Text)
  | [], s => some ([], s)
  | _ :: _, [] => none
  | p :: ps, c :: s => if p c then (shaped? ps s).map fun (t, rest) ↦ (c :: t, rest) else none

/-- Four digits, two digits and two digits with dashes between. -/
def absoluteShape : List (Char → Bool) :=
  [isDigit, isDigit, isDigit, isDigit, (· == '-'), isDigit, isDigit, (· == '-'), isDigit, isDigit]

/-- Two digits and two digits with a dash between. -/
def monthDayShape : List (Char → Bool) := [isDigit, isDigit, (· == '-'), isDigit, isDigit]

/-- A part at the start of a text, provided that it ends where a part may end. -/
def ended (part : Option (Text × Text)) : Option Text :=
  match part with
  | some (token, rest) => if endsHere rest then some token else none
  | none => none

/-- A word of letters at the start of a text. -/
def word? (s : Text) : Option (Text × Text) :=
  if (s.takeWhile isLatin).isEmpty then none else some (s.takeWhile isLatin, s.dropWhile isLatin)

/-- The base at the start of a text. -/
def base? (s : Text) : Option Text :=
  ended (word? s) <|> ended (shaped? absoluteShape s) <|> ended (shaped? monthDayShape s) <|>
    ended (shaped? [isDigit, isDigit] s) <|> ended (shaped? [isDigit] s)

/-- The letter of a unit at the start of a text, or nothing. -/
def unitLetter (s : Text) : Text × Text :=
  match s with
  | c :: rest => if (TimeUnit.ofAnyLetter? c).isSome then ([c], rest) else ([], s)
  | [] => ([], [])

/-- The offset without its sign at the start of a text. -/
def offset? (s : Text) : Option Text :=
  let (letter, rest) := unitLetter (s.dropWhile isDigit)
  let token := s.takeWhile isDigit ++ letter
  if token.isEmpty then none else ended (some (token, rest))

/-! ## The whole -/

/-- The offsets of an expression from a given place on. The length of the rest bounds their number.
-/
def offsetsFrom (expr : Text) : Nat → Text → Except DateError (List Offset)
  | _, [] => .ok []
  | _, [c] => .error (.incomplete expr [c])
  | 0, rest => .error (.badOffset rest)
  | fuel + 1, c :: rest =>
    match Sign.ofChar? c with
    | none => .error (.notASign c (c :: rest))
    | some sign =>
      match offset? rest with
      | none => .error (.badOffset rest)
      | some token =>
        match offsetsFrom expr fuel (rest.drop token.length) with
        | .ok offsets => .ok (⟨sign, token⟩ :: offsets)
        | .error error => .error error

/-- Takes an expression apart. -/
def parse (expr : Text) : Except DateError Expression :=
  match base? expr with
  | none => .error (.noBase expr)
  | some base =>
    match offsetsFrom expr (expr.drop base.length).length (expr.drop base.length) with
    | .ok offsets => .ok ⟨base, offsets⟩
    | .error error => .error error

/-- The text of an offset. -/
def Offset.toText (o : Offset) : Text := o.sign.toChar :: o.token

/-- The parts of an expression with their signs, the base first. The base counts as added. -/
def items (e : Expression) : List Offset := ⟨.plus, e.base⟩ :: e.offsets

/-- The text of an expression. -/
def toText (e : Expression) : Text := e.base ++ e.offsets.flatMap Offset.toText

/-- The step that an offset makes; a count without a unit counts days. -/
def step (token : Text) : Except DateError Recurrence :=
  Recurrence.parse (if Text.isNumber token then token ++ ['d'] else token)

end Expression

end Agenda
