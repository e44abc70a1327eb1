import Agenda.Yaml.Break
import Agenda.Yaml.Scalar

/-!
# The text of scalars

A scalar is written plainly or between quotes. Each reader goes through the text once, one character
at a time, and keeps the white space it is passing, because what that means depends on what follows.
It gives the text of the scalar and the text behind it.
-/

namespace Agenda.Yaml

/-- Puts some characters before the text that was read. -/
def emit (front : Text) (result : Text × Text) : Text × Text := (front ++ result.1, result.2)

/-! ## Quoted scalars -/

/-- Where a reader between quotes stands. -/
inductive QuoteState where
  /-- Behind some white space. -/
  | within (gap : Gap)
  /-- Behind a single quote, which another one would turn into a character. -/
  | closing
  /-- Behind a backslash. -/
  | escape
  /-- Before so many hexadecimal digits more. -/
  | hex (left value : Nat)

/-- The character that a backslash and a letter stand for. -/
def escapedChar? : Char → Option Char
  | '0' => some '\x00'
  | 'a' => some '\x07'
  | 'b' => some '\x08'
  | 't' | '\t' => some '\t'
  | 'n' => some '\n'
  | 'v' => some '\x0b'
  | 'f' => some '\x0c'
  | 'r' => some '\r'
  | 'e' => some '\x1b'
  | ' ' => some ' '
  | '\x22' => some '\x22'
  | '\\' => some '\\'
  | '/' => some '/'
  | 'N' => some '\u0085'
  | '_' => some '\u00a0'
  | 'L' => some '\u2028'
  | 'P' => some '\u2029'
  | _ => none

/-- The number of hexadecimal digits behind a backslash and a letter. -/
def hexLength? : Char → Option Nat
  | 'x' => some 2
  | 'u' => some 4
  | 'U' => some 8
  | _ => none

/-- The character with a number. -/
def charOfNat? (n : Nat) : Option Char := if n.isValidChar then some (Char.ofNat n) else none

/-- Reads a scalar between quotes from behind the first quote. -/
def readQuoted? (double : Bool) : QuoteState → Text → Option (Text × Text)
  | .closing, '\x27' :: s => (readQuoted? double (.within .none) s).map (emit ['\x27'])
  | .closing, s => some ([], s)
  | _, [] => none
  | .escape, c :: s =>
    if isBreak c then
      if beginsWithAnyMark s then none else readQuoted? double (.within (.lines none [])) s
    else
      match escapedChar? c, hexLength? c with
      | some e, _ => (readQuoted? double (.within .none) s).map (emit [e])
      | none, some n => readQuoted? double (.hex n 0) s
      | none, none => none
  | .hex left value, c :: s =>
    let value := 16 * value + hexValue c
    if !isHex c then none
    else if 1 < left then readQuoted? double (.hex (left - 1) value) s
    else
      match charOfNat? value with
      | some e => (readQuoted? double (.within .none) s).map (emit [e])
      | none => none
  | .within gap, c :: s =>
    if c == ' ' || c == '\t' then readQuoted? double (.within (gap.blank c)) s
    else if isBreak c then
      if beginsWithAnyMark s then none else readQuoted? double (.within (gap.lineEnd c)) s
    else if double && c == '\x22' then some (gap.text, s)
    else if double && c == '\\' then (readQuoted? double .escape s).map (emit gap.text)
    else if !double && c == '\x27' then (readQuoted? double .closing s).map (emit gap.text)
    else (readQuoted? double (.within .none) s).map (emit (gap.text ++ [c]))

/-! ## Plain scalars -/

/-- The characters that structure lists and mappings in brackets. -/
def flowIndicators : List Char := [',', '[', ']', '\x7b', '\x7d']

/-- The characters that begin something else than a plain scalar. -/
def indicators : List Char :=
  flowIndicators ++ ['-', '?', ':', '#', '&', '*', '!', '|', '>', '\x27', '\x22', '%', '@', '\x60']

/-- Can a plain scalar begin with the character, given what follows? -/
def beginsPlain (inFlow : Bool) (c : Char) (s : Text) : Bool :=
  (!isGap c && c ∉ indicators) ||
    (!endsToken s && (c == '-' || (!inFlow && (c == '?' || c == ':'))))

/-- Does a colon with this behind it end a plain scalar? -/
def endsKey (inFlow : Bool) (s : Text) : Bool :=
  endsToken s || (inFlow && (s.head?.map (flowIndicators.contains ·)).getD false)

/-- Reads a plain scalar, from a column, behind some white space that began with the text `back`. A
further line of the scalar must not begin to the left of the column `least`; in brackets it may. -/
def readPlain (inFlow : Bool) (least : Nat) (gap : Gap) (column : Nat) (back : Text) :
    Text → Text × Text
  | [] => ([], if gap = .none then [] else back)
  | c :: s =>
    let back := if gap = .none then c :: s else back
    let outside : Bool := match gap with
      | .lines .. => !inFlow && column < least
      | _ => false
    if c == ' ' then readPlain inFlow least (gap.blank c) (column + 1) back s
    else if isBreak c then
      if beginsWithAnyMark s then ([], back)
      else readPlain inFlow least (gap.lineEnd c) 0 back s
    else if c == '\t' || outside || (c == ':' && endsKey inFlow s) ||
        (inFlow && (c == '?' || flowIndicators.contains c)) || (c == '#' && gap != .none) then
      ([], back)
    else emit (gap.text ++ [c]) (readPlain inFlow least .none (column + 1) back s)

end Agenda.Yaml
