import Agenda.Yaml.Break
import Agenda.Yaml.Value

/-!
# Writing documents

A mapping is written as a block with one entry on each line, in the order of the keys. A text is
written plainly where reading it back gives the same text; where it does not, or would give another
type, it stands between single quotes; a text with any character that is not printable ASCII stands
between double quotes and has those characters behind a backslash.

Lines are broken at single spaces beyond the eightieth column, except in keys. A key that is empty,
too long or of several lines is announced by a question mark.
-/

namespace Agenda.Yaml

/-! ## Styles -/

/-- How a text is written. -/
inductive Style where
  | plain
  | single
  | double
  deriving DecidableEq, Repr

/-- Does the character need an escape? -/
def isSpecial (c : Char) : Bool := c != '\n' && !(' ' ≤ c && c ≤ '~')

/-- Is the text over, or is a space or line end next? -/
def atSpace : Text → Bool
  | [] => true
  | c :: _ => c == ' ' || c == '\n'

/-- Do two neighbouring characters pass the test? -/
def anyPair (test : Char → Char → Bool) : Text → Bool
  | a :: b :: s => test a b || anyPair test (b :: s)
  | _ => false

/-- Does the text hold a colon that ends a key or a mark that begins a comment? -/
def hasIndicator : Text → Bool
  | [] => false
  | c :: s =>
    (c == ':' && atSpace s) || ((c == ' ' || c == '\n') && s.head? == some '#') || hasIndicator s

/-- Would the text not be read as a scalar because of how it begins? -/
def beginsWithIndicator (s : Text) : Bool :=
  startMark.isPrefixOf s || endMark.isPrefixOf s ||
    match s with
    | [] => false
    | c :: rest =>
      if c == '-' || c == '?' || c == ':' then atSpace rest
      else [',', '[', ']', '\x7b', '\x7d', '#', '&', '*', '!', '|', '>', '\x27', '\x22', '%', '@',
        '\x60'].contains c

/-- Can the text be written plainly? -/
def canBePlain (s : Text) : Bool :=
  !s.any isSpecial && '\n' ∉ s && s.head? != some ' ' && s.getLast? != some ' ' &&
    !beginsWithIndicator s && !hasIndicator s && Form.of s = .text

/-- Can the text be written between single quotes? A line must not begin or end with a space. -/
def canBeSingle (s : Text) : Bool :=
  !s.any isSpecial &&
    !anyPair (fun a b ↦ (a == ' ' && b == '\n') || (a == '\n' && b == ' ')) s

/-- How the text is written. -/
def Style.of (s : Text) : Style :=
  if canBePlain s then plain else if canBeSingle s then single else double

/-! ## Lines -/

/-- The column beyond which lines are broken. -/
def bestWidth : Nat := 80

/-- The start of a further line. -/
def newLine (indent : Nat) : Text := '\n' :: List.replicate indent ' '

/-- The characters with each single quote written twice. -/
def doubleQuotes (s : Text) : Text := s.flatMap fun c ↦ if c == '\x27' then [c, c] else [c]

/-- A text without escapes, in runs of spaces, of line ends and of other characters, from a column.
A single space beyond the last column begins a new line, unless it is at an end of the text. A run
of line ends takes one more, and the line behind it is indented. -/
def foldRuns (indent : Nat) (isQuoted isFirst : Bool) (column : Nat) : List Text → Text
  | [] => []
  | run :: runs =>
    match run with
    | [' '] =>
      if bestWidth < column && !isFirst && !runs.isEmpty then
        newLine indent ++ foldRuns indent isQuoted false indent runs
      else ' ' :: foldRuns indent isQuoted false (column + 1) runs
    | '\n' :: _ => run ++ newLine indent ++ foldRuns indent isQuoted false indent runs
    | _ =>
      let written := if isQuoted then doubleQuotes run else run
      written ++ foldRuns indent isQuoted false (column + written.length) runs

/-- The runs of spaces, of line ends and of other characters. -/
def runs (s : Text) : List Text :=
  s.splitBy fun a b ↦ (a == ' ') == (b == ' ') && (a == '\n') == (b == '\n')

/-- The letter behind a backslash for a character that has one. -/
def escapeLetter? : Char → Option Char
  | '\x00' => some '0'
  | '\x07' => some 'a'
  | '\x08' => some 'b'
  | '\t' => some 't'
  | '\n' => some 'n'
  | '\x0b' => some 'v'
  | '\x0c' => some 'f'
  | '\r' => some 'r'
  | '\x1b' => some 'e'
  | '\x22' => some '\x22'
  | '\\' => some '\\'
  | '\u0085' => some 'N'
  | '\u00a0' => some '_'
  | '\u2028' => some 'L'
  | '\u2029' => some 'P'
  | _ => none

/-- The escape of a character, if it needs one between double quotes. -/
def escape? (c : Char) : Option Text :=
  match escapeLetter? c with
  | some letter => some ['\\', letter]
  | none =>
    if ' ' ≤ c && c ≤ '~' then none
    else if c.toNat ≤ 0xFF then some ('\\' :: 'x' :: Text.ofNatHex true 2 c.toNat)
    else if c.toNat ≤ 0xFFFF then some ('\\' :: 'u' :: Text.ofNatHex true 4 c.toNat)
    else some ('\\' :: 'U' :: Text.ofNatHex true 8 c.toNat)

/-- A line break between double quotes. A space behind it is kept by a backslash. -/
def escapedBreak (indent : Nat) (rest : Text) : Text :=
  '\\' :: newLine indent ++ if rest.head? == some ' ' then ['\\'] else []

/-- The column behind such a line break. -/
def columnBehindBreak (indent : Nat) (rest : Text) : Nat :=
  if rest.head? == some ' ' then indent + 1 else indent

/-- A text between double quotes, from a column. A line may be broken before a space, and around an
escape, but not next to the quotes. -/
def foldEscaped (indent : Nat) (mayBreak isFirst behindEscape : Bool) (column : Nat) : Text → Text
  | [] => []
  | c :: s =>
    let inside := mayBreak && !isFirst && !s.isEmpty
    match escape? c with
    | some escape =>
      let column := column + escape.length
      if inside && bestWidth + 1 < column then
        escape ++ escapedBreak indent s ++
          foldEscaped indent mayBreak false true (columnBehindBreak indent s) s
      else escape ++ foldEscaped indent mayBreak false true column s
    | none =>
      if inside && (c == ' ' || behindEscape) && bestWidth < column then
        escapedBreak indent (c :: s) ++
          c :: foldEscaped indent mayBreak false false (columnBehindBreak indent (c :: s) + 1) s
      else c :: foldEscaped indent mayBreak false false (column + 1) s

/-- A text as a scalar that begins in a column, with further lines indented. -/
def scalarText (indent : Nat) (mayBreak : Bool) (column : Nat) (s : Text) : Text :=
  match Style.of s with
  | .plain => if mayBreak then foldRuns indent false true column (runs s) else s
  | .single =>
    '\x27' :: (if mayBreak then foldRuns indent true true (column + 1) (runs s)
      else doubleQuotes s) ++ ['\x27']
  | .double => '\x22' :: foldEscaped indent mayBreak true true (column + 1) s ++ ['\x22']

/-- A double as a scalar: an exponent needs a point before it, infinity one in front. -/
def doubleText (x : Binary64) : Text :=
  match x with
  | .nan => ".nan".toList
  | .inf negative => (if negative then ['-'] else []) ++ ".inf".toList
  | .finite .. =>
    let s := x.toText
    match Text.cut? ['e'] s with
    | some (mantissa, exponent) =>
      if '.' ∈ mantissa then s else mantissa ++ ".0e".toList ++ exponent
    | none => s

/-- A scalar that begins in a column, with further lines indented. -/
def Scalar.written (indent : Nat) (mayBreak : Bool) (column : Nat) : Scalar → Text
  | .null => "null".toList
  | .bool true => "true".toList
  | .bool false => "false".toList
  | .int n => Text.ofInt n
  | .double x => doubleText x
  | .date d => d.toPaddedText
  | .moment m => m.toText
  | .text s => scalarText indent mayBreak column s

/-! ## Blocks -/

/-- Can the scalar stand before its colon on one line? The five are the length of the tag that a
text has. -/
def isSimpleKey : Scalar → Bool
  | .text s => !s.isEmpty && !s.any (fun c ↦ isBreak c || c == '\u0085') && s.length + 5 < 128
  | _ => true

/-- Does a key come before another one? Only texts have an order. -/
def keyBefore : Scalar → Scalar → Bool
  | .text s, .text t => Text.le s t
  | _, _ => true

/-- Puts an entry before the first one that its key comes before. -/
def insertEntry {α : Type} (entry : Scalar × α) : List (Scalar × α) → List (Scalar × α)
  | [] => [entry]
  | other :: entries =>
    if keyBefore entry.1 other.1 then entry :: other :: entries
    else other :: insertEntry entry entries

/-- The order of the entries of a mapping: by the code points of their keys, unless there is a key
that is no text. -/
def sortEntries {α : Type} (entries : List (Scalar × α)) : List (Scalar × α) :=
  if entries.all fun (key, _) ↦ key matches .text _ then entries.foldr insertEntry [] else entries

/-- The lines of a block. The first one begins where the block does, if that is on the line of what
holds it, and all begin in one column. -/
def blockLines (column : Nat) (sameLine : Bool) (lines : List Text) : Text :=
  if sameLine then ' ' :: Text.join (newLine column) lines
  else lines.flatMap (newLine column ++ ·)

mutual

/-- The value behind a marker or a key in a block that stands in a column, or behind its colon. -/
def Value.written (column : Nat) (sameLine : Bool) (start : Nat) : Value → Text
  | .scalar s => ' ' :: s.written (column + 2) true start
  | .list [] => " []".toList
  | .map [] => [' ', '\x7b', '\x7d']
  | .list (item :: items) =>
    let column := if sameLine then column + 2 else column
    blockLines column sameLine (writtenItems column (item :: items))
  | .map (entry :: entries) =>
    let column := column + 2
    let written := writtenEntries column (entry :: entries)
    blockLines column sameLine ((sortEntries written).map (·.2))

/-- The items of a list that stands in a column. -/
def writtenItems (column : Nat) : List Value → List Text
  | [] => []
  | item :: items => ('-' :: item.written column true (column + 2)) :: writtenItems column items

/-- The entries of a mapping that stands in a column, with their keys. -/
def writtenEntries (column : Nat) : List (Scalar × Value) → List (Scalar × Text)
  | [] => []
  | (key, value) :: entries =>
    let entry :=
      if isSimpleKey key then
        let name := key.written (column + 2) false column
        name ++ [':'] ++ value.written column false (column + name.length + 2)
      else
        ['?', ' '] ++ key.written (column + 2) true (column + 2) ++ newLine column ++ [':'] ++
          value.written column true (column + 2)
    (key, entry) :: writtenEntries column entries

end

/-- The document that holds a mapping. -/
def document (entries : List (Scalar × Value)) : Text :=
  match entries with
  | [] => ['\x7b', '\x7d', '\n']
  | _ => Text.join ['\n'] ((sortEntries (writtenEntries 0 entries)).map (·.2)) ++ ['\n']

end Agenda.Yaml
