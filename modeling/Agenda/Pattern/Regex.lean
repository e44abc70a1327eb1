import Agenda.Text.Blank
import Agenda.Text.Case
import Agenda.Text.Digit
import Agenda.Text.WordChar

/-!
# Regular expressions

The patterns known from many tools: characters and classes, anchors, groups with or without capture,
references back to a captured text, alternatives and repetitions. Case is disregarded throughout.

Reading a pattern yields a tree, unless the pattern is malformed: a bracket or group left open, a
closing parenthesis too many, a repetition with nothing to repeat or of another repetition, a range
that runs backwards, a reference to a group that is not closed, a lone backslash at the end. A count
of 4294967295 or more is a fault of its own. The fault that comes first in the pattern is the one
that is told.

Only these constructs are supported. Everything else that other tools know counts as malformed:
groups with a name, a condition or a comment, look-around, groups that are not tried again, flags
inside a pattern, possessive repetitions, and characters given by their number or their name.
It is assumed that nothing bounds how deep groups are nested.

Whether a repetition is greedy is not kept, because only the question whether a text contains a
match is ever asked, and the answer is the same for both.
-/

namespace Agenda

/-! ## The tree -/

/-- A class of characters with a name. -/
inductive CharClass where
  | digit
  | space
  | word
  deriving DecidableEq, Repr

/-- Is the character in the class? -/
def CharClass.has : CharClass → Char → Bool
  | digit, c => isDigit c
  | space, c => isBlank c
  | word, c => isWordChar c

/-- One item between brackets. -/
inductive SetItem where
  /-- A character, in any case. -/
  | char (c : Char)
  /-- The characters from one to another, in any case. -/
  | range (first last : Char)
  /-- The characters of a class, or all others. -/
  | named (cls : CharClass) (negated : Bool)
  deriving DecidableEq, Repr

/-- Does the item contain the character? A range contains every character that is the same letter as
one in the range. -/
def SetItem.has : SetItem → Char → Bool
  | char a, c => sameLetter a c
  | range first last, c =>
    (first.toNat ≤ c.toNat && c.toNat ≤ last.toNat) ||
      (List.range' first.toNat (last.toNat + 1 - first.toNat)).any fun n ↦
        sameLetter (Char.ofNat n) c
  | named cls negated, c => cls.has c != negated

/-- A place that a pattern can be tied to. -/
inductive Anchor where
  /-- The start of the text. -/
  | start
  /-- The end of the text, or the place before a final line feed. -/
  | lineEnd
  /-- The end of the text. -/
  | textEnd
  /-- A place between a word character and another one. -/
  | boundary
  /-- A place that is no such boundary. -/
  | noBoundary
  deriving DecidableEq, Repr

/-- A regular expression. -/
inductive Regex where
  /-- Matches the empty text. -/
  | empty
  /-- Matches one character out of the items, or one that is in none of them. -/
  | set (items : List SetItem) (negated : Bool)
  /-- Matches any character but a line feed. -/
  | any
  /-- Matches the empty text at a place. -/
  | anchor (place : Anchor)
  /-- Matches one after the other. -/
  | seq (first second : Regex)
  /-- Matches one or the other. -/
  | alt (first second : Regex)
  /-- Matches what is inside, and captures it under a number. -/
  | group (number : Option Nat) (body : Regex)
  /-- Matches the text captured under a number. -/
  | back (number : Nat)
  /-- Matches what is inside so many times over. -/
  | rep (least : Nat) (most : Option Nat) (body : Regex)
  deriving DecidableEq, Repr

/-- Why a text is no pattern. -/
inductive RegexFault where
  /-- Something is left open, stands in the wrong place or has no meaning. -/
  | malformed
  /-- A repetition is asked for with a count that is too large. -/
  | hugeCount (count : Nat)
  deriving DecidableEq, Repr

namespace Regex

/-! ## Reading -/

/-- What is left of a pattern while it is read, how many groups were opened, and which of them are
closed. -/
structure Scan where
  /-- The rest of the pattern. -/
  rest : Text
  /-- The number of capturing groups opened so far. -/
  opened : Nat
  /-- The capturing groups that are closed. -/
  closed : List Nat

/-- A character behind a backslash that stands for a control character. -/
def controlEscape? : Char → Option Char
  | 'a' => some '\x07'
  | 'f' => some '\x0c'
  | 'n' => some '\n'
  | 'r' => some '\r'
  | 't' => some '\t'
  | 'v' => some '\x0b'
  | _ => none

/-- A character behind a backslash that names a class. -/
def classEscape? : Char → Option SetItem
  | 'd' => some (.named .digit false)
  | 'D' => some (.named .digit true)
  | 's' => some (.named .space false)
  | 'S' => some (.named .space true)
  | 'w' => some (.named .word false)
  | 'W' => some (.named .word true)
  | _ => none

/-- The item that a backslash and a character stand for, in brackets and outside: a class, a control
character, or the character itself unless it is a letter or a digit. -/
def itemEscape? (c : Char) : Option SetItem :=
  classEscape? c <|> (controlEscape? c).map .char <|>
    if isLatin c || ('0' ≤ c && c ≤ '9') then none else some (.char c)

/-- A character behind a backslash that is tied to a place. -/
def anchorEscape? : Char → Option Anchor
  | 'A' => some .start
  | 'Z' => some .textEnd
  | 'b' => some .boundary
  | 'B' => some .noBoundary
  | _ => none

/-- One end of a range or a single item between brackets, and the rest of the pattern. -/
def readSetItem? : Text → Option (SetItem × Text)
  | '\\' :: c :: rest =>
    if c == 'b' then some (.char '\x08', rest) else (itemEscape? c).map (·, rest)
  | ['\\'] => none
  | c :: rest => some (.char c, rest)
  | [] => none

/-- The items up to the closing bracket, and the rest of the pattern. A closing bracket that comes
first is an item, and so is a dash that comes last. -/
def readSet? : Nat → List SetItem → Text → Option (List SetItem × Text)
  | 0, _, _ => none
  | fuel + 1, items, s => do
    match s, items with
    | ']' :: rest, _ :: _ => return (items, rest)
    | _, _ =>
      let (item, rest) ← readSetItem? s
      match rest with
      | '-' :: ']' :: rest => return (items ++ [item, .char '-'], rest)
      | '-' :: rest =>
        let (other, rest) ← readSetItem? rest
        match item, other with
        | .char a, .char b =>
          if b < a then none else readSet? fuel (items ++ [.range a b]) rest
        | _, _ => none
      | _ => readSet? fuel (items ++ [item]) rest

/-- Is this a digit of a count? -/
def isCountDigit (c : Char) : Bool := '0' ≤ c && c ≤ '9'

/-- The least count that is too large. -/
def countLimit : Nat := 4294967295

/-- The counts behind an opening brace up to the closing one, and the rest of the pattern. Without a
comma there is one count only. -/
def readBraces? (s : Text) : Option (Text × Option Text × Text) :=
  match s.dropWhile isCountDigit with
  | '\x7d' :: rest => some (s.takeWhile isCountDigit, none, rest)
  | ',' :: t =>
    match t.dropWhile isCountDigit with
    | '\x7d' :: rest => some (s.takeWhile isCountDigit, some (t.takeWhile isCountDigit), rest)
    | _ => none
  | _ => none

/-- How often a repetition with some counts repeats. A single count is both the least and the most;
of two, a missing first one is zero and a missing second one no bound. -/
def repetition (low : Text) (high : Option Text) : Except RegexFault (Nat × Option Nat) :=
  let least := Text.toNat low
  if countLimit ≤ least then .error (.hugeCount least)
  else
    match high with
    | none => .ok (least, some least)
    | some [] => .ok (least, none)
    | some high =>
      let most := Text.toNat high
      if countLimit ≤ most then .error (.hugeCount most)
      else if most < least then .error .malformed
      else .ok (least, some most)

/-- How often a repetition repeats, and the rest of the pattern behind it. Braces that do not hold
counts are no repetition. Behind the braces, a backslash that is the last character is seen before
the counts are. -/
def readCounts? : Text → Except RegexFault (Option ((Nat × Option Nat) × Text))
  | '*' :: rest => .ok (some ((0, none), rest))
  | '+' :: rest => .ok (some ((1, none), rest))
  | '?' :: rest => .ok (some ((0, some 1), rest))
  | '\x7b' :: '\x7d' :: _ => .ok none
  | '\x7b' :: s =>
    match readBraces? s with
    | none => .ok none
    | some (low, high, rest) =>
      if rest == ['\\'] then .error .malformed
      else (repetition low high).map fun counts ↦ some (counts, rest)
  | _ => .ok none

/-- Can this be repeated? Places cannot, and neither can repetitions. -/
def isRepeatable : Regex → Bool
  | anchor _ | rep .. => false
  | _ => true

/-- The parts of a sequence, which are given in reverse. -/
def ofReversed (parts : List Regex) : Regex := parts.foldl (fun tail part ↦ seq part tail) empty

/-- The number of a reference back, of one or two digits, and the rest of the pattern. -/
def readReference (c : Char) (rest : Text) : Nat × Text :=
  match rest with
  | d :: tail => if '0' ≤ d && d ≤ '9' then (Text.toNat [c, d], tail) else (Text.toNat [c], rest)
  | [] => (Text.toNat [c], rest)

/-- A part that a backslash and a character begin. -/
def readEscape? (c : Char) (scan : Scan) : Option (Regex × Scan) :=
  if '1' ≤ c && c ≤ '9' then
    let (number, rest) := readReference c scan.rest
    if scan.closed.contains number then some (back number, { scan with rest := rest }) else none
  else
    ((anchorEscape? c).map anchor <|> (itemEscape? c).map fun item ↦ set [item] false).map (·, scan)

/-- What could not be read is malformed. -/
def orMalformed {α : Type} : Option α → Except RegexFault α
  | some a => .ok a
  | none => .error .malformed

mutual

/-- Reads alternatives up to a closing parenthesis or the end. -/
def readAlternatives? : Nat → Scan → Except RegexFault (Regex × Scan)
  | 0, _ => .error .malformed
  | fuel + 1, scan => do
    let (first, scan) ← readSequence? fuel [] scan
    match scan.rest with
    | '|' :: rest =>
      let (second, scan) ← readAlternatives? fuel { scan with rest := rest }
      return (alt first second, scan)
    | _ => return (first, scan)

/-- Reads a sequence behind the parts given in reverse. -/
def readSequence? : Nat → List Regex → Scan → Except RegexFault (Regex × Scan)
  | 0, _, _ => .error .malformed
  | fuel + 1, parts, scan =>
    match scan.rest with
    | [] | '|' :: _ | ')' :: _ => .ok (ofReversed parts, scan)
    | c :: rest => do
      match ← readCounts? scan.rest with
      | some ((least, most), rest) =>
        match parts with
        | [] => .error .malformed
        | part :: parts =>
          if part.isRepeatable then
            let rest := if rest.head? == some '?' then rest.drop 1 else rest
            readSequence? fuel (rep least most part :: parts) { scan with rest := rest }
          else .error .malformed
      | none =>
        let (part, scan) ← readPart? fuel c { scan with rest := rest }
        readSequence? fuel (part :: parts) scan

/-- Reads the part that begins with a character. -/
def readPart? : Nat → Char → Scan → Except RegexFault (Regex × Scan)
  | 0, _, _ => .error .malformed
  | fuel + 1, c, scan =>
    match c with
    | '.' => .ok (any, scan)
    | '^' => .ok (anchor .start, scan)
    | '$' => .ok (anchor .lineEnd, scan)
    | '\\' =>
      match scan.rest with
      | [] => .error .malformed
      | e :: rest => orMalformed (readEscape? e { scan with rest := rest })
    | '[' => do
      let negated := scan.rest.head? == some '^'
      let rest := if negated then scan.rest.drop 1 else scan.rest
      let (items, rest) ← orMalformed (readSet? (rest.length + 1) [] rest)
      return (set items negated, { scan with rest := rest })
    | '(' =>
      match scan.rest with
      | '?' :: ':' :: rest => do
        let (body, scan) ← readAlternatives? fuel { scan with rest := rest }
        match scan.rest with
        | ')' :: rest => return (group none body, { scan with rest := rest })
        | _ => .error .malformed
      | '?' :: _ => .error .malformed
      | rest => do
        let number := scan.opened + 1
        let (body, scan) ← readAlternatives? fuel { scan with rest := rest, opened := number }
        match scan.rest with
        | ')' :: rest =>
          return (group (some number) body,
            { scan with rest := rest, closed := number :: scan.closed })
        | _ => .error .malformed
    | _ => .ok (set [.char c] false, scan)

end

/-- Reads a pattern. -/
def ofText? (pattern : Text) : Except RegexFault Regex := do
  let (r, scan) ← readAlternatives? (3 * pattern.length + 3) ⟨pattern, 0, []⟩
  if scan.rest.isEmpty then return r else .error .malformed

end Regex

end Agenda
