import Agenda.Text.Basic

/-!
# Lines of documents

A document ends its lines with a line feed, a carriage return, both together or the control U+0085,
which all mean the same, or with one of the separators U+2028 and U+2029, which are kept as they
are. A line of three dashes or three dots marks where a document begins or ends.
-/

namespace Agenda.Yaml

/-- May the character stand in a document? -/
def isAllowed (c : Char) : Bool :=
  let n := c.toNat
  n == 0x09 || n == 0x0A || n == 0x0D || (0x20 ≤ n && n ≤ 0x7E) || n == 0x85 ||
    (0xA0 ≤ n && n ≤ 0xFFFD) || 0x10000 ≤ n

/-- Does the character end a line? -/
def isBreak (c : Char) : Bool := c == '\n' || c == '\u2028' || c == '\u2029'

/-- The text with the line ends that mean the same written as line feeds. -/
def unifyBreaks : Text → Text
  | [] => []
  | '\r' :: '\n' :: s => '\n' :: unifyBreaks s
  | c :: s => (if c == '\r' || c == '\u0085' then '\n' else c) :: unifyBreaks s

/-- Is the character a space, a tab or a line end? -/
def isGap (c : Char) : Bool := c == ' ' || c == '\t' || isBreak c

/-- Does a token end here? -/
def endsToken : Text → Bool
  | [] => true
  | c :: _ => isGap c

/-- The mark at the start of a document. -/
def startMark : Text := ['-', '-', '-']

/-- The mark at the end of a document. -/
def endMark : Text := ['.', '.', '.']

/-- Does the text begin with a mark? -/
def beginsWithMark (mark s : Text) : Bool := mark.isPrefixOf s && endsToken (s.drop mark.length)

/-- Does the text begin with the mark of a start or an end? -/
def beginsWithAnyMark (s : Text) : Bool :=
  beginsWithMark startMark s || beginsWithMark endMark s

/-! ## Folding -/

/-- The white space that is being passed inside a scalar. -/
inductive Gap where
  | none
  /-- Spaces and tabs on one line. -/
  | blanks (s : Text)
  /-- Line ends and the indentation between them: the first line end, unless it was escaped, and the
  further ones. -/
  | lines (first : Option Char) (further : Text)
  deriving DecidableEq

namespace Gap

/-- A space or tab more. At the start of a line they are indentation. -/
def blank (c : Char) : Gap → Gap
  | none => blanks [c]
  | blanks s => blanks (s ++ [c])
  | lines first further => lines first further

/-- A line end more. Blanks before the first are dropped. -/
def lineEnd (c : Char) : Gap → Gap
  | lines first further => lines first (further ++ [c])
  | _ => lines (some c) []

/-- What the white space means. A single line feed is a space, and of several the first goes. -/
def text : Gap → Text
  | none => []
  | blanks s => s
  | lines Option.none further => further
  | lines (some c) further =>
    if c != '\n' then c :: further else if further.isEmpty then [' '] else further

end Gap

end Agenda.Yaml
