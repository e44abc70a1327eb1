import Agenda.Yaml.Break

/-!
# Places in a document

A cursor is a place in a document: the text behind it, the line and the column, and whether a block
may begin there. A block begins only where a line has nothing but indentation before it, or behind
the mark of another block.
-/

namespace Agenda.Yaml

/-- A place in a document. -/
structure Cursor where
  /-- The text behind the place. -/
  rest : Text
  /-- The number of line ends before it. -/
  line : Nat
  /-- The number of characters before it on its line. -/
  column : Nat
  /-- Whether a block may begin here. -/
  fresh : Bool

namespace Cursor

/-- The place at the start of a text. -/
def start (s : Text) : Cursor := ⟨s, 0, 0, true⟩

/-- Is the document over? -/
def isAtEnd (c : Cursor) : Bool := c.rest.isEmpty

/-- Does the line begin with the mark? -/
def isAtMark (c : Cursor) (mark : Text) : Bool := c.column == 0 && beginsWithMark mark c.rest

/-- Does the line begin with a mark, or is the document over? -/
def isAtBorder (c : Cursor) : Bool := c.isAtEnd || c.isAtMark startMark || c.isAtMark endMark

/-- Is the character next? -/
def isAt (c : Cursor) (char : Char) : Bool := c.rest.head? == some char

/-- Is the character next, and nothing attached to it? -/
def isAtMarker (c : Cursor) (char : Char) : Bool := c.isAt char && endsToken (c.rest.drop 1)

/-- The place behind some characters of the same line. A block may begin there if `fresh` says so.
-/
def eat (c : Cursor) (count : Nat) (fresh : Bool) : Cursor :=
  { c with rest := c.rest.drop count, column := c.column + count, fresh := fresh }

/-- The line and column behind a text. -/
def placeBehind (line column : Nat) : Text → Nat × Nat
  | [] => (line, column)
  | c :: s => if isBreak c then placeBehind (line + 1) 0 s else placeBehind line (column + 1) s

/-- The place where the given rest begins. -/
def moveTo (c : Cursor) (rest : Text) : Cursor :=
  let (line, column) :=
    placeBehind c.line c.column (c.rest.take (c.rest.length - rest.length))
  ⟨rest, line, column, false⟩

/-- The next token behind spaces, line ends and comments. -/
def skipFrom (line column : Nat) (fresh inComment : Bool) : Text → Cursor
  | [] => ⟨[], line, column, fresh⟩
  | c :: s =>
    if isBreak c then skipFrom (line + 1) 0 true false s
    else if inComment || c == ' ' || c == '#' then
      skipFrom line (column + 1) fresh (inComment || c == '#') s
    else ⟨c :: s, line, column, fresh⟩

/-- The next token behind spaces, line ends and comments. -/
def skip (c : Cursor) : Cursor := skipFrom c.line c.column c.fresh false c.rest

end Cursor

end Agenda.Yaml
