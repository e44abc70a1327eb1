import Agenda.Yaml.Cursor
import Agenda.Yaml.ScalarText
import Agenda.Yaml.Value

/-!
# The structure of documents

A document is read as a tree of scalars, lists and mappings before its scalars are given values.
Blocks are told by their columns. The entries of a block all begin in the column of the first one,
what they hold begins further to the right, and a line further to the left ends the block. A list
that is the value of a key may begin in the column of the key.

A key is a scalar, or a list or mapping in brackets, with a colon behind it on the same line; where
no block may begin there can be no such key, so a line holds at most one. Reading a block stops at
the first token that does not continue it. What stops an inner block lies to the right of all outer
ones, so nobody takes it up and the document is refused because something is left.

Blocks, brackets, scalars with and without quotes, comments and the marks around a document are all
that is supported. Everything else that the format has counts as malformed: anchors and references
to them, tags, merged mappings, scalars in blocks, directives, and a second document. It is assumed
that nothing bounds how deep blocks and brackets are nested.
-/

namespace Agenda.Yaml

/-- A part of a document. -/
inductive Node where
  /-- A scalar without quotes. -/
  | plain (text : Text)
  /-- A scalar between quotes. -/
  | quoted (text : Text)
  | list (items : List Node)
  | map (entries : List (Node × Node))

namespace Node

/-- A part that is left out. -/
def missing : Node := plain []

/-- The number of characters from the start of a key to its colon. -/
def longestKey : Nat := 1024

/-- The place behind the colon, if what lies between two places is a key. -/
def colonBehind? (inFlow : Bool) (before after : Cursor) : Option Cursor :=
  let spaces := (after.rest.takeWhile (· == ' ')).length
  let colon := after.eat spaces false
  if before.line == after.line && colon.isAt ':' && (inFlow || endsToken (colon.rest.drop 1)) &&
      before.rest.length ≤ colon.rest.length + longestKey then
    some (colon.eat 1 false)
  else none

/-- Reads a scalar. -/
def readScalar? (inFlow : Bool) (least : Nat) (c : Cursor) : Option (Node × Cursor) :=
  match c.rest with
  | [] => none
  | first :: s =>
    if first == '\x27' || first == '\x22' then
      (readQuoted? (first == '\x22') (.within .none) s).map fun (text, rest) ↦
        (quoted text, c.moveTo rest)
    else if beginsPlain inFlow first s then
      let (text, rest) := readPlain inFlow least .none c.column [] c.rest
      some (plain text, c.moveTo rest)
    else none

/-! ## In brackets -/

mutual

/-- Reads a list or mapping in brackets, or a scalar inside of one. -/
def readFlow? (inFlow : Bool) (least : Nat) : Nat → Cursor → Option (Node × Cursor)
  | 0, _ => none
  | fuel + 1, c => do
    if c.isAtBorder then none
    else if c.isAt '[' then
      let (parts, c) ← readParts? ']' true fuel (c.eat 1 false).skip
      return (list (parts.map fun (node, value) ↦ match value with
        | some value => map [(node, value)]
        | none => node), c)
    else if c.isAt '\x7b' then
      let (parts, c) ← readParts? '\x7d' true fuel (c.eat 1 false).skip
      return (map (parts.map fun (node, value) ↦ (node, value.getD missing)), c)
    else readScalar? inFlow least c

/-- Reads the parts up to the closing bracket: nodes, some of them keys with values. -/
def readParts? (closing : Char) (first : Bool) :
    Nat → Cursor → Option (List (Node × Option Node) × Cursor)
  | 0, _ => none
  | fuel + 1, c => do
    if c.isAt closing then return ([], c.eat 1 false)
    else if first then
      let (part, c) ← readPart? closing fuel c
      let (parts, c) ← readParts? closing false fuel c.skip
      return (part :: parts, c)
    else if c.isAt ',' then
      let c := (c.eat 1 false).skip
      if c.isAt closing then return ([], c.eat 1 false)
      else readParts? closing true fuel c
    else none

/-- Reads one part: a node, or a key and a value. A key may be announced by a question mark. -/
def readPart? (closing : Char) : Nat → Cursor → Option ((Node × Option Node) × Cursor)
  | 0, _ => none
  | fuel + 1, c => do
    if c.isAt '?' then
      let c := (c.eat 1 false).skip
      let (key, c) ←
        if c.isAt ':' || c.isAt ',' || c.isAt closing then some (missing, c)
        else readFlow? true 0 fuel c
      let c := c.skip
      let (value, c) ←
        if c.isAt ':' then readFlowValue? closing fuel (c.eat 1 false).skip else some (missing, c)
      return ((key, some value), c)
    else
      let (node, after) ← readFlow? true 0 fuel c
      match colonBehind? true c after with
      | some colon =>
        let (value, c) ← readFlowValue? closing fuel colon.skip
        return ((node, some value), c)
      | none => return ((node, none), after)

/-- Reads the value of a key. It may be missing. -/
def readFlowValue? (closing : Char) : Nat → Cursor → Option (Node × Cursor)
  | 0, _ => none
  | fuel + 1, c =>
    if c.isAt ',' || c.isAt closing then some (missing, c) else readFlow? true 0 fuel c

end

/-! ## In blocks -/

/-- Is the next token in the column of a block that it may continue? -/
def continues (column : Nat) (c : Cursor) : Bool := c.fresh && c.column == column && !c.isAtBorder

mutual

/-- Reads what a block holds, which lies at the column `least` or to the right of it. Below a key a
list may begin one column to the left. -/
def readBlock? (least : Nat) (belowKey : Bool) : Nat → Cursor → Option (Node × Cursor)
  | 0, _ => none
  | fuel + 1, c => do
    if c.isAtBorder then return (missing, c)
    else if c.isAtMarker '-' && (least ≤ c.column || (belowKey && least == c.column + 1)) then
      if c.fresh then
        let (items, c) ← readItems? c.column fuel c
        return (list items, c)
      else none
    else if c.column < least then return (missing, c)
    else if c.isAtMarker '?' then
      if c.fresh then
        let (entries, c) ← readEntries? c.column fuel c
        return (map entries, c)
      else none
    else
      let (node, after) ← readFlow? false least fuel c
      if c.fresh && (colonBehind? false c after).isSome then
        let (entries, c) ← readEntries? c.column fuel c
        return (map entries, c)
      else return (node, after)
termination_by structural fuel => fuel

/-- Reads the items of a list that stands in a column. -/
def readItems? (column : Nat) : Nat → Cursor → Option (List Node × Cursor)
  | 0, _ => none
  | fuel + 1, c => do
    let (item, c) ← readBlock? (column + 1) false fuel (c.eat 1 true).skip
    let c := c.skip
    if continues column c && c.isAtMarker '-' then
      let (items, c) ← readItems? column fuel c
      return (item :: items, c)
    else return ([item], c)
termination_by structural fuel => fuel

/-- Reads the entries of a mapping that stands in a column. -/
def readEntries? (column : Nat) : Nat → Cursor → Option (List (Node × Node) × Cursor)
  | 0, _ => none
  | fuel + 1, c => do
    let (entry, c) ← readEntry? column fuel c
    let c := c.skip
    if continues column c && !c.isAtMarker '-' then
      let (entries, c) ← readEntries? column fuel c
      return (entry :: entries, c)
    else return ([entry], c)
termination_by structural fuel => fuel

/-- Reads one entry of a mapping that stands in a column. -/
def readEntry? (column : Nat) : Nat → Cursor → Option ((Node × Node) × Cursor)
  | 0, _ => none
  | fuel + 1, c => do
    if c.isAtMarker '?' then
      let (key, c) ← readBlock? (column + 1) true fuel (c.eat 1 true).skip
      let c := c.skip
      if continues column c && c.isAtMarker ':' then
        let (value, c) ← readBlock? (column + 1) true fuel (c.eat 1 true).skip
        return ((key, value), c)
      else return ((key, missing), c)
    else
      let (key, after) ← readFlow? false (column + 1) fuel c
      let colon ← colonBehind? false c after
      let (value, c) ← readBlock? (column + 1) true fuel colon.skip
      return ((key, value), c)
termination_by structural fuel => fuel

end

/-! ## Documents -/

/-- Passes the marks at the end of a document. -/
def skipEndMarks : Nat → Cursor → Cursor
  | 0, c => c
  | fuel + 1, c =>
    if c.isAtMark endMark then skipEndMarks fuel (c.eat endMark.length false).skip else c

/-- The tree of a text that holds one document, or none. -/
def ofText? (text : Text) : Option Node := do
  guard (text.all isAllowed)
  let text := unifyBreaks text
  let text := if text.head? == some '\ufeff' then text.drop 1 else text
  let fuel := 4 * text.length + 8
  let c := (Cursor.start text).skip
  guard (!c.isAtMark endMark)
  let c := if c.isAtMark startMark then (c.eat startMark.length false).skip else c
  let (node, c) ← readBlock? 0 false fuel c
  let c := skipEndMarks fuel c.skip
  guard c.isAtEnd
  return node

/-! ## Values -/

/-- The value of a scalar as a key of a mapping. -/
def key : Node → Except Fault Scalar
  | plain s => if Form.of s = .value then .ok (.text s) else Scalar.ofPlain s
  | quoted s => .ok (.text s)
  | _ => .error .malformed

mutual

/-- The value of a part of a document. -/
def value : Node → Except Fault Value
  | plain s => (Scalar.ofPlain s).map .scalar
  | quoted s => .ok (.text s)
  | list items => (values items).map .list
  | map entries => (bindings [] entries).map .map

/-- The values of the items of a list. -/
def values : List Node → Except Fault (List Value)
  | [] => .ok []
  | item :: items => do return (← value item) :: (← values items)

/-- The entries of a mapping, added to those given. -/
def bindings (entries : List (Scalar × Value)) :
    List (Node × Node) → Except Fault (List (Scalar × Value))
  | [] => .ok entries
  | (k, v) :: rest => do bindings (putEntry (← key k) (← value v) entries) rest

end

end Node

/-- The value of a document. -/
def Value.ofText (text : Text) : Except Fault Value :=
  match Node.ofText? text with
  | some node => node.value
  | none => .error .malformed

end Agenda.Yaml
