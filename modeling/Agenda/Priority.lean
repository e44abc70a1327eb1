import Agenda.Text.Case

/-!
# Priorities

A priority is one of the letters A to Z, A being the highest, or missing. In a filter the letter may
be small, and any letter counts whose capital form is one of A to Z. A letter whose capital form is
several characters, the first of them among A to Z, is a fault and not a missing priority.
-/

namespace Agenda

/-- A priority, zero for A and 25 for Z. -/
abbrev Priority := Fin 26

/-- Why a text cannot be read as a priority. -/
inductive PriorityFault where
  /-- The capital form of the letter is not a single character. -/
  | wideCapital (letter : Char)
  deriving DecidableEq, Repr

namespace Priority

/-- The letter of a priority. -/
def letter (p : Priority) : Char := Char.ofNat (65 + p.val)

/-- The priority that a text names, if it is a single letter. -/
def ofText? : Text → Except PriorityFault (Option Priority)
  | [c] =>
    match latinCapital? c with
    | some (capital, true) => .ok (some (Fin.ofNat 26 (capital.toNat - 65)))
    | some (_, false) => .error (.wideCapital c)
    | none => .ok none
  | _ => .ok none

/-- The priority written in parentheses. -/
def ofMark? (word : Text) : Option Priority :=
  match Text.chomp word with
  | ['(', c, ')'] => if 'A' ≤ c && c ≤ 'Z' then some (Fin.ofNat 26 (c.toNat - 65)) else none
  | _ => none

/-- A priority in parentheses. -/
def toMark (p : Priority) : Text := ['(', p.letter, ')']

@[simp] theorem ofMark?_toMark (p : Priority) : ofMark? p.toMark = some p := by
  revert p; decide

end Priority

end Agenda
