import Agenda.Pattern.Search
import Agenda.Pattern.Wildcard

/-!
# Patterns

Texts are matched by wildcards or, where the user prefers it, by regular expressions. A malformed
regular expression matches nothing; one with a count that is too large has no answer at all.
-/

namespace Agenda

/-- How the operand of a text comparison is understood. -/
inductive PatternStyle where
  | wildcard
  | regex
  deriving DecidableEq, Repr

/-- Why a pattern has no answer. -/
inductive PatternFault where
  /-- A repetition is asked for with a count that is too large. -/
  | hugeCount (count : Nat)
  deriving DecidableEq, Repr

/-- Does the pattern match the text? -/
def PatternStyle.matches? (style : PatternStyle) (pattern s : Text) : Except PatternFault Bool :=
  match style with
  | wildcard => .ok (Wildcard.matches? pattern s)
  | regex =>
    match Regex.ofText? pattern with
    | .ok r => .ok (r.search s)
    | .error .malformed => .ok false
    | .error (.hugeCount count) => .error (.hugeCount count)

theorem PatternStyle.matches?_wildcard (pattern s : Text) :
    wildcard.matches? pattern s = .ok (Wildcard.matches? pattern s) := rfl

end Agenda
