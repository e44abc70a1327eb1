import Agenda.Text.Case

/-!
# Wildcards

A pattern matches a text without regard to case. A star at the start or at the end of the pattern
stands for any text; stars elsewhere and all other characters stand for themselves.
-/

namespace Agenda.Wildcard

/-- Does the pattern match, both texts being in small letters already? -/
def matchesLower (pattern s : Text) : Bool :=
  let core := Text.trim (· == '*') pattern
  match pattern.head? == some '*', pattern.getLast? == some '*' with
  | true, true => Text.contains s core
  | true, false => core.isSuffixOf s
  | false, true => core.isPrefixOf s
  | false, false => pattern == s

/-- Does the pattern match the text? -/
def matches? (pattern s : Text) : Bool := matchesLower (Text.lower pattern) (Text.lower s)

theorem matches?_self {pattern : Text} (hs : (Text.lower pattern).head? ≠ some '*')
    (he : (Text.lower pattern).getLast? ≠ some '*') : matches? pattern pattern = true := by
  have h₁ : ((Text.lower pattern).head? == some '*') = false := by simpa using hs
  have h₂ : ((Text.lower pattern).getLast? == some '*') = false := by simpa using he
  simp [matches?, matchesLower, h₁, h₂]

end Agenda.Wildcard
