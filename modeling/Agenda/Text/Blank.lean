import Agenda.Text.Basic

/-!
# Blanks and words

Blanks are the white space characters of Unicode together with the four information separators. The
words of a text are its longest runs of other characters. A text is exactly its words and the runs
of blanks around them, which is what lets a rewriting touch one word and nothing else.
-/

namespace Agenda

/-- White space: the controls and separators that Unicode calls so, and the four information
separators U+001C to U+001F. -/
def isBlank (c : Char) : Bool :=
  let n := c.toNat
  (0x09 ≤ n && n ≤ 0x0D) || (0x1C ≤ n && n ≤ 0x20) || n == 0x85 || n == 0xA0 || n == 0x1680 ||
    (0x2000 ≤ n && n ≤ 0x200A) || n == 0x2028 || n == 0x2029 || n == 0x202F || n == 0x205F ||
    n == 0x3000

namespace Text

/-- Is there nothing but white space? -/
def allBlank (s : Text) : Bool := s.all isBlank

/-- The text without white space at its ends. -/
def strip (s : Text) : Text := trim isBlank s

/-- The longest runs of characters that are not blank, from left to right. -/
def words (s : Text) : List Text := (splitWhere isBlank s).filter (!·.isEmpty)

/-- Does a word end here: is the text over, or is its next character blank? -/
def atBoundary : Text → Bool
  | [] => true
  | c :: _ => isBlank c

end Text

end Agenda
