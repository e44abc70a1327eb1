import Agenda.Text.CaseTable
import Agenda.Text.Range
import Agenda.Text.Basic

/-!
# Letter case

The small form of a text is the full mapping of Unicode: a capital I with a dot becomes two
characters, and a capital sigma takes its final form at the end of a word, which depends on the
letters around it. Single characters have a simple small form besides, on which the comparison of
regular expressions without regard to case rests.

Of capital forms only those are needed that begin with one of the letters A to Z.
-/

namespace Agenda

/-! ## Single characters -/

/-- The code point of the small form of a single character. -/
def smallCode : List (Nat × Nat × Nat × Nat) → Nat → Nat
  | [], n => n
  | (lo, hi, step, small) :: runs, n =>
    if n < lo then n
    else if n ≤ hi && (n - lo) % step == 0 then small + (n - lo)
    else smallCode runs n

/-- The small form of a character; a capital I with a dot has the letter i. -/
def simpleSmall (c : Char) : Char :=
  if c.toNat == 0x130 then 'i' else Char.ofNat (smallCode smallRuns c.toNat)

/-- The letter that the capital form of a character begins with, if it is one of A to Z, and whether
that capital form is a single character. -/
def latinCapital? (c : Char) : Option (Char × Bool) :=
  if 'a' ≤ c && c ≤ 'z' then some (Char.ofNat (c.toNat - 32), true)
  else if 'A' ≤ c && c ≤ 'Z' then some (c, true)
  else match c.toNat with
    | 0x131 => some ('I', true)
    | 0x17F => some ('S', true)
    | 0xDF => some ('S', false)
    | 0x1F0 => some ('J', false)
    | 0x1E96 => some ('H', false)
    | 0x1E97 => some ('T', false)
    | 0x1E98 => some ('W', false)
    | 0x1E99 => some ('Y', false)
    | 0x1E9A => some ('A', false)
    | 0xFB00 | 0xFB01 | 0xFB02 | 0xFB03 | 0xFB04 => some ('F', false)
    | 0xFB05 | 0xFB06 => some ('S', false)
    | _ => none

/-! ## Texts -/

/-- Is the next letter, past the characters to be ignored, one with case? -/
def meetsCased : Text → Bool
  | [] => false
  | c :: s =>
    if inRanges caseIgnorableRanges c.toNat then meetsCased s else inRanges casedRanges c.toNat

/-- The small form of a text whose characters before it are given in reverse. -/
def lowerFrom (before : Text) : Text → Text
  | [] => []
  | c :: s =>
    let small : Text :=
      if c.toNat == 0x130 then ['i', '\u0307']
      else if c.toNat == 0x3A3 then
        if meetsCased before && !meetsCased s then ['\u03C2'] else ['\u03C3']
      else [simpleSmall c]
    small ++ lowerFrom (c :: before) s

/-- The small form of a text. -/
def Text.lower (s : Text) : Text := lowerFrom [] s

/-- Is the character one of the letters A to Z or a to z? -/
def isLatin (c : Char) : Bool := ('a' ≤ c && c ≤ 'z') || ('A' ≤ c && c ≤ 'Z')

/-! ## Equality without regard to case -/

/-- Are two characters the same letter but for case and shape? -/
def sameLetter (a b : Char) : Bool :=
  let x := (simpleSmall a).toNat
  let y := (simpleSmall b).toNat
  x == y || shapeClasses.any fun letters ↦ letters.contains x && letters.contains y

end Agenda
