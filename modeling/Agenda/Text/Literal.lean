import Agenda.Text.Digit
import Agenda.Text.Printable

/-!
# Texts as literals

A text that is shown as an item of a list stands between quotes: single ones, or double ones if it
holds single quotes and no double ones. A backslash and the quote itself are written behind a
backslash, and so is, by its number, each character that is not printable.
-/

namespace Agenda.Text

/-- The hexadecimal digits of a number with the given letters, with zeros up to the given width. -/
def ofNatHex (upper : Bool) (width n : Nat) : Text :=
  let digits := (Nat.toDigits 16 n).map fun c ↦ if upper then c.toUpper else c
  List.replicate (width - digits.length) '0' ++ digits

/-- A character inside a literal. -/
def literalChar (quote c : Char) : Text :=
  if c == quote || c == '\\' then ['\\', c]
  else if c == '\n' then ['\\', 'n']
  else if c == '\r' then ['\\', 'r']
  else if c == '\t' then ['\\', 't']
  else if isPrintable c then [c]
  else if c.toNat < 0x100 then '\\' :: 'x' :: ofNatHex false 2 c.toNat
  else if c.toNat < 0x10000 then '\\' :: 'u' :: ofNatHex false 4 c.toNat
  else '\\' :: 'U' :: ofNatHex false 8 c.toNat

/-- The text between quotes. -/
def literal (s : Text) : Text :=
  let quote := if '\x27' ∈ s && '\x22' ∉ s then '\x22' else '\x27'
  quote :: s.flatMap (literalChar quote) ++ [quote]

end Agenda.Text
