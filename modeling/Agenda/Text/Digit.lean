import Agenda.Text.Basic

/-!
# Decimal digits

Every decimal digit of Unicode counts as a digit. The digits of one script stand in a row from zero
to nine, so the list of the zeros describes them all. A number is written back with ASCII digits.
It is assumed that nothing bounds how many digits a number has, neither in reading nor in writing.
-/

namespace Agenda

/-- The code points of the digits zero, one for each script. -/
def digitZeros : List Nat := [
  0x30, 0x660, 0x6F0, 0x7C0, 0x966, 0x9E6, 0xA66, 0xAE6, 0xB66, 0xBE6, 0xC66, 0xCE6, 0xD66, 0xDE6,
  0xE50, 0xED0, 0xF20, 0x1040, 0x1090, 0x17E0, 0x1810, 0x1946, 0x19D0, 0x1A80, 0x1A90, 0x1B50,
  0x1BB0, 0x1C40, 0x1C50, 0xA620, 0xA8D0, 0xA900, 0xA9D0, 0xA9F0, 0xAA50, 0xABF0, 0xFF10, 0x104A0,
  0x10D30, 0x11066, 0x110F0, 0x11136, 0x111D0, 0x112F0, 0x11450, 0x114D0, 0x11650, 0x116C0,
  0x11730, 0x118E0, 0x11950, 0x11C50, 0x11D50, 0x11DA0, 0x16A60, 0x16AC0, 0x16B50, 0x1D7CE,
  0x1D7D8, 0x1D7E2, 0x1D7EC, 0x1D7F6, 0x1E140, 0x1E2F0, 0x1E950, 0x1FBF0]

/-- The value of a decimal digit of any script. -/
def digitValue? (c : Char) : Option Nat :=
  (digitZeros.find? fun z ↦ z ≤ c.toNat && c.toNat < z + 10).map (c.toNat - ·)

/-- Is the character a decimal digit? -/
def isDigit (c : Char) : Bool := (digitValue? c).isSome

/-- The value of a decimal digit, zero for other characters. -/
def digitValue (c : Char) : Nat := (digitValue? c).getD 0

namespace Text

/-- Is the text a number: some digits and nothing else? -/
def isNumber (s : Text) : Bool := !s.isEmpty && s.all isDigit

theorem isNumber_iff {s : Text} : isNumber s = true ↔ s ≠ [] ∧ ∀ c ∈ s, isDigit c = true := by
  simp [isNumber]

/-- The number that a text of digits denotes. -/
def toNat (s : Text) : Nat := s.foldl (fun n c ↦ 10 * n + digitValue c) 0

/-- The decimal digits of a number. -/
def ofNat (n : Nat) : Text := Nat.toDigits 10 n

/-- The decimal digits of an integer, after a minus sign if it is negative. -/
def ofInt : Int → Text
  | .ofNat n => ofNat n
  | .negSucc n => '-' :: ofNat (n + 1)

/-- The decimal digits of a number, with zeros in front up to the given width. -/
def ofNatPadded (width n : Nat) : Text :=
  let digits := ofNat n
  List.replicate (width - digits.length) '0' ++ digits

end Text

end Agenda
