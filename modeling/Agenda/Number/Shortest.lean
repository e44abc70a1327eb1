import Agenda.Number.Binary64
import Agenda.Text.Digit

/-!
# The shortest decimal form of a double

A double is written with the fewest digits that read back as the same double, and of those with the
digits nearest to it. Both are found on the decimal grids of one digit, two digits and so on: the
first grid with a point in the interval of reals that round to the double wins. A grid has a point
in the interval only if one of the two grid points next to the double is in it.
-/

namespace Agenda.Binary64

/-! ## Digits and power of ten -/

/-- Does the fraction `num / den` of a unit round to so many units? The double must be positive.
Each end of the interval lies halfway to a neighbouring double and belongs to it if the double is
even. -/
def roundsTo (units num den : Nat) : Bool :=
  let step := spacing units
  let stepBelow := if units = Nat.pow 2 units.log2 then spacing (units - 1) else step
  let even := units / step % 2 == 0
  let low := (4 * units - 2 * stepBelow) * den
  let high := (4 * units + 2 * step) * den
  if even then low ≤ 4 * num && 4 * num ≤ high else low < 4 * num && 4 * num < high

/-- Of the grid points next to the double on the grid of multiples of `10 ^ power`, the nearest one
that reads back. -/
def gridDigits? (units : Nat) (power : Int) : Option Nat :=
  let num := if 0 ≤ power then units else units * Nat.pow 10 (-power).toNat
  let den := if 0 ≤ power then unitsOfOne * Nat.pow 10 power.toNat else unitsOfOne
  let scale (digits : Nat) : Nat × Nat :=
    if 0 ≤ power then (digits * Nat.pow 10 power.toNat * unitsOfOne, 1)
    else (digits * unitsOfOne, Nat.pow 10 (-power).toNat)
  let nearest := roundDiv num den
  let other := if nearest * den ≤ num then nearest + 1 else nearest - 1
  [nearest, other].find? fun digits ↦ let (n, d) := scale digits; roundsTo units n d

/-- The least power of ten above so many units, searched downwards from the given one. -/
def magnitudeFrom (units : Nat) : Nat → Int → Int
  | 0, power => power
  | fuel + 1, power =>
    let reached := if 0 ≤ power - 1 then unitsOfOne * Nat.pow 10 (power - 1).toNat ≤ units
      else unitsOfOne ≤ units * Nat.pow 10 (1 - power).toNat
    if reached then power else magnitudeFrom units fuel (power - 1)

/-- The shortest digits of a positive double and the power of ten of the last of them, with the
least number of digits tried given. -/
def shortestFrom (units : Nat) (magnitude : Int) : Nat → Nat → Nat × Int
  | 0, _ => (0, 0)
  | fuel + 1, count =>
    match gridDigits? units (magnitude - count) with
    | some digits => (digits, magnitude - count)
    | none => shortestFrom units magnitude fuel (count + 1)

/-- The shortest digits of a positive double and the power of ten of the last of them. -/
def shortest (units : Nat) : Nat × Int :=
  shortestFrom units (magnitudeFrom units 640 310) 17 1

/-! ## Positional and scientific form -/

/-- The digits of a number without zeros at the end, and how many zeros there were. -/
def dropZeros (digits : Text) : Text × Nat :=
  let kept := Text.trimEnd (· == '0') digits
  (kept, digits.length - kept.length)

/-- A positive double in decimal form: positional from 0.0001 up to 10 ^ 16, scientific outside, the
exponent with a sign and at least two digits, and a fraction of one zero for whole numbers. -/
def positiveText (units : Nat) : Text :=
  let (number, power) := shortest units
  let (digits, zeros) := dropZeros (Text.ofNat number)
  let point : Int := power + zeros + digits.length
  if -4 < point && point ≤ 16 then
    if point ≤ 0 then "0.".toList ++ List.replicate (-point).toNat '0' ++ digits
    else if digits.length ≤ point.toNat then
      digits ++ List.replicate (point.toNat - digits.length) '0' ++ ".0".toList
    else digits.take point.toNat ++ ['.'] ++ digits.drop point.toNat
  else
    let exponent := point - 1
    let mantissa := match digits with
      | first :: second :: rest => first :: '.' :: second :: rest
      | _ => digits
    mantissa ++ ['e', if exponent < 0 then '-' else '+'] ++ Text.ofNatPadded 2 exponent.natAbs

/-- The decimal form of a double. -/
def toText : Binary64 → Text
  | nan => "nan".toList
  | inf negative => (if negative then ['-'] else []) ++ "inf".toList
  | finite negative units =>
    (if negative then ['-'] else []) ++ if units = 0 then "0.0".toList else positiveText units

end Agenda.Binary64
