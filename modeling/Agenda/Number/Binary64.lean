/-!
# Double precision numbers

A finite double is a whole number of the smallest positive double, `2 ^ (-1074)`, so a double is
represented by that whole number and a sign. Rounding a decimal fraction to the nearest double is
then exact arithmetic on natural numbers, and so is comparison. The sign is kept apart because it is
written for zero as well, although the two zeros are equal.
-/

namespace Agenda

/-- A double precision number. -/
inductive Binary64 where
  /-- Not a number. -/
  | nan
  /-- An infinity. -/
  | inf (negative : Bool)
  /-- So many units of `2 ^ (-1074)`. -/
  | finite (negative : Bool) (units : Nat)
  deriving DecidableEq, Repr

namespace Binary64

/-! ## Rounding -/

/-- The whole number nearest to `num / den`; a tie goes to the even neighbour. -/
def roundDiv (num den : Nat) : Nat :=
  let q := num / den
  let r := num % den
  if 2 * r < den then q
  else if den < 2 * r then q + 1
  else q + q % 2

/-- The distance of the doubles around so many units: 53 binary digits are kept. -/
def spacing (units : Nat) : Nat := Nat.pow 2 (units.log2 - 52)

/-- The least number of units that is too large for a double. -/
def limit : Nat := Nat.pow 2 (1024 + 1074)

/-- How many units make one. -/
def unitsOfOne : Nat := Nat.pow 2 1074

/-- The double nearest to the fraction `num / den`, with the given sign. -/
def ofFraction (negative : Bool) (num den : Nat) : Binary64 :=
  let step := spacing (num * unitsOfOne / den)
  let units := roundDiv (num * unitsOfOne) (den * step) * step
  if units < limit then finite negative units else inf negative

/-- The double nearest to `digits * 10 ^ exponent`. Beyond 10 ^ 400 every number is infinite and
below 10 ^ (-400) every number is zero, so no larger power of ten is ever formed. -/
def ofDecimal (negative : Bool) (digits : Nat) (exponent : Int) : Binary64 :=
  let magnitude : Int := (Nat.toDigits 10 digits).length + exponent
  if digits = 0 || magnitude < -400 then finite negative 0
  else if 400 < magnitude then inf negative
  else if 0 ≤ exponent then ofFraction negative (digits * Nat.pow 10 exponent.toNat) 1
  else ofFraction negative digits (Nat.pow 10 (-exponent).toNat)

/-! ## Comparison -/

/-- The signed number of units of a finite double. -/
def signed (negative : Bool) (units : Nat) : Int := if negative then -units else units

/-- Is the first at most the second? Nothing is comparable with what is not a number. -/
def le : Binary64 → Binary64 → Bool
  | nan, _ | _, nan => false
  | inf true, _ | _, inf false => true
  | inf false, _ | _, inf true => false
  | finite s m, finite t n => signed s m ≤ signed t n

/-- Are the two equal as numbers? The two zeros are. -/
def eq (x y : Binary64) : Bool := le x y && le y x

end Binary64

end Agenda
