import Agenda.Number.Literal
import Agenda.Number.Shortest
import Agenda.Text.Literal
import Agenda.Yaml.Moment

/-!
# Plain scalars

A scalar without quotes has a type that its form tells: the words for nothing and for the truth
values, numbers in several bases, days and moments. Any other plain scalar is a text. The forms are
narrower than the numbers people type elsewhere: only ASCII digits count, a float needs its point,
and an exponent its sign.
-/

namespace Agenda.Yaml

/-! ## Forms -/

/-- What the form of a plain scalar says. -/
inductive Form where
  | null
  | bool
  | int
  | float
  | date
  /-- A day and a time of day. -/
  | moment
  /-- The key that merges other mappings. -/
  | merge
  /-- The key that names the value of a mapping. -/
  | value
  | text
  deriving DecidableEq, Repr

/-- The words for nothing. The empty scalar says so too. -/
def nullWords : List Text := [[], ['~'], "null".toList, "Null".toList, "NULL".toList]

/-- The words for truth. -/
def trueWords : List Text :=
  ["yes".toList, "Yes".toList, "YES".toList, "true".toList, "True".toList, "TRUE".toList,
    "on".toList, "On".toList, "ON".toList]

/-- The words for falsehood. -/
def falseWords : List Text :=
  ["no".toList, "No".toList, "NO".toList, "false".toList, "False".toList, "FALSE".toList,
    "off".toList, "Off".toList, "OFF".toList]

/-- The words for infinity behind the point. -/
def infWords : List Text := [".inf".toList, ".Inf".toList, ".INF".toList]

/-- The words for what is not a number. -/
def nanWords : List Text := [".nan".toList, ".NaN".toList, ".NAN".toList]

/-- Is the character an ASCII digit or an underscore? -/
def isDecimalOrGap (c : Char) : Bool := isDecimal c || c == '_'

/-- Is the character a hexadecimal digit? -/
def isHex (c : Char) : Bool :=
  isDecimal c || ('a' ≤ c && c ≤ 'f') || ('A' ≤ c && c ≤ 'F')

/-- Is the text a number of minutes or seconds, below sixty? -/
def isSixtieth : Text → Bool
  | [d] => isDecimal d
  | [t, d] => '0' ≤ t && t ≤ '5' && isDecimal d
  | _ => false

/-- An integer behind its sign: binary, hexadecimal, octal, decimal, or sixtieths between colons. -/
def isIntBody : Text → Bool
  | ['0'] => true
  | '0' :: 'b' :: s => !s.isEmpty && s.all fun c ↦ c == '0' || c == '1' || c == '_'
  | '0' :: 'x' :: s => !s.isEmpty && s.all fun c ↦ isHex c || c == '_'
  | '0' :: s => s.all fun c ↦ ('0' ≤ c && c ≤ '7') || c == '_'
  | s =>
    match Text.splitOn ':' s with
    | (c :: digits) :: pieces => isDecimal c && digits.all isDecimalOrGap && pieces.all isSixtieth
    | _ => false

/-- Nothing, or an exponent with a sign. -/
def isExponent : Text → Bool
  | [] => true
  | e :: sign :: digits =>
    (e == 'e' || e == 'E') && (sign == '-' || sign == '+') && !digits.isEmpty &&
      digits.all isDecimal
  | _ => false

/-- A float behind its sign: digits with a point and an exponent, or sixtieths with a point. -/
def isFloatBody (s : Text) : Bool :=
  match Text.cut? ['.'] s with
  | none => false
  | some (whole, rest) =>
    match Text.splitOn ':' whole with
    | [c :: digits] =>
      isDecimal c && digits.all isDecimalOrGap && isExponent (rest.dropWhile isDecimalOrGap)
    | (c :: digits) :: pieces =>
      isDecimal c && digits.all isDecimalOrGap && pieces.all isSixtieth && rest.all isDecimalOrGap
    | _ => false

/-- A fraction that begins with its point. It has no sign. -/
def isFraction : Text → Bool
  | '.' :: c :: s => isDecimal c && isExponent (s.dropWhile isDecimalOrGap)
  | _ => false

/-- Four, two and two digits with dashes between. -/
def isDateBody : Text → Bool
  | [y₁, y₂, y₃, y₄, '-', m₁, m₂, '-', d₁, d₂] =>
    [y₁, y₂, y₃, y₄, m₁, m₂, d₁, d₂].all isDecimal
  | _ => false

/-- What the form of a plain scalar says. -/
def Form.of (s : Text) : Form :=
  let body := (Text.sign s).2
  if nullWords.contains s then null
  else if trueWords.contains s || falseWords.contains s then bool
  else if isIntBody body then int
  else if isFloatBody body || isFraction s || infWords.contains body ||
    nanWords.contains s then float
  else if isDateBody s then date
  else if (MomentParts.ofText? s).isSome then moment
  else if s == ['<', '<'] then merge
  else if s == ['='] then value
  else text

/-! ## Values -/

/-- A scalar. -/
inductive Scalar where
  | null
  | bool (value : Bool)
  | int (value : Int)
  | double (value : Binary64)
  | date (value : Date)
  | moment (value : Moment)
  | text (value : Text)
  deriving DecidableEq

/-- Why a document cannot be read. -/
inductive Fault where
  /-- It breaks a rule of the format. -/
  | malformed
  /-- A scalar has the form of a number, day or moment that does not exist. -/
  | impossible
  deriving DecidableEq, Repr

/-- The value of a digit in any base up to sixteen. -/
def hexValue (c : Char) : Nat :=
  if isDecimal c then c.toNat - '0'.toNat
  else if 'a' ≤ c then c.toNat - 'a'.toNat + 10
  else c.toNat - 'A'.toNat + 10

/-- The number that digits in a base denote. -/
def ofDigits (base : Nat) (digits : Text) : Nat :=
  digits.foldl (fun n c ↦ base * n + hexValue c) 0

/-- The number of an integer behind its sign, without underscores. -/
def readIntBody? : Text → Option Nat
  | ['0', 'b'] | ['0', 'x'] => none
  | '0' :: 'b' :: s => some (ofDigits 2 s)
  | '0' :: 'x' :: s => some (ofDigits 16 s)
  | '0' :: s => some (ofDigits 8 s)
  | s => some (((Text.splitOn ':' s).map (ofDigits 10)).foldl (fun n d ↦ 60 * n + d) 0)

/-- The number of a float behind its sign, without underscores. Sixtieths are added up from the last
to the first, rounding each time. -/
def readFloatBody? (s : Text) : Option Binary64 := do
  let pieces ← (Text.splitOn ':' s).mapM readDouble?
  match pieces with
  | [x] => return x
  | _ =>
    let units : Binary64 → Nat
      | .finite _ n => n
      | _ => 0
    let (total, _) := pieces.reverse.foldl (fun (total, base) x ↦
      let term := units (.ofFraction false (units x * base) Binary64.unitsOfOne)
      (units (.ofFraction false (total + term) Binary64.unitsOfOne), 60 * base)) (0, 1)
    return .finite false total

/-- The double with the sign given. -/
def withSign (negative : Bool) : Binary64 → Binary64
  | .nan => .nan
  | .inf _ => .inf negative
  | .finite _ units => .finite negative units

/-- The value of a plain scalar. -/
def Scalar.ofPlain (s : Text) : Except Fault Scalar :=
  let (negative, body) := Text.sign s
  let dense := body.filter (· != '_')
  let orImpossible : Option Scalar → Except Fault Scalar
    | some value => .ok value
    | none => .error .impossible
  match Form.of s with
  | .null => .ok null
  | .bool => .ok (bool (trueWords.contains s))
  | .int => orImpossible ((readIntBody? dense).map fun n ↦ int (if negative then -n else n))
  | .float =>
    if infWords.contains body then .ok (double (.inf negative))
    else if nanWords.contains s then .ok (double .nan)
    else orImpossible ((readFloatBody? dense).map fun x ↦ double (withSign negative x))
  | .date => orImpossible ((Date.ofText? s).map date)
  | .moment => orImpossible ((MomentParts.ofText? s >>= Moment.ofParts?).map moment)
  | .merge | .value => .error .malformed
  | .text => .ok (text s)

namespace Scalar

/-- The scalar as people read it. -/
def toText : Scalar → Text
  | null => "None".toList
  | bool true => "True".toList
  | bool false => "False".toList
  | int n => Text.ofInt n
  | double x => x.toText
  | date d => d.toPaddedText
  | moment m => m.toText
  | text s => s

/-- The scalar as an item of a list. -/
def toItem : Scalar → Text
  | date d => "datetime.date(".toList ++
      Text.join [',', ' '] ([d.year, d.month, d.day].map Text.ofNat) ++ [')']
  | moment m => m.toItem
  | text s => Text.literal s
  | s => s.toText

/-- The number that a scalar counts as, in units of the smallest double. -/
def units? : Scalar → Option Int
  | bool b => some (if b then Binary64.unitsOfOne else 0)
  | int n => some (n * Binary64.unitsOfOne)
  | double (.finite negative units) => some (Binary64.signed negative units)
  | _ => none

/-- Do two scalars name the same entry of a mapping? Equal numbers do, whatever their type, and so
do the same moments. What is not a number names an entry of its own each time. -/
def sameKey (a b : Scalar) : Bool :=
  match a, b with
  | moment a, moment b => a.same b
  | _, _ =>
    match a.units?, b.units? with
    | some m, some n => m == n
    | _, _ => a == b && a != double .nan

/-- Does the scalar count as true? -/
def isTruthy : Scalar → Bool
  | null => false
  | bool b => b
  | int n => n != 0
  | double x => !x.eq (.finite false 0)
  | date _ | moment _ => true
  | text s => !s.isEmpty

end Scalar

end Agenda.Yaml
