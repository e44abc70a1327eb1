import Agenda.Calendar.Written

/-!
# Moments

A moment is a day with a time of day, perhaps to the microsecond, and perhaps with a zone. Without a
zone nobody knows when it was, so it is never the same as a moment with one; two moments with zones
are the same if they name the same instant.

The form is looser than that of a day: month, day and hour may have one digit, and a fraction may
have any number, of which six count. The form alone does not make a moment, because the day, the
time or the zone may not exist.
-/

namespace Agenda.Yaml

/-- Is the character an ASCII digit? -/
def isDecimal (c : Char) : Bool := '0' ≤ c && c ≤ '9'

/-- Is the character a space or a tab? -/
def isSpaceOrTab (c : Char) : Bool := c == ' ' || c == '\t'

/-- A day and a time of day. -/
structure Moment where
  /-- The day. -/
  date : Date
  /-- The hour, from 0 to 23. -/
  hour : Nat
  /-- The minute, from 0 to 59. -/
  minute : Nat
  /-- The second, from 0 to 59. -/
  second : Nat
  /-- The millionths of a second. -/
  micro : Nat
  /-- How many minutes the clock is ahead of Greenwich, if that is known. -/
  zone : Option Int
  deriving DecidableEq

/-- The numbers of a written moment, whether there is such a moment or not. -/
structure MomentParts where
  year : Nat
  month : Nat
  day : Nat
  hour : Nat
  minute : Nat
  second : Nat
  micro : Nat
  zone : Option Int

/-! ## Reading -/

/-- The number of one or two ASCII digits, and the text behind them. -/
def shortNumber? : Text → Option (Nat × Text)
  | [] => none
  | t :: s =>
    if !isDecimal t then none
    else match s with
      | d :: rest => some (if isDecimal d then (Text.toNat [t, d], rest) else (Text.toNat [t], s))
      | [] => some (Text.toNat [t], [])

/-- The number of two ASCII digits behind a character, and the text behind them. -/
def pairBehind? (mark : Char) : Text → Option (Nat × Text)
  | c :: t :: d :: s =>
    if c == mark && isDecimal t && isDecimal d then some (Text.toNat [t, d], s) else none
  | _ => none

/-- The text behind a character. -/
def behind? (mark : Char) : Text → Option Text
  | c :: s => if c == mark then some s else none
  | [] => none

/-- The text behind the blanks, or behind the letter, that part a day from a time of day. -/
def behindDay? (s : Text) : Option Text :=
  match s.takeWhile isSpaceOrTab with
  | [] => behind? 'T' s <|> behind? 't' s
  | blanks => some (s.drop blanks.length)

/-- The zone at the end of a moment. It may be missing, but then so must be the blanks before it. -/
def readZone? (s : Text) : Option (Option Int) :=
  match s.dropWhile isSpaceOrTab with
  | [] => if s.isEmpty then some none else none
  | ['Z'] => some (some 0)
  | sign :: rest => do
    guard (sign == '-' || sign == '+')
    let (hours, rest) ← shortNumber? rest
    let (minutes, rest) ← if rest.isEmpty then some (0, []) else pairBehind? ':' rest
    guard rest.isEmpty
    let ahead : Int := 60 * hours + minutes
    return some (if sign == '-' then -ahead else ahead)

/-- The millionths of a second that a fraction amounts to, and the text behind it. -/
def readFraction : Text → Nat × Text
  | '.' :: s =>
    (Text.toNat ((s.takeWhile isDecimal ++ List.replicate 6 '0').take 6), s.dropWhile isDecimal)
  | s => (0, s)

/-- The numbers of a moment, if a text has the form of one. -/
def MomentParts.ofText? (s : Text) : Option MomentParts := do
  let digits := s.take 4
  guard (digits.length == 4 && digits.all isDecimal)
  let (month, s) ← behind? '-' (s.drop 4) >>= shortNumber?
  let (day, s) ← behind? '-' s >>= shortNumber?
  let (hour, s) ← behindDay? s >>= shortNumber?
  let (minute, s) ← pairBehind? ':' s
  let (second, s) ← pairBehind? ':' s
  let (micro, s) := readFraction s
  let zone ← readZone? s
  return ⟨Text.toNat digits, month, day, hour, minute, second, micro, zone⟩

/-- Is the zone less than a day ahead of Greenwich and less than a day behind? -/
def isZone (minutes : Int) : Bool := -1440 < minutes && minutes < 1440

/-- The moment with some numbers, if it exists. -/
def Moment.ofParts? (p : MomentParts) : Option Moment := do
  let date ← Date.ofParts? p.year p.month p.day
  guard (p.hour < 24 && p.minute < 60 && p.second < 60 && p.zone.all isZone)
  return ⟨date, p.hour, p.minute, p.second, p.micro, p.zone⟩

namespace Moment

/-! ## Comparing -/

/-- The millionths of a second up to the moment by the clock of Greenwich, or by its own clock if
the zone is not known. -/
def instant (m : Moment) : Int :=
  let minutes : Int := 1440 * m.date.count + 60 * m.hour + m.minute - m.zone.getD 0
  1000000 * (60 * minutes + m.second) + m.micro

/-- Are two moments the same? -/
def same (a b : Moment) : Bool := a.zone.isSome == b.zone.isSome && a.instant == b.instant

/-! ## Writing -/

/-- The distance from Greenwich with a sign, in hours and minutes. -/
def zoneText (minutes : Int) : Text :=
  (if minutes < 0 then '-' else '+') :: Text.ofNatPadded 2 (minutes.natAbs / 60) ++ [':'] ++
    Text.ofNatPadded 2 (minutes.natAbs % 60)

/-- The written form of a moment. -/
def toText (m : Moment) : Text :=
  m.date.toPaddedText ++ [' '] ++
    Text.join [':'] ([m.hour, m.minute, m.second].map (Text.ofNatPadded 2)) ++
    (if m.micro == 0 then [] else '.' :: Text.ofNatPadded 6 m.micro) ++
    (m.zone.map zoneText).getD []

/-- A zone as a part of an item of a list. -/
def zoneItem (minutes : Int) : Text :=
  ", tzinfo=datetime.timezone".toList ++
    if minutes == 0 then ".utc".toList
    else
      "(datetime.timedelta(".toList ++ (if minutes < 0 then "days=-1, ".toList else []) ++
        "seconds=".toList ++ Text.ofInt (60 * (minutes % 1440)) ++ [')', ')']

/-- The moment as an item of a list: seconds and millionths are left out if they are zero. -/
def toItem (m : Moment) : Text :=
  let numbers := [m.date.year, m.date.month, m.date.day, m.hour, m.minute] ++
    (if m.second == 0 && m.micro == 0 then [] else [m.second]) ++
    (if m.micro == 0 then [] else [m.micro])
  "datetime.datetime(".toList ++ Text.join [',', ' '] (numbers.map Text.ofNat) ++
    (m.zone.map zoneItem).getD [] ++ [')']

end Moment

end Agenda.Yaml
