import Agenda.Pattern.Regex

/-!
# Searching for a regular expression

A match is followed by collecting, for each part of the pattern, every place where it can end. A
place is the text that is left together with the texts captured so far. Since only the existence of
a match matters, the places are kept as a list without repetitions, so no part of the text is
examined twice in the same state.

A repetition goes on from a place only if the iteration before it did not start there: an iteration
that matches the empty text is the last one. So each further iteration uses up some of the text, and
the length of the rest bounds their number.
-/

namespace Agenda.Regex

/-- A place in a text while a match is followed. -/
structure Place where
  /-- The character before the place. -/
  before : Option Char
  /-- The text behind the place. -/
  rest : Text
  /-- The texts captured by groups, the latest first. -/
  captured : List (Nat × Text)
  deriving DecidableEq

/-- Is there a word character on one side only? -/
def Place.isBoundary (p : Place) : Bool :=
  (p.before.map isWordChar).getD false != (p.rest.head?.map isWordChar).getD false

/-- Is the place of the kind asked for? In the empty text no place counts as a boundary or as none.
-/
def Place.fits (p : Place) : Anchor → Bool
  | .start => p.before.isNone
  | .lineEnd => p.rest.isEmpty || p.rest == ['\n']
  | .textEnd => p.rest.isEmpty
  | .boundary => p.isBoundary
  | .noBoundary => !p.isBoundary && !(p.before.isNone && p.rest.isEmpty)

/-- The place behind the next character, if there is one that passes the test. -/
def Place.next (p : Place) (test : Char → Bool) : List Place :=
  match p.rest with
  | c :: rest => if test c then [{ p with before := some c, rest := rest }] else []
  | [] => []

/-- The place behind a text, compared by the simple small forms of its characters. -/
def Place.skip (p : Place) : Text → List Place
  | [] => [p]
  | c :: s => (p.next fun d ↦ simpleSmall c == simpleSmall d).flatMap fun q ↦ q.skip s

/-- All the places reached from some places in one step. -/
def advance (step : Place → List Place) (places : List Place) : List Place :=
  (places.flatMap step).eraseDups

/-- The places reached after at most so many further iterations. Each place comes with the length
of the rest where the iteration before it started. -/
def iterate (step : Place → List Place) : Nat → List (Place × Option Nat) → List Place
  | 0, places => places.map (·.1)
  | fuel + 1, places =>
    let next := (places.flatMap fun (p, last) ↦
      if last == some p.rest.length then []
      else (step p).map fun q ↦ (q, some p.rest.length)).eraseDups
    if next.isEmpty then places.map (·.1) else places.map (·.1) ++ iterate step fuel next

/-- The places after exactly so many iterations. -/
def iterateExactly (step : Place → List Place) : Nat → List Place → List Place
  | 0, places => places
  | _, [] => []
  | n + 1, places => iterateExactly step n (advance step places)

/-- The places where a match from the given place can end. -/
def ends : Regex → Place → List Place
  | empty, p => [p]
  | set items negated, p => p.next fun c ↦ items.any (·.has c) != negated
  | any, p => p.next (· != '\n')
  | anchor place, p => if p.fits place then [p] else []
  | seq first second, p => advance (ends second) (ends first p)
  | alt first second, p => (ends first p ++ ends second p).eraseDups
  | group none body, p => ends body p
  | group (some number) body, p =>
    (ends body p).map fun q ↦
      { q with captured := (number, p.rest.take (p.rest.length - q.rest.length)) ::
          q.captured.filter (·.1 != number) }
  | back number, p =>
    match p.captured.lookup number with
    | some text => p.skip text
    | none => []
  | rep least most body, p =>
    let further := match most with
      | some most => min (most - least) (p.rest.length + 1)
      | none => p.rest.length + 1
    (iterate (ends body) further
      ((iterateExactly (ends body) least [p]).map fun q ↦ (q, none))).eraseDups

/-- Does a match start at this place or further on? -/
def searchFrom (r : Regex) (before : Option Char) (s : Text) : Bool :=
  !(r.ends ⟨before, s, []⟩).isEmpty ||
    match s with
    | [] => false
    | c :: s => searchFrom r (some c) s

/-- Does the text contain a match? -/
def search (r : Regex) (s : Text) : Bool := searchFrom r none s

end Agenda.Regex
