import Agenda.Text.Basic

/-!
# Paths

A path is a root and a list of parts. Reading drops what says nothing, that is empty parts and
single dots, so a path has one written form; two dots are kept, because what they mean depends on
the files. Where a path is not shown but only used it can be read with its single dots: a dot behind
the name of a file leads nowhere.

A tilde in front stands for the home directory. It is assumed that the home of no other user is
known, so that a tilde with a name behind it is left as it stands, or leads nowhere where a file is
meant.
-/

namespace Agenda

/-- A path to a file or a directory. -/
structure Path where
  /-- The slashes at the start: none for a relative path. -/
  root : Text
  /-- The names from the outermost directory to the file. -/
  parts : List Text
  deriving DecidableEq, Repr

namespace Path

/-- The root that some slashes at the start stand for. Exactly two of them are a root of their own.
-/
def rootOfSlashes : Nat → Text
  | 0 => []
  | 2 => ['/', '/']
  | _ => ['/']

/-- Does a part say nothing? -/
def isVoid (part : Text) : Bool := part.isEmpty || part == ['.']

/-- The path of a text. -/
def ofText (s : Text) : Path :=
  ⟨rootOfSlashes (s.takeWhile (· == '/')).length, (Text.splitOn '/' s).filter (!isVoid ·)⟩

/-- The path of a text with its single dots. -/
def ofTextWithDots (s : Text) : Path :=
  ⟨rootOfSlashes (s.takeWhile (· == '/')).length, (Text.splitOn '/' s).filter (!·.isEmpty)⟩

/-- The text of a path; the empty relative path is a single dot. -/
def toText (p : Path) : Text :=
  if p.root.isEmpty && p.parts.isEmpty then ['.'] else p.root ++ Text.join ['/'] p.parts

/-- The path of a file in a directory. -/
def child (p : Path) (name : Text) : Path := { p with parts := p.parts ++ [name] }

/-- The directory that holds the file. -/
def parent (p : Path) : Path := { p with parts := p.parts.dropLast }

/-- Is it a path from the root? -/
def isAbsolute (p : Path) : Bool := !p.root.isEmpty

/-- The path as seen from a directory. -/
def under (p directory : Path) : Path :=
  if p.isAbsolute then p else { directory with parts := directory.parts ++ p.parts }

end Path

/-! ## The home directory -/

/-- The text with a tilde in front replaced by the home directory. The tilde has to stand alone or
before a slash; with the name of a user behind it nothing is replaced. -/
def Text.expandHome (home s : Text) : Text :=
  match s with
  | ['~'] | '~' :: '/' :: _ =>
    match Text.trimEnd (· == '/') home ++ s.drop 1 with
    | [] => ['/']
    | expanded => expanded
  | _ => s

/-- Is the text a path from the home directory of a user that there cannot be, because the name has
a
null character in it? -/
def Text.hasImpossibleUser (s : Text) : Bool :=
  s.head? == some '~' && (s.takeWhile (· != '/')).contains '\x00'

/-- The path with a tilde in front replaced by the home directory, if there is no name behind it. -/
def Path.expandHome? (home : Text) (p : Path) : Option Path :=
  match p.root, p.parts with
  | [], ['~'] :: parts =>
    let base := Path.ofText (Text.expandHome home ['~'])
    some { base with parts := base.parts ++ parts }
  | [], ('~' :: _) :: _ => none
  | _, _ => some p

end Agenda
