import Agenda.File.Access
import Agenda.Yaml.Node

/-!
# Documents in files

A file with a document may hold bytes that are no text, text that is no document, or a document with
a number, day or moment that does not exist. A malformed document is something its reader is
prepared for; the other two are not, and neither is the home directory of a user that there cannot
be.
-/

namespace Agenda.Yaml

/-- Why the content of a file cannot be used at all. -/
inductive ContentFault where
  /-- There can be no such file, because its name is too long. -/
  | nameTooLong
  /-- It is not text. -/
  | notText
  /-- A scalar has the form of a number, day, moment or home directory that does not exist. -/
  | impossible
  deriving DecidableEq, Repr

/-- The value of the document in a file, or nothing if the document is malformed. -/
def readContent (bytes : ByteArray) : Except ContentFault (Option Value) :=
  match textOfBytes bytes with
  | .error _ => .error .notText
  | .ok text =>
    match Value.ofText text with
    | .ok value => .ok (some value)
    | .error .malformed => .ok none
    | .error .impossible => .error .impossible

end Agenda.Yaml
