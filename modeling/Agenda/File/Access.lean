import Agenda.File.Path

/-!
# Access to files

What can go wrong with a file, and the two things the program does with files: it reads one and it
writes one. The program is written for any monad that can do both, so the same definitions run on
the files of a machine and on a table of files.
-/

namespace Agenda

/-- What can be wrong with a file. -/
inductive FileFault where
  /-- There is no such file. -/
  | missing
  /-- It is a directory. -/
  | isDirectory
  /-- A part of its path is a file and no directory. -/
  | notDirectory
  /-- A directory to be made is there already as a file. -/
  | exists
  /-- A part of its path is longer than a name may be. -/
  | nameTooLong
  /-- It is in the home directory of a user who is not known. -/
  | unknownHome
  /-- It does not hold text. -/
  | notText
  deriving DecidableEq, Repr

/-- A monad in which files can be read and written. -/
class FileAccess (m : Type → Type) where
  /-- The content of a file. -/
  read : Path → m (Except FileFault ByteArray)
  /-- Gives a file a content, and makes the directories on its path. -/
  write : Path → ByteArray → m (Except FileFault Unit)

/-- The text that a file holds. -/
def textOfBytes (bytes : ByteArray) : Except FileFault Text :=
  match bytes.utf8Decode? with
  | some characters => .ok characters.toList
  | none => .error .notText

/-- The content of a file that holds a text. -/
def bytesOfText (s : Text) : ByteArray := (String.ofList s).toByteArray

end Agenda
