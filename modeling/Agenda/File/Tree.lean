import Agenda.File.Access

/-!
# Tables of files

A table of files stands for the part of a file system that matters: it lists files with their
contents and directories, and every directory on the way to one of them exists. A path is walked
part by part, so that going up leads out of a directory that exists and nowhere else: behind a
missing directory two dots lead nowhere until the directory is made.

Writing a file makes the directories on its path, each before the next part is looked at. Those that
were made stay, also if a later part is a file and the writing comes to nothing.
-/

namespace Agenda

/-- The files and directories that exist. -/
structure FileTree where
  /-- Where relative paths start. -/
  current : Path
  /-- Directories by the parts of their absolute paths. -/
  directories : List (List Text)
  /-- The files by the parts of their absolute paths. -/
  files : List (List Text × ByteArray)

namespace FileTree

/-- What a path leads to. -/
inductive Entry where
  | file (bytes : ByteArray)
  | directory
  | nothing

/-- The parts of a path from the root. -/
def absolute (t : FileTree) (p : Path) : List Text := (p.under t.current).parts

/-- What the parts of a path lead to when all of them are names. -/
def entry (t : FileTree) (parts : List Text) : Entry :=
  match t.files.lookup parts with
  | some bytes => .file bytes
  | none =>
    if (t.current.parts :: t.directories ++ t.files.map (·.1)).any (parts.isPrefixOf ·) then
      .directory
    else .nothing

/-- The place that a part leads to from a directory: up for two dots, nowhere else for one. -/
def step (directory : List Text) (part : Text) : List Text :=
  if part == ['.', '.'] then directory.dropLast
  else if part == ['.'] then directory
  else directory ++ [part]

/-- Is the part longer than a name may be, which is 255 bytes? -/
def isTooLong (part : Text) : Bool := 255 < (String.ofList part).utf8ByteSize

/-! ## Reading -/

/-- Walks on from a directory, and tells by names alone the place reached. -/
def walk (t : FileTree) (directory : List Text) : List Text → Except FileFault (List Text)
  | [] => .ok directory
  | part :: parts =>
    let next := step directory part
    if isTooLong part then .error .nameTooLong
    else
      match t.entry next, parts with
      | .directory, _ => walk t next parts
      | _, [] => .ok next
      | .file _, _ => .error .notDirectory
      | .nothing, _ => .error .missing

/-- The content of the file at a path. -/
def read (t : FileTree) (p : Path) : Except FileFault ByteArray :=
  match t.walk [] (t.absolute p) with
  | .error fault => .error fault
  | .ok parts =>
    match t.entry parts with
    | .file bytes => .ok bytes
    | .directory => .error .isDirectory
    | .nothing => .error .missing

/-! ## Writing -/

/-- Walks on from a directory and makes the directories that are missing. -/
def makeDirectories (t : FileTree) (directory : List Text) :
    List Text → Except FileFault (List Text) × FileTree
  | [] => (.ok directory, t)
  | part :: parts =>
    let next := step directory part
    if isTooLong part then (.error .nameTooLong, t)
    else
      match t.entry next, parts with
      | .directory, _ => makeDirectories t next parts
      | .nothing, _ => makeDirectories { t with directories := next :: t.directories } next parts
      | .file _, [] => (.error .exists, t)
      | .file _, _ => (.error .notDirectory, t)

/-- Binds a file to a content. -/
def put (parts : List Text) (bytes : ByteArray) :
    List (List Text × ByteArray) → List (List Text × ByteArray)
  | [] => [(parts, bytes)]
  | (p, b) :: files => if p = parts then (p, bytes) :: files else (p, b) :: put parts bytes files

/-- Writes a file in directories that exist. -/
def writeIn (t : FileTree) (directory name : List Text) (bytes : ByteArray) :
    Except FileFault Unit × FileTree :=
  match t.walk directory name with
  | .error fault => (.error fault, t)
  | .ok place =>
    match t.entry place with
    | .directory => (.error .isDirectory, t)
    | _ => (.ok (), { t with files := put place bytes t.files })

/-- Writes a file, and makes the directories on its path. -/
def write (t : FileTree) (p : Path) (bytes : ByteArray) : Except FileFault Unit × FileTree :=
  let parts := t.absolute p
  match t.makeDirectories [] parts.dropLast with
  | (.error fault, t) => (.error fault, t)
  | (.ok directory, t) => t.writeIn directory (parts.drop (parts.length - 1)) bytes

end FileTree

instance : FileAccess (StateM FileTree) where
  read p := do return (← get).read p
  write p bytes := modifyGet (·.write p bytes)

end Agenda
