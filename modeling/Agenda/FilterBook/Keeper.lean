import Agenda.FilterBook

/-!
# Keeping filters in a file

A filter keeper holds a filter book and the file it is kept in. The file is read when the keeper is
made and not looked at again; every change is made in the book and then written, the whole book at
once. A change that cannot be written stays in the book.
-/

namespace Agenda

/-- A filter book with the file it is kept in. -/
structure FilterKeeper where
  /-- The filters as they are now. -/
  book : FilterBook
  /-- The file. -/
  place : Path
  /-- How text operands of filters are understood. -/
  style : PatternStyle
  deriving DecidableEq

/-- What can be asked of a filter keeper. -/
inductive FilterRequest where
  /-- Saves a filter under a name. -/
  | save (name query : Text)
  /-- Deletes the filter of a name. -/
  | delete (name : Text)
  /-- Asks for the filter that a text stands for. -/
  | expand (query : Text)
  /-- Asks for the tasks that match a filter. -/
  | search (tasks : List Task) (query : Text) (base : Date)
  /-- Asks for all filters. -/
  | list
  /-- Goes on with a new keeper of the same file. -/
  | reload

/-- What a filter keeper answers. -/
inductive FilterAnswer where
  | saved
  /-- There was a filter to delete, or there was none. -/
  | deleted (present : Bool)
  | expanded (query : Text)
  /-- The tasks with their numbers. -/
  | found (tasks : List (Nat × Task))
  | listed (saved : Dictionary)
  /-- The file was fit for use, or the new keeper begins without filters. -/
  | reloaded (fit : Bool)

/-- Why a filter keeper has no answer. -/
inductive FilterKeeperFault where
  | search (fault : SearchFault)
  /-- The file cannot be written. -/
  | file (fault : FileFault)
  /-- The file cannot be read. -/
  | content (fault : Yaml.ContentFault)
  deriving DecidableEq

namespace FilterKeeper

variable {m : Type → Type} [Monad m] [FileAccess m]

/-- A keeper of the filters in a file, and whether the file is fit for use. -/
def load (place : Path) (style : PatternStyle) :
    m (Except Yaml.ContentFault (FilterKeeper × Bool)) := do
  return (FilterBook.ofContent (← FileAccess.read place)).map fun (book, fit) ↦
    (⟨book, place, style⟩, fit)

/-- Goes on with another book and writes it. -/
def keep (keeper : FilterKeeper) (book : FilterBook) :
    m (Except FileFault Unit × FilterKeeper) := do
  return (← FileAccess.write keeper.place (bytesOfText book.toText), { keeper with book })

/-- Saves a filter under a name. -/
def save (keeper : FilterKeeper) (name query : Text) : m (Except FileFault Unit × FilterKeeper) :=
  keeper.keep (keeper.book.save name query)

/-- Deletes the filter of a name, and tells whether there is one. -/
def delete (keeper : FilterKeeper) (name : Text) : m (Except FileFault Bool × FilterKeeper) := do
  match keeper.book.delete? name with
  | some book =>
    let (written, keeper) ← keeper.keep book
    return (written.map fun () ↦ true, keeper)
  | none => return (.ok false, keeper)

/-- The answer to a request, and the keeper after it. -/
def answer (keeper : FilterKeeper) (request : FilterRequest) :
    m (Except FilterKeeperFault FilterAnswer × FilterKeeper) := do
  match request with
  | .save name query =>
    let (written, keeper) ← keeper.save name query
    return ((written.map fun () ↦ .saved).mapError .file, keeper)
  | .delete name =>
    let (deleted, keeper) ← keeper.delete name
    return ((deleted.map .deleted).mapError .file, keeper)
  | .expand query => return (((keeper.book.expand query).map .expanded).mapError .search, keeper)
  | .search tasks query base =>
    let found := keeper.book.search keeper.style tasks query base
    return ((found.map .found).mapError .search, keeper)
  | .list => return (.ok (.listed keeper.book.saved), keeper)
  | .reload =>
    match ← load keeper.place keeper.style with
    | .ok (keeper, fit) => return (.ok (.reloaded fit), keeper)
    | .error fault => return (.error (.content fault), keeper)

/-- The keeper after some requests. -/
def after (keeper : FilterKeeper) : List FilterRequest → m FilterKeeper
  | [] => return keeper
  | request :: requests => do
    let (_, keeper) ← keeper.answer request
    keeper.after requests

end FilterKeeper

end Agenda
