import Agenda.Filter.Match
import Agenda.Yaml.Content
import Agenda.Yaml.Written

/-!
# Saved filters

A filter book binds names to filters, and `@name` in place of a filter stands for the filter saved
under the name. The book is kept in a file; what stands there is read as text whatever its type.
-/

namespace Agenda

/-- The saved filters by name, in the order in which they were first saved. -/
structure FilterBook where
  /-- The names with their filters. -/
  saved : Dictionary
  deriving DecidableEq

/-- Why a search has no answer. -/
inductive SearchFault where
  /-- There is no saved filter of this name. -/
  | unknownFilter (name : Text)
  /-- An operand cannot be held against its field. -/
  | operand (fault : OperandFault)
  deriving DecidableEq

/-- The message that there is no saved filter of a name. -/
def unknownFilterMessage (name : Text) : Text :=
  "Saved filter ".toList ++ DateError.quoted name ++ " not found".toList

namespace FilterBook

/-- The book without filters. -/
def empty : FilterBook := ⟨[]⟩

/-- The book with a filter saved under a name. -/
def save (book : FilterBook) (name query : Text) : FilterBook := ⟨book.saved.set name query⟩

/-- The book without the filter of a name, if it has one. -/
def delete? (book : FilterBook) (name : Text) : Option FilterBook :=
  if (book.saved.get? name).isSome then some ⟨book.saved.erase name⟩ else none

/-! ## Searching -/

/-- The filter that a text stands for: the one saved under a name behind an at sign, or the text. -/
def expand (book : FilterBook) (query : Text) : Except SearchFault Text :=
  match query with
  | '@' :: name =>
    match book.saved.get? name with
    | some saved => .ok saved
    | none => .error (.unknownFilter name)
  | _ => .ok query

/-- The tasks of a list that match a filter, in order, each with its number counted from 1. -/
def search (book : FilterBook) (style : PatternStyle) (tasks : List Task) (query : Text)
    (base : Date) : Except SearchFault (List (Nat × Task)) :=
  if Text.allBlank query then .ok (tasks.mapIdx fun i task ↦ (i + 1, task))
  else
    match book.expand query with
    | .error fault => .error fault
    | .ok query => ((Filter.ofText query style).select tasks base).mapError .operand

/-! ## Files -/

/-- The book that a value stands for. Only a mapping holds filters. -/
def ofValue : Yaml.Value → FilterBook
  | .map entries => ⟨Dictionary.ofBindings (entries.map fun (k, v) ↦ (k.toText, v.toText))⟩
  | _ => empty

/-- The book in a file with the given content, and whether the file is fit for use. -/
def ofContent (content : Except FileFault ByteArray) :
    Except Yaml.ContentFault (FilterBook × Bool) :=
  match content with
  | .error .missing | .error .notDirectory | .error .nameTooLong => .ok (empty, true)
  | .error _ => .ok (empty, false)
  | .ok bytes =>
    match Yaml.readContent bytes with
    | .ok (some value) => .ok (ofValue value, true)
    | .ok none => .ok (empty, false)
    | .error fault => .error fault

/-- The document that holds the book. -/
def toText (book : FilterBook) : Text :=
  Yaml.document (book.saved.map fun (name, query) ↦ (.text name, .text query))

/-- Where the book is kept. -/
def path (home dataDir : Text) : Path :=
  let directory := if dataDir.isEmpty then "~/.todo".toList else dataDir
  (Path.ofTextWithDots (Text.expandHome home directory)).child "saved_filters.yaml".toList

end FilterBook

end Agenda
