import Agenda.Yaml.Scalar

/-!
# Values of documents

A document holds a scalar, a list or a mapping. A mapping lists its entries in the order in which
their keys first came up; binding a key again changes the value and keeps key and place. Besides the
written form in a document, a value has a form for people, in which the texts inside a list stand
between quotes.
-/

namespace Agenda.Yaml

/-- The value of a document or of a part of one. -/
inductive Value where
  | scalar (value : Scalar)
  | list (items : List Value)
  | map (entries : List (Scalar × Value))

/-- Binds a key of a mapping. -/
def putEntry (key : Scalar) (value : Value) : List (Scalar × Value) → List (Scalar × Value)
  | [] => [(key, value)]
  | (k, v) :: entries =>
    if k.sameKey key then (k, value) :: entries else (k, v) :: putEntry key value entries

namespace Value

/-- The value that stands for a missing one. -/
def null : Value := scalar .null

instance : Inhabited Value := ⟨null⟩

/-- A text as a value. -/
def text (s : Text) : Value := scalar (.text s)

/-- Does the value count as true? -/
def isTruthy : Value → Bool
  | scalar s => s.isTruthy
  | list items => !items.isEmpty
  | map entries => !entries.isEmpty

/-! ## The form for people -/

mutual

/-- The value as an item of a list. -/
def toItem : Value → Text
  | scalar s => s.toItem
  | list items => '[' :: Text.join [',', ' '] (toItems items) ++ [']']
  | map entries => '\x7b' :: Text.join [',', ' '] (toEntries entries) ++ ['\x7d']

/-- The values as items of a list. -/
def toItems : List Value → List Text
  | [] => []
  | value :: values => toItem value :: toItems values

/-- The entries of a mapping with a colon between key and value. -/
def toEntries : List (Scalar × Value) → List Text
  | [] => []
  | (key, value) :: entries => (key.toItem ++ [':', ' '] ++ toItem value) :: toEntries entries

end

/-- The value as people read it: a text is written as it is. -/
def toText : Value → Text
  | scalar s => s.toText
  | value => value.toItem

end Value

end Agenda.Yaml
