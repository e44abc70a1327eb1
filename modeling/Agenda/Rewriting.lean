import Agenda.Evaluation
import Agenda.Text.Replace

/-!
# Rewriting the days of a task

The tags `due` and `t` of a task are written as absolute days once they are resolved. Resolving them
fills in the tag table and tells whether the text has to change; updating the text then replaces the
value of each main tag by its day, one word for each, and nothing else.
-/

namespace Agenda

/-- The tags whose values are written as absolute days. -/
def mainTags : List Text := ["due".toList, "t".toList]

/-- Resolves the given tags in order. A tag already resolved is passed over, and a value that is
written like the day it stands for is left as text. The answer tells whether a tag was resolved. -/
def resolveTags (base : Date) (soonDays : Int) :
    List Text → TagTable → Except DateError Bool × TagTable
  | [], tags => (.ok false, tags)
  | name :: names, tags =>
    match tags.value? name with
    | some (.raw text) =>
      match evaluate base soonDays tags text with
      | (.error error, tags) => (.error error, tags)
      | (.ok d, tags) =>
        if d.toText = text then resolveTags base soonDays names tags
        else
          match resolveTags base soonDays names (tags.set name d) with
          | (.ok _, tags) => (.ok true, tags)
          | failed => failed
    | _ => resolveTags base soonDays names tags

/-- Resolves the main tags and tells whether the text has to be written anew. -/
def resolveMainTags (base : Date) (soonDays : Int) (tags : TagTable) :
    Except DateError Bool × TagTable :=
  resolveTags base soonDays mainTags tags

/-- The text with the value of one tag replaced by its day, if it is a main tag with both. -/
def updateTag (text : Text) (e : TagEntry) : Text :=
  match e.raw, e.date with
  | some raw, some d =>
    if e.name ∈ mainTags then
      Text.replaceWord text (e.name ++ [':'] ++ raw) (e.name ++ [':'] ++ d.toText)
    else text
  | _, _ => text

/-- The text with the values of the main tags replaced by their days. -/
def updateText (tags : TagTable) (text : Text) : Text := tags.entries.foldl updateTag text

/-- The text with the expressions of its main tags replaced by days. -/
def resolveText (base : Date) (soonDays : Int) (text : Text) : Except DateError Text :=
  match resolveMainTags base soonDays (.ofText text base) with
  | (.ok true, tags) => .ok (updateText tags text)
  | (.ok false, _) => .ok text
  | (.error error, _) => .error error

end Agenda
