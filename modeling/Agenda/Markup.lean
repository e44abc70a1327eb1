import Agenda.Text.Basic

/-!
# Markup

What is printed may be marked up: `[red]…[/red]` sets the text between the tags in red. A tag is a
bracket with a letter, `#`, `/` or `@` behind it and a closing bracket before the next opening one.
In a text that is to appear as it is, tags are disarmed by a backslash; backslashes already in front
of a tag are doubled, so that they are not taken for such a mark, and a single backslash at the end
is doubled because a tag may follow.
-/

namespace Agenda.Markup

/-- Does a tag begin behind an opening bracket? -/
def beginsTag : Text → Bool
  | [] => false
  | c :: s =>
    (('a' ≤ c && c ≤ 'z') || c == '#' || c == '/' || c == '@') &&
      (s.dropWhile fun c ↦ c != '[' && c != ']').head? == some ']'

/-- The text with tags disarmed, behind so many backslashes. -/
def disarm (slashes : Nat) : Text → Text
  | [] => List.replicate slashes '\\'
  | c :: s =>
    if c == '\\' then disarm (slashes + 1) s
    else
      let front := if c == '[' && beginsTag s then 2 * slashes + 1 else slashes
      List.replicate front '\\' ++ c :: disarm 0 s

/-- Does the text end with exactly one backslash? -/
def endsWithSlash (s : Text) : Bool :=
  match s.reverse with
  | '\\' :: '\\' :: _ => false
  | '\\' :: _ => true
  | _ => false

/-- The markup of a text that is to appear as it is. -/
def escape (s : Text) : Text :=
  let disarmed := disarm 0 s
  if endsWithSlash disarmed then disarmed ++ ['\\'] else disarmed

/-- A text between the tags of a style. -/
def styled (style : String) (s : Text) : Text :=
  '[' :: style.toList ++ [']'] ++ s ++ ['[', '/'] ++ style.toList ++ [']']

/-- The text without its tags, as a plain terminal shows it, behind so many backslashes. The flag
says whether the place is inside a tag. -/
def plainFrom (slashes : Nat) (inTag : Bool) : Text → Text
  | [] => List.replicate slashes '\\'
  | c :: s =>
    if inTag then plainFrom 0 (c != ']') s
    else if c == '\\' then plainFrom (slashes + 1) false s
    else if c == '[' && beginsTag s then
      List.replicate (slashes / 2) '\\' ++
        if slashes % 2 == 1 then c :: plainFrom 0 false s else plainFrom 0 true s
    else List.replicate slashes '\\' ++ c :: plainFrom 0 false s

/-- The text that a plain terminal shows. -/
def plain (markup : Text) : Text := plainFrom 0 false markup

end Agenda.Markup
