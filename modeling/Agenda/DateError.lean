import Agenda.Text.Basic
import Agenda.Text.Digit

/-!
# Why a date text has no date

Every cause for which a date word, an expression or a recurrence is refused, with the part of the
text that is to blame. The kinds group the causes as users of the library tell them apart, and each
cause has one message.
-/

namespace Agenda

/-- The direction of an offset. -/
inductive Sign where
  | plus
  | minus
  deriving DecidableEq, Repr

namespace Sign

/-- The written sign. -/
def toChar : Sign → Char
  | plus => '+'
  | minus => '-'

/-- The sign that a character is. -/
def ofChar? : Char → Option Sign
  | '+' => some plus
  | '-' => some minus
  | _ => none

/-- A count taken in a direction. -/
def apply : Sign → Nat → Int
  | plus, n => n
  | minus, n => -n

@[simp] theorem ofChar?_toChar (s : Sign) : ofChar? s.toChar = some s := by cases s <;> rfl

theorem toChar_of_ofChar? {c : Char} {s : Sign} (h : ofChar? c = some s) : s.toChar = c := by
  unfold ofChar? at h
  split at h <;> cases h <;> rfl

end Sign

/-- Why a text is refused. -/
inductive DateError where
  /-- The word is an absolute day already. -/
  | absolute (token : Text)
  /-- There is no word at all. -/
  | emptyWord
  /-- There is no expression at all. -/
  | emptyExpression
  /-- The expression does not begin with a day. -/
  | noBase (expr : Text)
  /-- A sign is followed by nothing. -/
  | incomplete (expr rest : Text)
  /-- An offset does not begin with a sign. -/
  | notASign (char : Char) (rest : Text)
  /-- After the sign stands no count and unit. -/
  | badOffset (rest : Text)
  /-- An offset leaves the calendar. -/
  | offsetOutside (sign : Sign) (token : Text)
  /-- The word is neither a keyword nor a weekday, or an offset that does not move. -/
  | unknownWord (token : Text)
  /-- The word names a day outside the calendar. -/
  | outside (token : Text)
  /-- The month before the dash is no number. -/
  | monthNotANumber (month token : Text)
  /-- The day after the dash is no number. -/
  | dayNotANumber (day token : Text)
  /-- There is no such month. -/
  | noSuchMonth (month : Nat) (token : Text)
  /-- No month has such a day. -/
  | noSuchDay (day : Nat) (token : Text)
  /-- No month has this many days. -/
  | dayTooBig (day : Nat) (token : Text)
  /-- The text looks like an absolute day, and there is no such day. -/
  | noSuchDate (token : Text)
  /-- A step has no count. -/
  | countExpected (value : Text)
  /-- A step has a letter that is no unit, or none. -/
  | unknownUnit (value unit : Text)
  /-- The chain of references between tags is too long. -/
  | tooDeep (expr : Text)
  deriving DecidableEq

namespace DateError

/-- The kinds of errors. -/
inductive Kind where
  /-- Nothing is to be resolved. -/
  | absolute
  /-- The text is empty. -/
  | empty
  /-- An expression does not start with a day. -/
  | base
  /-- An offset is malformed or leaves the calendar. -/
  | offset
  /-- A word or a literal is no day. -/
  | date
  /-- A day of the month is out of bounds. -/
  | dayOfMonth
  /-- A step lacks its count or its unit. -/
  | step
  /-- Tags refer to each other without end. -/
  | depth
  deriving DecidableEq, Repr

/-- The kind of an error. -/
def kind : DateError → Kind
  | absolute _ => .absolute
  | emptyWord | emptyExpression => .empty
  | noBase _ => .base
  | incomplete .. | notASign .. | badOffset _ | offsetOutside .. => .offset
  | unknownWord _ | outside _ | monthNotANumber .. | dayNotANumber .. | noSuchMonth ..
  | noSuchDay .. | noSuchDate _ => .date
  | dayTooBig .. => .dayOfMonth
  | countExpected _ | unknownUnit .. => .step
  | tooDeep _ => .depth

/-- The part of the text that is to blame. -/
def token : DateError → Text
  | emptyWord | emptyExpression => []
  | incomplete _ t | notASign _ t | badOffset t | offsetOutside _ t | absolute t | noBase t
  | unknownWord t | outside t | monthNotANumber _ t | dayNotANumber _ t | noSuchMonth _ t
  | noSuchDay _ t | dayTooBig _ t | noSuchDate t | countExpected t | unknownUnit t _
  | tooDeep t => t

/-- A text between single quotes. -/
def quoted (s : Text) : Text := '\x27' :: s ++ ['\x27']

/-- The message for people. Of a day outside the calendar it also gives the reason in the words of
the machine, which has a calendar of its own. -/
def message (reason : Text) : DateError → Text
  | absolute _ => "no change".toList
  | emptyWord => "empty date".toList
  | emptyExpression => "Empty expression".toList
  | noBase expr => "Failed to parse base date: ".toList ++ quoted expr
  | incomplete expr _ => "Incomplete expression: ".toList ++ quoted expr
  | notASign char _ => "Invalid character ".toList ++ quoted [char]
  | badOffset rest => "Invalid duration: ".toList ++ quoted rest
  | offsetOutside sign token => "Date out of range: ".toList ++ quoted (sign.toChar :: token)
  | unknownWord token => "invalid date ".toList ++ quoted token
  | outside token => "date out of range ".toList ++ quoted token ++ ": ".toList ++ reason
  | monthNotANumber month _ => "invalid month number: ".toList ++ month
  | dayNotANumber day _ => "invalid day number: ".toList ++ day
  | noSuchMonth month _ =>
    "month number must be between 1 and 12 (".toList ++ Text.ofNat month ++ [')']
  | noSuchDay day _ => "day number must be between 1 and 31 (".toList ++ Text.ofNat day ++ [')']
  | dayTooBig day _ => "Day number too big: ".toList ++ Text.ofNat day
  | noSuchDate token => "Invalid date [".toList ++ token ++ [']']
  | countExpected value => "Invalid recurrence ".toList ++ quoted value ++ ": count expected".toList
  | unknownUnit value unit =>
    "Invalid recurrence ".toList ++ quoted value ++ ": unknown unit ".toList ++ quoted unit
  | tooDeep expr => "Recursion stack overflow: ".toList ++ quoted expr

end DateError

end Agenda
