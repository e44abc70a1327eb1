import Agenda.Proofs.Files
import Agenda.Proofs.Words
import Agenda.TaskFile

/-!
# The lines of a task file

A task file is read line by line, and a line may end in three ways. What a text is made of is said
here without the reader: lines with neither a line feed nor a carriage return in them, each with an
end behind it, and a last line without one (`LinedText`).

Both characters are marks, and a carriage return with a line feed behind it is one end and two
marks. For the tasks it makes no difference which of the two it is taken for: nothing stands between
the two marks, and such a line is passed over. So no end has to be told from the ends around it,
even where a carriage return and the line feed of the next end meet. The lines with something on
them are the pieces between marks with something on them (`filter_lines`), and to put texts together
is to put their pieces together.
-/

namespace Agenda

variable {c : Char} {s t : Text}

/-! ## Lines and their ends -/

/-- The ways to end a line. -/
inductive LineEnd
  | lineFeed
  | carriageReturn
  | pair
  deriving DecidableEq, Repr

/-- The line end as it is written. -/
def LineEnd.toText : LineEnd → Text
  | .lineFeed => ['\n']
  | .carriageReturn => ['\r']
  | .pair => ['\r', '\n']

/-- Is the character a line end, or a half of one? -/
def isEndMark (c : Char) : Bool :=
  c == '\n' || c == '\r'

theorem isEndMark_iff : isEndMark c = true ↔ c = '\n' ∨ c = '\r' := by
  rw [isEndMark, Bool.or_eq_true, beq_iff_eq, beq_iff_eq]

theorem exists_lineEnd_of_isEndMark (hc : isEndMark c = true) :
    ∃ ending : LineEnd, ending.toText = [c] := by
  obtain rfl | rfl := isEndMark_iff.mp hc
  · exact ⟨.lineFeed, rfl⟩
  · exact ⟨.carriageReturn, rfl⟩

/-- A line without its end. -/
structure Line where
  text : Text
  unbroken : ∀ c ∈ text, isEndMark c = false

/-- A text as lines with the ends they are written with. The last line has no end. -/
inductive LinedText
  | last (line : Line)
  | ended (line : Line) (ending : LineEnd) (rest : LinedText)

namespace LinedText

/-- The text itself. -/
def toText : LinedText → Text
  | last line => line.text
  | ended line ending rest => line.text ++ ending.toText ++ rest.toText

/-- The texts of the lines, in order. -/
def lines : LinedText → List Text
  | last line => [line.text]
  | ended line _ rest => line.text :: rest.lines

/-- The same lines with other ends. -/
def withEnds (ends : Nat → LineEnd) : LinedText → LinedText
  | last line => last line
  | ended line _ rest => ended line (ends 0) (rest.withEnds fun i ↦ ends (i + 1))

theorem lines_withEnds (d : LinedText) (ends : Nat → LineEnd) :
    (d.withEnds ends).lines = d.lines := by
  induction d generalizing ends with
  | last line => rfl
  | ended line ending rest ih => rw [withEnds, lines, lines, ih]

/-- The text with one more character in front, which is on its first line. -/
def push (c : Char) (hc : isEndMark c = false) : LinedText → LinedText
  | last line => last ⟨c :: line.text, List.forall_mem_cons.mpr ⟨hc, line.unbroken⟩⟩
  | ended line ending rest =>
    ended ⟨c :: line.text, List.forall_mem_cons.mpr ⟨hc, line.unbroken⟩⟩ ending rest

theorem toText_push (hc : isEndMark c = false) (d : LinedText) :
    (d.push c hc).toText = c :: d.toText := by
  cases d <;> rfl

end LinedText

/-! ## Pieces between marks -/

/-- The pieces between marks that have something on them. -/
def filledPieces (s : Text) : List Text :=
  (Text.splitWhere isEndMark s).filter (!Text.allBlank ·)

theorem filledPieces_append_cons (hc : isEndMark c = true) (s t : Text) :
    filledPieces (s ++ c :: t) = filledPieces s ++ filledPieces t := by
  rw [filledPieces, Text.splitWhere_append_cons hc, List.filter_append, filledPieces, filledPieces]

/-- Nothing stands between the halves of a pair, so each end separates as one mark does. -/
theorem filledPieces_append_lineEnd (s t : Text) (ending : LineEnd) :
    filledPieces (s ++ ending.toText ++ t) = filledPieces s ++ filledPieces t := by
  rw [List.append_assoc]
  cases ending with
  | lineFeed => exact filledPieces_append_cons rfl s t
  | carriageReturn => exact filledPieces_append_cons rfl s t
  | pair =>
    change filledPieces (s ++ '\r' :: ([] ++ '\n' :: t)) = _
    rw [filledPieces_append_cons rfl, filledPieces_append_cons rfl]
    rfl

theorem filledPieces_line (line : Line) :
    filledPieces line.text = [line.text].filter (!Text.allBlank ·) := by
  have hpieces := Text.splitWhere_append (s := []) line.unbroken rfl
  rw [List.append_nil] at hpieces
  rw [filledPieces, hpieces]

theorem LinedText.filledPieces_toText (d : LinedText) :
    filledPieces d.toText = d.lines.filter (!Text.allBlank ·) := by
  induction d with
  | last line => exact filledPieces_line line
  | ended line ending rest ih =>
    rw [toText, filledPieces_append_lineEnd, filledPieces_line, ih, ← List.filter_append]
    rfl

/-! ## What the reader takes for lines -/

namespace Text

theorem lines_pair (s : Text) : lines ('\r' :: '\n' :: s) = [] :: lines s := by
  rw [lines, unifyLineEnds, splitOn, splitWhere]
  rfl

theorem lines_cons_of_isEndMark (hc : isEndMark c = true)
    (hpair : ∀ t, c = '\r' → s = '\n' :: t → False) : lines (c :: s) = [] :: lines s := by
  have hfeed : (if c == '\r' then '\n' else c) = '\n' := by
    obtain rfl | rfl := isEndMark_iff.mp hc <;> rfl
  rw [lines, unifyLineEnds.eq_3 _ _ hpair, hfeed, splitOn, splitWhere]
  rfl

theorem lines_cons_of_not_isEndMark (hc : isEndMark c = false) {line : Text} {rest : List Text}
    (hs : lines s = line :: rest) : lines (c :: s) = (c :: line) :: rest := by
  obtain ⟨hfeed, hreturn⟩ := Bool.or_eq_false_iff.mp hc
  have hpair : ∀ t, c = '\r' → s = '\n' :: t → False := fun _ h _ ↦ ne_of_beq_false hreturn h
  have hs : splitWhere (· == '\n') (unifyLineEnds s) = line :: rest := hs
  rw [lines, unifyLineEnds.eq_3 _ _ hpair, hreturn, if_neg Bool.false_ne_true, splitOn, splitWhere,
    hfeed, hs]

end Text

/-- Every text is made of lines, and they can be chosen as the reader does. -/
theorem exists_linedText (s : Text) : ∃ d : LinedText, d.toText = s ∧ d.lines = Text.lines s := by
  -- the induction follows the reader, which takes a pair at once
  induction s using Text.unifyLineEnds.induct with
  | case1 => exact ⟨.last ⟨[], nofun⟩, rfl, rfl⟩
  | case2 s ih =>
    obtain ⟨d, rfl, hlines⟩ := ih
    exact ⟨.ended ⟨[], nofun⟩ .pair d, rfl, by rw [Text.lines_pair, ← hlines]; rfl⟩
  | case3 c s hpair ih =>
    obtain ⟨d, rfl, hlines⟩ := ih
    cases hc : isEndMark c with
    | true =>
      obtain ⟨ending, hending⟩ := exists_lineEnd_of_isEndMark hc
      refine ⟨.ended ⟨[], nofun⟩ ending d, ?_, ?_⟩
      · rw [LinedText.toText, hending]
        rfl
      · rw [Text.lines_cons_of_isEndMark hc hpair, ← hlines]
        rfl
    | false =>
      refine ⟨d.push c hc, d.toText_push hc, ?_⟩
      cases d with
      | last line => exact (Text.lines_cons_of_not_isEndMark hc hlines.symm).symm
      | ended line ending rest => exact (Text.lines_cons_of_not_isEndMark hc hlines.symm).symm

theorem filter_lines (s : Text) :
    (Text.lines s).filter (!Text.allBlank ·) = filledPieces s := by
  obtain ⟨d, rfl, hlines⟩ := exists_linedText s
  rw [← hlines, d.filledPieces_toText]

/-- Other characters at which texts are often split do not end a line here. -/
example : Text.lines "a\u2028b\r\n\x0c\rc\u0085d\n".toList =
    ["a\u2028b".toList, "\x0c".toList, "c\u0085d".toList, []] := by decide

/-! ## Tasks -/

theorem tasksOfBytes_bytesOfText (s : Text) (today : Date) :
    tasksOfBytes (bytesOfText s) today =
      .ok ((filledPieces s).map (Task.parse · (some today))) := by
  rw [tasksOfBytes, textOfBytes_bytesOfText, Except.map, tasksOfText, filter_lines]

/-- **A task file is its lines.** The tasks of two texts with a line end between them are the tasks
of the one and then those of the other. They do not depend on how the lines end. And they are the
lines with something on them, read one by one and in order, whatever text the file has. -/
theorem tasksOfBytes_homomorphism (today : Date) :
    (∀ (s t : Text) (ending : LineEnd),
      tasksOfBytes (bytesOfText (s ++ ending.toText ++ t)) today = do
        let tasks ← tasksOfBytes (bytesOfText s) today
        return tasks ++ (← tasksOfBytes (bytesOfText t) today)) ∧
    (∀ (d : LinedText) (ends : Nat → LineEnd),
      tasksOfBytes (bytesOfText (d.withEnds ends).toText) today =
        tasksOfBytes (bytesOfText d.toText) today) ∧
    (∀ d : LinedText, tasksOfBytes (bytesOfText d.toText) today =
      .ok ((d.lines.filter (!Text.allBlank ·)).map (Task.parse · (some today)))) ∧
    ∀ s : Text, ∃ d : LinedText, d.toText = s ∧ d.lines = Text.lines s := by
  refine ⟨fun s t ending ↦ ?_, fun d ends ↦ ?_, fun d ↦ ?_, exists_linedText⟩
  · rw [tasksOfBytes_bytesOfText, tasksOfBytes_bytesOfText, tasksOfBytes_bytesOfText,
      filledPieces_append_lineEnd, List.map_append]
    rfl
  · rw [tasksOfBytes_bytesOfText, tasksOfBytes_bytesOfText, LinedText.filledPieces_toText,
      LinedText.filledPieces_toText, LinedText.lines_withEnds]
  · rw [tasksOfBytes_bytesOfText, LinedText.filledPieces_toText]

end Agenda
