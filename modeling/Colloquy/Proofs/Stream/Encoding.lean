import Colloquy.Proofs.Stream.Lines
import Colloquy.Proofs.Text.Utf8

/-!
# Lines there and back

A text is written as a line by its bytes and one of two ends (`lineEnd`). Where it holds no line feed, and does not itself end in a
carriage return where the end is a line feed alone, the line is found again as that text, before the lines that follow it
(`completeLines_encode`). A line of other bytes is found too, though perhaps not as it was (`completeLines_bytes`).
-/

namespace Colloquy

/-- The end of a line, with a carriage return or without. -/
def lineEnd (withReturn : Bool) : List UInt8 :=
  if withReturn then [carriageReturn, lineFeed] else [lineFeed]

/-- A text is cut after its first line feed. -/
theorem cutLines_line {line : List UInt8} (h : lineFeed ∉ line) (rest : List UInt8) :
    cutLines (line ++ lineFeed :: rest) = (line :: (cutLines rest).1, (cutLines rest).2) := by
  induction line with
  | nil => simp [cutLines]
  | cons b line ih =>
    have hb : b ≠ lineFeed := fun heq => h (heq ▸ List.mem_cons_self)
    have hmore := ih fun hmem => h (List.mem_cons_of_mem _ hmem)
    rw [List.cons_append, cutLines]
    dsimp only
    rw [if_neg hb, hmore]

/-- The first line of a text that holds a line feed. -/
theorem completeLines_cons {line : List UInt8} (h : lineFeed ∉ line) (rest : List UInt8) :
    completeLines (line ++ lineFeed :: rest) = lineText line :: completeLines rest := by
  rw [← (cutLines_eq _).1, cutLines_line h, List.map_cons, (cutLines_eq rest).1]

/-- What is open after the first line feed is what is open in the rest. -/
theorem openLine_cons {line : List UInt8} (h : lineFeed ∉ line) (rest : List UInt8) :
    openLine (line ++ lineFeed :: rest) = openLine rest := by
  rw [← (cutLines_eq _).2, cutLines_line h, (cutLines_eq rest).2]

/-- The first line of a text, by the end that it has. -/
theorem completeLines_lineEnd {line : List UInt8} (h : lineFeed ∉ line) (withReturn : Bool) (rest : List UInt8) :
    completeLines (line ++ lineEnd withReturn ++ rest) =
      String.ofList (Utf8.decodeLossy (if withReturn then line else dropReturn line)) :: completeLines rest := by
  cases withReturn with
  | true =>
    have hline : line ++ lineEnd true ++ rest = (line ++ [carriageReturn]) ++ lineFeed :: rest := by simp [lineEnd]
    rw [hline, completeLines_cons (by simpa [lineFeed, carriageReturn] using h), lineText, dropReturn, List.getLast?_concat,
      if_pos rfl, List.dropLast_concat, if_pos rfl]
  | false =>
    have hline : line ++ lineEnd false ++ rest = line ++ lineFeed :: rest := by simp [lineEnd]
    rw [hline, completeLines_cons h, lineText, if_neg (by decide)]

/-- A line of any bytes without a line feed: the bytes that its text is decoded from are those, or all but their last. -/
theorem completeLines_bytes {line : List UInt8} (h : lineFeed ∉ line) (withReturn : Bool) (rest : List UInt8) :
    ∃ part, part <+: line ∧
      completeLines (line ++ lineEnd withReturn ++ rest) = String.ofList (Utf8.decodeLossy part) :: completeLines rest := by
  refine ⟨_, ?_, completeLines_lineEnd h withReturn rest⟩
  rw [dropReturn]
  split
  · exact List.prefix_refl _
  split
  · exact List.dropLast_prefix line
  · exact List.prefix_refl _

/-- A text that is written as a line is found again. -/
theorem completeLines_encode {text : List Char} (hfeed : '\n' ∉ text) {withReturn : Bool}
    (hreturn : withReturn = false → text.getLast? ≠ some '\r') (rest : List UInt8) :
    completeLines (Utf8.encode text ++ lineEnd withReturn ++ rest) = String.ofList text :: completeLines rest := by
  have hbytes : lineFeed ∉ Utf8.encode text := fun hmem => hfeed ((@Utf8.mem_encode '\n' (by decide) text).mp hmem)
  have hkeep : (if withReturn then Utf8.encode text else dropReturn (Utf8.encode text)) = Utf8.encode text := by
    split
    · rfl
    next hwith =>
      have hend : (Utf8.encode text).getLast? ≠ some carriageReturn := fun hend =>
        hreturn (by simpa using hwith) ((@Utf8.getLast?_encode '\r' (by decide) text).mp hend)
      rw [dropReturn, if_neg hend]
  rw [completeLines_lineEnd hbytes, hkeep, Utf8.decodeLossy_encode]

end Colloquy
