import Colloquy.Stream.LineBuffer

/-!
# The lines of a whole text

Said of a text as a whole, without chunks: it is split at every line feed, the pieces that a line feed ends are its lines
(`completeLines`), and the last piece, which none ends, is still open (`openLine`). `cutLines` finds both (`cutLines_eq`).
A cut anywhere in a text changes nothing: the lines of the whole are those of the first part, and then those of its open
line followed by the second part (`completeLines_append`, `openLine_append`).
-/

namespace Colloquy

/-- The lines of a text that a line feed ends, without the carriage return that may stand before it. -/
def completeLines (text : List UInt8) : List String :=
  (text.splitOn 0x0A).dropLast.map fun line =>
    String.ofList (Utf8.decodeLossy (if line.getLast? = some 0x0D then line.dropLast else line))

/-- The bytes of a text after its last line feed. -/
def openLine (text : List UInt8) : List UInt8 :=
  (text.splitOn 0x0A).getLast (List.splitOn_ne_nil _ _)

theorem completeLines_eq (text : List UInt8) : completeLines text = (text.splitOn lineFeed).dropLast.map lineText :=
  rfl

theorem openLine_eq (text : List UInt8) : openLine text = (text.splitOn lineFeed).getLast (List.splitOn_ne_nil _ _) :=
  rfl

/-- What is cut off, with the rest as the last piece, is the text split at its line feeds. -/
theorem cutLines_concat (text : List UInt8) : (cutLines text).1 ++ [(cutLines text).2] = text.splitOn lineFeed := by
  induction text with
  | nil => rfl
  | cons b bs ih =>
    rw [List.splitOn_cons_eq_if_modifyHead, ← ih]
    cases hc : cutLines bs with
    | mk lines rest =>
      by_cases hb : b = lineFeed
      · simp [cutLines, hc, hb]
      · cases lines <;> simp [cutLines, hc, hb]

theorem cutLines_eq (text : List UInt8) :
    (cutLines text).1.map lineText = completeLines text ∧ (cutLines text).2 = openLine text := by
  have h := cutLines_concat text
  constructor
  · rw [completeLines_eq, ← h, List.dropLast_concat]
  · simp only [openLine_eq, ← h, List.getLast_concat]

/-- Cutting a text in two: what the first part leaves open is cut again with the second. -/
theorem cutLines_append (a b : List UInt8) :
    cutLines (a ++ b) = ((cutLines a).1 ++ (cutLines ((cutLines a).2 ++ b)).1, (cutLines ((cutLines a).2 ++ b)).2) := by
  induction a with
  | nil => rfl
  | cons x xs ih =>
    cases hc : cutLines xs with
    | mk lines rest =>
      rw [hc] at ih
      simp only [List.cons_append, cutLines, ih, hc]
      by_cases hx : x = lineFeed
      · simp [hx]
      · cases lines with
        | nil => simp [hx, cutLines]
        | cons line more => simp [hx]

theorem completeLines_append (a b : List UInt8) :
    completeLines (a ++ b) = completeLines a ++ completeLines (openLine a ++ b) := by
  rw [← (cutLines_eq (a ++ b)).1, cutLines_append, List.map_append, (cutLines_eq a).1, (cutLines_eq _).1, (cutLines_eq a).2]

theorem openLine_append (a b : List UInt8) : openLine (a ++ b) = openLine (openLine a ++ b) := by
  rw [← (cutLines_eq (a ++ b)).2, cutLines_append, (cutLines_eq _).2, (cutLines_eq a).2]

/-- A buffer that holds an open line gives, for a chunk, the lines and the open line of the two together. -/
theorem LineBuffer.push_eq (buffer : LineBuffer) (chunk : List UInt8) :
    buffer.push chunk = (completeLines (buffer.pending ++ chunk), ⟨openLine (buffer.pending ++ chunk)⟩) := by
  have h := cutLines_eq (buffer.pending ++ chunk)
  rw [← h.1, ← h.2]
  rfl

end Colloquy
