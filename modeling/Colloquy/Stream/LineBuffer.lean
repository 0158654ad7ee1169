import Colloquy.Text.Utf8

/-!
# Lines out of chunks

Bytes arrive in chunks that end anywhere. A line ends with a line feed, which is dropped together with one carriage
return before it; what follows the last line feed stays in the buffer (`LineBuffer.pending`) until its own comes. Lines
are decoded only when they are complete, so that a character cut in two is whole again.
-/

namespace Colloquy

/-- The line feed. -/
def lineFeed : UInt8 := 0x0A

/-- The carriage return. -/
def carriageReturn : UInt8 := 0x0D

/-- Cuts bytes after every line feed: the lines that are complete, without their line feeds, and the rest. -/
def cutLines : List UInt8 → List (List UInt8) × List UInt8
  | [] => ([], [])
  | b :: bs =>
    let (lines, rest) := cutLines bs
    if b = lineFeed then ([] :: lines, rest)
    else match lines with
      | [] => ([], b :: rest)
      | line :: more => ((b :: line) :: more, rest)

/-- A line without one carriage return at its end. -/
def dropReturn (line : List UInt8) : List UInt8 :=
  if line.getLast? = some carriageReturn then line.dropLast else line

/-- The text of a complete line. -/
def lineText (line : List UInt8) : String :=
  String.ofList (Utf8.decodeLossy (dropReturn line))

/-- The bytes of the line that is not yet complete. -/
structure LineBuffer where
  pending : List UInt8 := []
  deriving DecidableEq, Repr, Inhabited

namespace LineBuffer

/-- Takes a chunk and gives the lines that it completes. -/
def push (buffer : LineBuffer) (chunk : List UInt8) : List String × LineBuffer :=
  let (lines, rest) := cutLines (buffer.pending ++ chunk)
  (lines.map lineText, ⟨rest⟩)

/-- Forgets the line that is not complete. -/
def clear (_ : LineBuffer) : LineBuffer :=
  ⟨[]⟩

end LineBuffer

end Colloquy
