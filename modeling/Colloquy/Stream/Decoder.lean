import Colloquy.Error
import Colloquy.Stream.LineBuffer

/-!
# Events out of lines

Every event is a line that starts with `data: ` and carries a payload; all other lines are passed over. The decoder
stops for good at the line that marks the end, or after the first payload that cannot be read, and then takes nothing
more. What a payload means is left to a reader, so that one decoder serves every kind of event.
-/

namespace Colloquy

/-- What reads the payload of an event, or says why it cannot be read. -/
abbrev PayloadReader (α : Type) := List Char → Except String α

/-- What every event line starts with. -/
def dataMark : String := "data: "

/-- The line that marks the normal end. -/
def doneLine : String := "data: [DONE]"

/-- What a complete line turned out to be. -/
inductive DecodedLine (α : Type) where
  /-- No event: blank, a comment, or another field. -/
  | skip
  /-- The mark of the end. -/
  | done
  /-- An event, or why its payload could not be read. -/
  | event (result : Except Error α)

/-- The payload of an event line. -/
def payload? (line : String) : Option (List Char) :=
  if dataMark.toList.isPrefixOf line.toList then some (line.toList.drop dataMark.length) else none

/-- Reads a complete line. -/
def decodeLine {α : Type} (reader : PayloadReader α) (line : String) : DecodedLine α :=
  if line = doneLine then .done
  else match payload? line with
    | none => .skip
    | some payload => .event ((reader payload).mapError fun reason => .api (.decode line reason))

/-- The events of some lines up to the end mark or the first unreadable payload, and whether one of these was met. -/
def decodeLines {α : Type} (reader : PayloadReader α) : List String → List (Except Error α) × Bool
  | [] => ([], false)
  | line :: rest =>
    match decodeLine reader line with
    | .skip => decodeLines reader rest
    | .done => ([], true)
    | .event (.error e) => ([.error e], true)
    | .event (.ok v) =>
      let (events, stopped) := decodeLines reader rest
      (.ok v :: events, stopped)

/-- A decoder between two chunks. -/
structure Decoder where
  lines : LineBuffer := {}
  finished : Bool := false
  deriving DecidableEq, Repr, Inhabited

namespace Decoder

/-- Ends the decoding; a line that is not complete is dropped. -/
def finish (_ : Decoder) : Decoder :=
  ⟨{}, true⟩

/-- Takes a chunk and gives the events of the lines that it completes. -/
def feed {α : Type} (reader : PayloadReader α) (d : Decoder) (chunk : List UInt8) : List (Except Error α) × Decoder :=
  if d.finished then ([], d)
  else
    let (lines, buffer) := d.lines.push chunk
    let (events, stopped) := decodeLines reader lines
    (events, if stopped then d.finish else ⟨buffer, false⟩)

end Decoder

end Colloquy
