import Colloquy.Stream.Decoder

/-!
# Events out of a body

A body is a sequence of chunks that may break off. Its events are those of the decoder; a break ends them with an
error, and so does the end of a body that brought no byte at all. Nothing that follows the end of the events matters.
-/

namespace Colloquy

/-- What the transport delivers: bytes, or why there are no more. -/
inductive BodyItem where
  | chunk (bytes : List UInt8)
  | broken (reason : String)
  deriving DecidableEq, Repr

/-- Where a body stands when its items have been taken: its events have come to an end, or it is still open and may or
may not have brought a byte. -/
inductive BodyState where
  | ended
  | opened (received : Bool)
  deriving DecidableEq, Repr

/-- The events of the items of a body, and where it stands after them. -/
def takeItems {α : Type} (reader : PayloadReader α) (d : Decoder) (received : Bool) :
    List BodyItem → List (Except Error α) × BodyState
  | [] => ([], .opened received)
  | .broken reason :: _ => ([.error (.api (.stream reason))], .ended)
  | .chunk bytes :: rest =>
    let (events, d) := d.feed reader bytes
    if d.finished then (events, .ended)
    else
      let (more, state) := takeItems reader d (received || !bytes.isEmpty) rest
      (events ++ more, state)

/-- The events of a whole body. -/
def decodeBody {α : Type} (reader : PayloadReader α) (items : List BodyItem) : List (Except Error α) :=
  match takeItems reader {} false items with
  | (events, .opened false) => events ++ [.error (.api .missingBody)]
  | (events, _) => events

end Colloquy
