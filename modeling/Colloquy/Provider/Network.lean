import Colloquy.Provider.Conversation
import Colloquy.Provider.Performance

/-!
# Providers on the network

A vendor is sent one request. A reply with a status of success is a body of events; each is projected to the text it
carries, if it carries any, and the first error ends the response. Before every event the provider looks whether to
stop. A reply with any other status is an error with the body as its text.
-/

namespace Colloquy

/-- Where a vendor is reached, and with which key and model. -/
structure Endpoint where
  apiKey : String
  model : String
  url : String
  deriving DecidableEq, Repr, Inhabited

/-- How a vendor is spoken to: the headers and the body of a request, and what the payload of an event says. -/
structure Dialect (α : Type) where
  headers : List (String × String)
  body : Json
  reader : PayloadReader α
  text : α → Except Error (Option String)

namespace Network

variable {α : Type}

/-- Emits the texts of events, then does what is left to do. -/
def play (text : α → Except Error (Option String)) (last : Performance) : List (Except Error α) → Performance
  | [] => last
  | .error e :: _ => .check (.done (.error e))
  | .ok event :: rest =>
    .check (match text event with
      | .error e => .done (.error e)
      | .ok none => play text last rest
      | .ok (some t) => .emit t (play text last rest))

/-- Plays the events of a body. A body that stops coming leaves the provider waiting. -/
def playBody (dialect : Dialect α) (chunks : List (List UInt8)) (ending : BodyEnd) : Performance :=
  let items := Reply.items chunks ending
  let whole := play dialect.text (.check (.done (.ok ()))) (decodeBody dialect.reader items)
  if ending = .stalled then
    match takeItems dialect.reader {} false items with
    | (_, .ended) => whole
    | (events, .opened _) => play dialect.text .hang events
  else whole

/-- Fails with a body that describes an error, which is read to its end unless the provider is told to stop. -/
def failWith (status : Nat) (chunks : List (List UInt8)) (ending : BodyEnd) : Performance :=
  if ending = .stalled then .hang
  else .check (.done (.error (.api (.server status (Reply.errorText chunks ending)))))

/-- What a provider does with what comes back for its request. A status that leaves no room for a body has an empty
one. -/
def respond (dialect : Dialect α) (request : HttpRequest) : Reply → Performance
  | .unreachable => .done (.error request.unanswered)
  | .refused => .done (.error request.unanswered)
  | .answered status chunks ending =>
    let (chunks, ending) := if Reply.isBodyless status then ([], .complete) else (chunks, ending)
    if Reply.isSuccess status then playBody dialect chunks ending else failWith status chunks ending

/-- What a provider does: it sends its request, if that can be sent. -/
def perform (dialect : Dialect α) (url : String) : Performance :=
  match HttpRequest.build url dialect.headers dialect.body.compact with
  | .error e => .check (.done (.error e))
  | .ok request => .exchange request (respond dialect request)

end Network

end Colloquy
