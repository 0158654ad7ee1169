import Colloquy.Json.Printer
import Colloquy.Json.Record
import Colloquy.Time.Timestamp
import Colloquy.Uuid

/-!
# Messages

A message has a role, a content and, when it could not be finished, an error. A request is the prompt to be answered,
the messages before it, and possibly a context that the host adds. Both have a JSON form: `Message.toJson` and
`ChatRequest.toJson` write it, `Message.record` and `ChatRequest.record` read it.
-/

namespace Colloquy

/-- Who speaks. -/
inductive Role where
  | user
  | assistant
  | system
  deriving DecidableEq, Repr, Inhabited

namespace Role

/-- The name of a role. -/
def name : Role → String
  | .user => "user"
  | .assistant => "assistant"
  | .system => "system"

/-- The roles by name. -/
def named : List (String × Role) :=
  [.user, .assistant, .system].map fun r => (r.name, r)

/-- Reads a role. -/
def reader (depth : Nat) : Json.Reader Role :=
  Json.choice named depth

end Role

/-- What makes a message this one: its identifier, and when it was made. -/
structure Stamp where
  id : Uuid
  time : Instant
  deriving DecidableEq, Repr, Inhabited

/-- A message of a conversation. -/
structure Message where
  id : Uuid
  role : Role
  content : String
  timestamp : Instant
  /-- The error that ended this message early. -/
  error : Option String
  deriving DecidableEq, Repr, Inhabited

namespace Message

/-- A new message. -/
def new (stamp : Stamp) (role : Role) (content : String) : Message :=
  ⟨stamp.id, role, content, stamp.time, none⟩

/-- Whether the message has no text. -/
def isEmpty (m : Message) : Bool :=
  m.content.isEmpty

/-- Whether the message could not be finished. -/
def isError (m : Message) : Bool :=
  m.error.isSome

/-- The JSON form, with the error only when there is one. -/
def toJson (m : Message) : Json :=
  .obj ([("id", .str m.id.toText), ("role", .str m.role.name), ("content", .str m.content),
      ("timestamp", .str (String.ofList (Timestamp.print m.timestamp)))]
    ++ (m.error.map fun e => ("error", Json.str e)).toList)

/-- The fields of a message as they are read. -/
structure Slots where
  id : Option Uuid := none
  role : Option Role := none
  content : Option String := none
  timestamp : Option Instant := none
  error : Option (Option String) := none

/-- A string that holds an identifier. -/
def uuid : Json.Reader Uuid :=
  Json.stringAs "a formatted UUID string" fun s =>
    (Uuid.read s).mapError fun e => .custom ("UUID parsing failed: " ++ e.message)

/-- A string that holds a timestamp. -/
def instant : Json.Reader Instant :=
  Json.stringAs "an RFC 3339 formatted date and time string" fun s =>
    (Timestamp.read s).mapError fun e => .custom e.message

/-- How a message is read. -/
def record : Json.Record Slots Message where
  title := "struct Message"
  fields := [
    .slot "id" (·.id) (fun s v => { s with id := some v }) fun _ => uuid,
    .slot "role" (·.role) (fun s v => { s with role := some v }) Role.reader,
    .slot "content" (·.content) (fun s v => { s with content := some v }) fun _ => Json.string,
    .slot "timestamp" (·.timestamp) (fun s v => { s with timestamp := some v }) fun _ => instant,
    .slot "error" (·.error) (fun s v => { s with error := some v }) fun _ => Json.optional Json.string]
  start := {}
  finish := fun s => do
    return ⟨← Json.need "id" s.id, ← Json.need "role" s.role, ← Json.need "content" s.content,
      ← Json.need "timestamp" s.timestamp, s.error.join⟩

end Message

/-- A request for a response. -/
structure ChatRequest where
  prompt : String
  history : List Message
  context : Option Json
  deriving DecidableEq, Repr, Inhabited

namespace ChatRequest

/-- A request with a prompt only. -/
def new (prompt : String) : ChatRequest :=
  ⟨prompt, [], none⟩

/-- The messages before the prompt that have a text. -/
def nonEmptyHistory (r : ChatRequest) : List Message :=
  r.history.filter fun m => !m.isEmpty

/-- The JSON form, with the context only when there is one. -/
def toJson (r : ChatRequest) : Json :=
  .obj ([("prompt", .str r.prompt), ("history", .arr (r.history.map Message.toJson))]
    ++ (r.context.map fun c => ("context", c)).toList)

/-- The fields of a request as they are read. -/
structure Slots where
  prompt : Option String := none
  history : Option (List Message) := none
  context : Option (Option Json) := none

/-- How a request is read. A context of `null` counts as none. -/
def record : Json.Record Slots ChatRequest where
  title := "struct ChatRequest"
  fields := [
    .slot "prompt" (·.prompt) (fun s v => { s with prompt := some v }) fun _ => Json.string,
    .slot "history" (·.history) (fun s v => { s with history := some v }) (Json.array Message.record.read),
    .slot "context" (·.context) (fun s v => { s with context := some v }) fun depth => Json.optional (Json.value depth)]
  start := {}
  finish := fun s => do
    return ⟨← Json.need "prompt" s.prompt, ← Json.need "history" s.history, s.context.join.map Json.canonical⟩

end ChatRequest

end Colloquy
