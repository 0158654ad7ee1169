import Colloquy.Provider.Network

/-!
# OpenAI chat completions

The persona is the first message. An event carries the text of its first choice.
-/

namespace Colloquy.OpenAi

/-- Where requests go unless another address is set. -/
def defaultUrl : String := "https://api.openai.com/v1/chat/completions"

/-- The body of a request. -/
def body (model : String) (request : ChatRequest) : Json :=
  .obj [("model", .str model),
    ("messages", .arr ((⟨Role.system.name, persona⟩ :: request.conversation fun _ => true).map WireMessage.toJson)),
    ("stream", .bool true)]

/-- The slots of the part of a choice that has a text. -/
structure DeltaSlots where
  content : Option (Option String) := none

/-- The part of a choice that may have a text. -/
def delta : Json.Record DeltaSlots (Option String) where
  title := "struct OpenAiDelta"
  fields := [.slot "content" (·.content) (fun s v => { s with content := some v }) fun _ => Json.optional Json.string]
  start := {}
  finish := fun s => .ok s.content.join

/-- The slots of a choice. -/
structure ChoiceSlots where
  delta : Option (Option String) := none

/-- A choice. -/
def choice : Json.Record ChoiceSlots (Option String) where
  title := "struct OpenAiStreamChoice"
  fields := [.slot "delta" (·.delta) (fun s v => { s with delta := some v }) delta.read]
  start := {}
  finish := fun s => Json.need "delta" s.delta

/-- The slots of an event. -/
structure ChunkSlots where
  choices : Option (List (Option String)) := none

/-- An event: the texts of its choices. -/
def chunk : Json.Record ChunkSlots (List (Option String)) where
  title := "struct OpenAiStreamChunk"
  fields := [.slot "choices" (·.choices) (fun s v => { s with choices := some v }) (Json.array choice.read)]
  start := {}
  finish := fun s => Json.need "choices" s.choices

/-- Reads the payload of an event. -/
def reader : PayloadReader (List (Option String)) := fun payload =>
  (Json.Reader.all (chunk.read Json.depthLimit) payload).mapError fun fault => fault.message payload

/-- How requests are made and events understood. -/
def dialect (endpoint : Endpoint) (request : ChatRequest) : Dialect (List (Option String)) where
  headers := [("authorization", "Bearer " ++ endpoint.apiKey), ("content-type", "application/json")]
  body := body endpoint.model request
  reader := reader
  text := fun choices => .ok choices.head?.join

/-- What the provider does with a request. -/
def perform (endpoint : Endpoint) (request : ChatRequest) : Performance :=
  Network.perform (dialect endpoint request) endpoint.url

end Colloquy.OpenAi
