import Colloquy.Provider.Network

/-!
# Anthropic messages

The persona travels beside the messages, and messages of the system are left out. The type of an event says what else
it holds: a `content_block_delta` may carry a text, an `error` ends the response, and all others carry nothing. An
event is read in two steps: its type and the rest of its fields are taken from the text, and the fields that the type
calls for are then found among them; what is wrong with those has no place in the text any more.
-/

namespace Colloquy.Anthropic

/-- Where requests go unless another address is set. -/
def defaultUrl : String := "https://api.anthropic.com/v1/messages"

/-- The version of the interface that is spoken. -/
def version : String := "2023-06-01"

/-- How many tokens a response may have unless another limit is set. -/
def defaultMaxTokens : Nat := 4096

/-- The body of a request. -/
def body (model : String) (maxTokens : Nat) (request : ChatRequest) : Json :=
  .obj [("model", .str model),
    ("messages", .arr ((request.conversation fun r => r != .system).map WireMessage.toJson)),
    ("max_tokens", .nat maxTokens),
    ("system", .str persona),
    ("stream", .bool true)]

/-- An event, as far as it matters. -/
inductive Event where
  | text (delta : Option String)
  | error (kind message : String)
  | other
  deriving DecidableEq, Repr

/-- The types of events that hold something to be read. -/
inductive Tag where
  | delta
  | error
  | other
  deriving DecidableEq, Repr

/-- The type of a name; names that are not known hold nothing of interest. -/
def tagOf (name : String) : Tag :=
  if name = "content_block_delta" then .delta else if name = "error" then .error else .other

/-- Reads the type of an event. -/
def tag : Json.Reader Tag :=
  Json.stringAs "variant identifier" fun name => .ok (tagOf name)

/-- The fields of an event whose brace was read: its type, and all others as they come. Every field takes at least one
character, so that a text no shorter than what is read can count the `steps`. -/
def fieldsFrom (depth : Nat) :
    (steps : List Char) → (first : Bool) → Option Tag → (done : List (String × Json)) →
      Json.Reader (Option Tag × List (String × Json))
  | [], _, _, _, text => .error (.here .endInObject text)
  | _ :: steps, first, found, done, text => do
    let (more, start) ← Json.nextKey first text
    if more then
      let (key, rest) ← Json.stringBody start
      if key = "type" then
        if found.isSome then .error (.here (.duplicateField "type") (Json.Record.leaveObject rest))
        else
          let (t, rest) ← tag (← Json.colon rest)
          fieldsFrom depth steps false (some t) done rest
      else
        let (value, rest) ← Json.value depth (← Json.colon rest)
        fieldsFrom depth steps false found ((key, value) :: done) rest
    else
      .ok ((found, done.reverse), start)

/-- The items of an event that is an array, after its type. -/
def itemsAfterTag (depth : Nat) (text : List Char) : Except Json.Fault (Tag × List Json × List Char) := do
  let (more, start) ← Json.nextItem true text
  if more then
    let (t, rest) ← tag start
    let (values, rest) ← Json.itemsFrom (Json.value depth) rest false [] rest
    return (t, values, rest)
  else .error (.here (.missingField "type") start)

/-- What a value read before is found to be. -/
def foundAs : Json → Json.Found
  | .null => .null
  | .bool b => .bool b
  | .num n => .number n
  | .str s => .string s
  | .arr _ => .sequence
  | .obj _ => .map

/-- A string among values read before. -/
def asString : Json → Except Json.Fault String
  | .str s => .ok s
  | v => .error (.unplaced (.invalidType (foundAs v) "a string"))

/-- A string or none. -/
def asOptional : Json → Except Json.Fault (Option String)
  | .null => .ok none
  | v => (asString v).map some

/-- The values of the fields with given names, in the order in which they come, put before those already found. -/
def gatherFields {β : Type} (names : List String) (item : Json → Except Json.Fault β) :
    (found : List (String × β)) → List (String × Json) → Except Json.Fault (List (String × β))
  | found, [] => .ok found
  | found, (k, v) :: rest =>
    if names.contains k then
      if (found.lookup k).isSome then .error (.unplaced (.duplicateField k))
      else do gatherFields names item ((k, ← item v) :: found) rest
    else gatherFields names item found rest

/-- The number of elements that something has, in words. -/
def elements (n : Nat) : String :=
  toString n ++ (if n = 1 then " element" else " elements")

/-- The fields with given names of a value read before, an object or an array of just these fields. All are read
alike; one that is missing has the value `absent`, if there is such a value. -/
def shape {β : Type} (title : String) (names : List String) (absent : Option β) (item : Json → Except Json.Fault β) :
    Json → Except Json.Fault (List β)
  | .obj fields => do
    let found ← gatherFields names item [] fields
    names.mapM fun n =>
      match found.lookup n <|> absent with
      | some b => .ok b
      | none => .error (.unplaced (.missingField n))
  | .arr values => do
    let found ← (values.take names.length).mapM item
    if names.length < values.length then
      .error (.unplaced (.invalidLength values.length (elements names.length ++ " in sequence")))
    else if names.length = values.length then return found
    else match absent with
      | some b => return found ++ List.replicate (names.length - values.length) b
      | none => .error (.unplaced (.invalidLength values.length (title ++ " with " ++ elements names.length)))
  | v => .error (.unplaced (.invalidType (foundAs v) title))

/-- The text of a delta. -/
def deltaText (v : Json) : Except Json.Fault (Option String) := do
  return (← shape "struct AnthropicDelta" ["text"] (some none) asOptional v).head?.join

/-- The kind and the message of an error. -/
def errorDetail (v : Json) : Except Json.Fault (List String) :=
  shape "struct AnthropicErrorDetail" ["type", "message"] none asString v

/-- The event of a type and of what else was read, as an object or an array. The fields of an object are passed over where the type
holds nothing; the items of an array are not. -/
def eventOf (t : Tag) (rest : Json) : Except Json.Fault Event :=
  match t with
  | .delta => do
    let texts ← shape "struct variant AnthropicStreamEvent::ContentBlockDelta" ["delta"] none deltaText rest
    return .text texts.head?.join
  | .error => do
    let details ← shape "struct variant AnthropicStreamEvent::Error" ["error"] none errorDetail rest
    match details with
    | [[kind, message]] => return .error kind message
    | _ => return .other
  | .other =>
    match rest with
    | .arr (v :: vs) => .error (.unplaced (.invalidLength (v :: vs).length (elements 0 ++ " in sequence")))
    | _ => .ok .other

/-- Reads an event. -/
def event (depth : Nat) : Json.Reader Event := fun text =>
  match Json.skipSpaces text with
  | '{' :: rest =>
    match depth with
    | 0 => .error (.next .tooDeep ('{' :: rest))
    | inner + 1 => do
      let ((found, fields), rest) ← fieldsFrom inner rest true none [] rest
      match found with
      | none => .error (.here (.missingField "type") rest)
      | some t => return (← eventOf t (.obj fields), rest)
  | '[' :: rest =>
    match depth with
    | 0 => .error (.next .tooDeep ('[' :: rest))
    | inner + 1 => do
      let (t, values, rest) ← itemsAfterTag inner rest
      return (← eventOf t (.arr values), rest)
  | start => Json.wrongType "internally tagged enum AnthropicStreamEvent" start

/-- Reads the payload of an event. -/
def reader : PayloadReader Event := fun payload =>
  (Json.Reader.all (event Json.depthLimit) payload).mapError fun fault => fault.message payload

/-- The text of an event. -/
def textOf : Event → Except Error (Option String)
  | .text t => .ok t
  | .error kind message => .error (.api (.stream (kind ++ ": " ++ message)))
  | .other => .ok none

/-- How requests are made and events understood. -/
def dialect (endpoint : Endpoint) (maxTokens : Nat) (request : ChatRequest) : Dialect Event where
  headers := [("x-api-key", endpoint.apiKey), ("anthropic-version", version), ("content-type", "application/json")]
  body := body endpoint.model maxTokens request
  reader := reader
  text := textOf

/-- What the provider does with a request. -/
def perform (endpoint : Endpoint) (maxTokens : Nat) (request : ChatRequest) : Performance :=
  Network.perform (dialect endpoint maxTokens request) endpoint.url

end Colloquy.Anthropic
