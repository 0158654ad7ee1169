import Colloquy.Message

/-!
# The conversation that vendors see

Both vendors are sent the messages that have a text, then the context as an exchange of its own if there is one, and
last the prompt.
-/

namespace Colloquy

/-- What every model is told about itself. -/
def persona : String := "You are a helpful coding assistant."

/-- The reply that is put after a context. -/
def contextAcknowledgement : String :=
  "Acknowledged. I won't explicitly mention this context if it is irrelevant, but I will keep it in mind for my responses."

/-- A message as a vendor sees it. -/
structure WireMessage where
  role : String
  content : String
  deriving DecidableEq, Repr, Inhabited

/-- The JSON form of a message for a vendor. -/
def WireMessage.toJson (m : WireMessage) : Json :=
  .obj [("role", .str m.role), ("content", .str m.content)]

namespace ChatRequest

/-- The exchange that carries a context. -/
def contextExchange : Option Json → List WireMessage
  | none => []
  | some c => [⟨Role.user.name, c.compact⟩, ⟨Role.assistant.name, contextAcknowledgement⟩]

/-- The messages for a vendor that takes only some roles. -/
def conversation (r : ChatRequest) (takes : Role → Bool) : List WireMessage :=
  ((r.nonEmptyHistory.filter fun m => takes m.role).map fun m => ⟨m.role.name, m.content⟩)
    ++ contextExchange r.context ++ [⟨Role.user.name, r.prompt⟩]

end ChatRequest

end Colloquy
