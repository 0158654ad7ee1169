import Colloquy.Message
import Colloquy.Provider.Performance

/-!
# The echo provider

It says the prompt again, one character after the other, each after a pause. A context is announced first.
-/

namespace Colloquy.Echo

/-- The announcement of a context. -/
def preamble (context : Json) : String :=
  "Context: " ++ context.compact ++ "."

/-- The characters of a text, each after a pause. -/
def speak (delayMs : Nat) : List Char → Performance
  | [] => .done (.ok ())
  | c :: rest => .wait delayMs (.emit (String.singleton c) (speak delayMs rest))

/-- The longest pause, of thirty years in milliseconds. It stands for what the timer of the runtime does with a pause that would
end too far off for its clock: it lets it end in the far future, which is thirty years away. -/
def longestPauseMs : Nat := 30 * 365 * 24 * 60 * 60 * 1000

/-- What the echo provider does with a request. -/
def perform (delayMs : Nat) (request : ChatRequest) : Performance :=
  let speech := speak (min delayMs longestPauseMs) request.prompt.toList
  match request.context with
  | none => speech
  | some c => .emit (preamble c) speech

end Colloquy.Echo
