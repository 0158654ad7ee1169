import Colloquy.Provider.Basic
import Colloquy.Service.Basic

/-!
# Sending the draft

What is sent is the draft of the current session, to the selected assistant. Where no session is selected one is made
first and the draft of the null session moves over to it. Nothing is touched when no assistant is on offer.
-/

namespace Colloquy.Service

variable {π : Type} {m : Type → Type} [Monad m] (host : Host π m)

/-- Writes the draft of the current session. -/
def setPrompt (text : String) : m Unit := do
  let directory := (← host.state).directory
  setDirectory host (directory.change directory.currentKey (·.setPrompt text))

/-- Cancels the active generation of the current session, if there is one. -/
def cancel : m Unit := do
  cancelSession host (← host.state).directory.currentKey

/-- The current session; where there is none, a new one with the draft of the null session. -/
def ensureSession : m (Except Error SessionKey) := do
  match (← host.state).directory.currentKey with
  | .listed id => return .ok (.listed id)
  | .null =>
    let id ← newSession host
    let draft ← takePrompt host .null
    setDirectory host ((← host.state).directory.change (.listed id) (·.setPrompt draft))
    selectSession host (some id)

/-- Starts a response to the draft. -/
def send : m (Except Error (Pending π)) := do
  match ← selectedProvider host with
  | none => return .error (.config "Can't provide chat response: No assistant selected")
  | some provider =>
    match ← ensureSession host with
    | .error e => return .error e
    | .ok key =>
      let context ← host.context
      startResponse host key (some provider) context

/-- Registers assistants in their order. -/
def registerAll (wrap : Provider → π) : List ConfiguredProvider → m (List Registration)
  | [] => return []
  | c :: rest => do
    let registration ← register host c.id c.displayName (wrap c.provider)
    return registration :: (← registerAll wrap rest)

/-- Registers an assistant for every configured model; there must be one, and all must be valid. -/
def loadModels (wrap : Provider → π) (settings : Settings) : m (Except Error (List Registration)) := do
  if settings.models.isEmpty then return .error (.config "No chat models configured")
  else match settings.providers with
    | .error e => return .error e
    | .ok providers => return .ok (← registerAll host wrap providers)

end Colloquy.Service
