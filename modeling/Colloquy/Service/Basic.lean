import Colloquy.Assistant.Roster
import Colloquy.Provider.Performance
import Colloquy.Session.Directory

/-!
# The service and its host

The service is the roster of assistants and the directory of sessions. It lives with a host (`Host`), which keeps its
state, draws new identifiers, and delivers what is announced. Announcements are made after the state has changed, and
a listener may use the service again before the next announcement is made.
-/

namespace Colloquy

/-- The assistants on offer and all sessions. -/
structure Service (π : Type) where
  roster : Roster π := {}
  directory : Directory := {}
  deriving Repr, Inhabited

/-- What a service announces. -/
inductive Announcement where
  | sessionCreated (id : Uuid)
  | sessionSelected (key : SessionKey)
  | registered (displayName : String)
  | unregistered (id : String)
  | assistantSelected (id : String)
  | session (key : SessionKey) (notice : Notice)
  deriving DecidableEq, Repr

/-- What a service needs of whoever holds it. -/
structure Host (π : Type) (m : Type → Type) where
  /-- The state of the service. -/
  state : m (Service π)
  /-- Replaces the state of the service. -/
  setState : Service π → m Unit
  /-- Delivers an announcement to its listeners. -/
  announce : Announcement → m Unit
  /-- An identifier for a new session. -/
  newId : m Uuid
  /-- A stamp for a new message. -/
  newStamp : m Stamp
  /-- The context to send along, if there is one. -/
  context : m (Option Json)

namespace Service

variable {π : Type} {m : Type → Type} [Monad m] (host : Host π m)

/-- Changes the sessions. -/
def setDirectory (directory : Directory) : m Unit := do
  host.setState { ← host.state with directory }

/-- Changes the assistants. -/
def setRoster (roster : Roster π) : m Unit := do
  host.setState { ← host.state with roster }

/-- Delivers the notices of a session in their order. -/
def deliver (key : SessionKey) : List Notice → m Unit
  | [] => pure ()
  | n :: rest => do
    host.announce (.session key n)
    deliver key rest

/-- Carries out an operation of a session and delivers its notices. -/
def operate (key : SessionKey) (operation : Session → Session × List Notice) : m Unit := do
  let directory := (← host.state).directory
  match directory.session? key with
  | none => pure ()
  | some s =>
    let (s, notices) := operation s
    setDirectory host (directory.put key s)
    deliver host key notices

/-! ## Assistants -/

/-- Registers an assistant. -/
def register (id displayName : String) (provider : π) : m Registration := do
  let (registration, roster) := (← host.state).roster.register id displayName provider
  setRoster host roster
  host.announce (.registered displayName)
  return registration

/-- Removes an assistant, where a token is given only if it is of that registration; says whether it was removed. -/
def unregister (id : String) (token : Option Nat) : m Bool := do
  match (← host.state).roster.remove? id token with
  | none => return false
  | some roster =>
    setRoster host roster
    host.announce (.unregistered id)
    return true

/-- Selects an assistant. -/
def selectAssistant (id : String) : m (Except Error Unit) := do
  match (← host.state).roster.select id with
  | .error e => return .error e
  | .ok roster =>
    setRoster host roster
    host.announce (.assistantSelected id)
    return .ok ()

/-- The selected assistant. -/
def selected : m (Option String) := do
  let roster := (← host.state).roster.heal
  setRoster host roster
  return roster.selected

/-- The provider of the selected assistant. -/
def selectedProvider : m (Option π) := do
  let roster := (← host.state).roster
  setRoster host roster.heal
  return roster.selectedProvider?

/-! ## Sessions -/

/-- Makes a new session, which does not become the selected one. -/
def newSession : m Uuid := do
  let id ← host.newId
  setDirectory host ((← host.state).directory.add id)
  host.announce (.sessionCreated id)
  return id

/-- Selects a session, or none; gives the one that is then the current one. -/
def selectSession (target : Option Uuid) : m (Except Error SessionKey) := do
  match (← host.state).directory.select target with
  | .error e => return .error e
  | .ok directory =>
    setDirectory host directory
    let key := target.elim .null .listed
    host.announce (.sessionSelected key)
    return .ok key

/-- Takes the draft of a session, leaving it empty. -/
def takePrompt (key : SessionKey) : m String := do
  let directory := (← host.state).directory
  setDirectory host (directory.change key (·.setPrompt ""))
  return (directory.session key).prompt

/-- Starts a response in a session. -/
def startResponse (key : SessionKey) (provider : Option π) (context : Option Json) : m (Except Error (Pending π)) := do
  let user ← host.newStamp
  let assistant ← host.newStamp
  let directory := (← host.state).directory
  match (directory.session key).start provider context user assistant with
  | .error e => return .error e
  | .ok started =>
    setDirectory host (directory.put key started.session)
    deliver host key started.notices
    return .ok started.pending

/-- Ends the active generation of a session, if there is one. -/
def cancelSession (key : SessionKey) : m Unit :=
  operate host key Session.cancel

/-! ## Pending responses -/

/-- Takes a piece of text for a pending response. -/
def takeDelta (p : Pending π) (text : String) : m Unit :=
  operate host (.listed p.session) (·.applyDelta p.generation text)

/-- Ends a pending response. -/
def settle (p : Pending π) (error : Option Error) : m Unit :=
  operate host (.listed p.session) (·.settle p.generation error)

/-- Whether a pending response was told to stop. -/
def isStopped (p : Pending π) : m Bool := do
  return ((← host.state).directory.get? p.session).any (·.isStopped p.generation)

/-- Tells a pending response to stop, which by itself ends nothing. -/
def stop (p : Pending π) : m Unit :=
  operate host (.listed p.session) fun s => (s.stop p.generation, [])

/-- Lets a pending response be answered, and ends it whatever comes of that. -/
def respond (answer : Pending π → m Outcome) (p : Pending π) : m Outcome := do
  let outcome ← answer p
  match outcome with
  | .finished (.error e) => settle host p (some e)
  | _ => settle host p none
  return outcome

end Service

end Colloquy
