import Colloquy.Error
import Colloquy.Message

/-!
# Sessions

A session is one conversation. It is idle, or one generation in it is active. Starting a generation puts the draft into
the history as a message of the user, followed by an empty message of the assistant, which the generation then fills.
Generations are numbered; only the active one with the latest number may touch the history, so that one that was
cancelled and goes on talking, or ends late, disturbs nothing.

Every operation gives the new session and the notices that are to be delivered in their order, once the session is in
its new state. The null session stands in where no session is selected: it holds a draft and nothing else.
-/

namespace Colloquy

/-- What the observers of a session are told. -/
inductive Notice where
  /-- The session became active or idle. -/
  | active (value : Bool)
  /-- The message being generated, as it is now. -/
  | response (message : Message)
  deriving DecidableEq, Repr

/-- A conversation. -/
structure Session where
  id : Uuid
  isNull : Bool
  history : List Message
  /-- The draft of the next prompt. -/
  prompt : String
  isActive : Bool
  /-- The number of the generation that was started last. -/
  generation : Nat
  /-- The generations that were told to stop. -/
  stopped : List Nat
  scrollTop : Binary64
  title : String
  summary : Option String
  deriving DecidableEq, Repr, Inhabited

/-- A generation that was started: what was asked, and who is to answer. -/
structure Pending (π : Type) where
  session : Uuid
  generation : Nat
  provider : π
  request : ChatRequest
  deriving Repr, Inhabited

/-- A generation just started: the session, the pending response, and what observers are told. -/
structure Start (π : Type) where
  session : Session
  pending : Pending π
  notices : List Notice

namespace Session

/-- The title of a session that has not been given one. -/
def defaultTitle : String := "Untitled Chat"

/-- A new session. -/
def new (id : Uuid) : Session :=
  ⟨id, false, [], "", false, 0, [], .zero, defaultTitle, none⟩

/-- The null session. -/
def null : Session :=
  ⟨.nil, true, [], "", false, 0, [], .zero, "", some ""⟩

/-- Whether a generation may touch the history. -/
def owns (s : Session) (generation : Nat) : Bool :=
  s.isActive && s.generation == generation

/-- The newest message. -/
def last? (s : Session) : Option Message :=
  s.history.getLast?

/-- The newest message as a notice, if there is one. -/
def lastNotice (s : Session) : List Notice :=
  s.last?.toList.map .response

/-- Changes the newest message. -/
def amendLast (s : Session) (change : Message → Message) : Session :=
  match s.last? with
  | none => s
  | some m => { s with history := s.history.dropLast ++ [change m] }

/-- Writes the draft. -/
def setPrompt (s : Session) (text : String) : Session :=
  { s with prompt := text }

/-- Remembers where the view of the session was scrolled to. -/
def setScrollTop (s : Session) (position : Binary64) : Session :=
  { s with scrollTop := position }

/-- Gives a title; the null session has none. -/
def setTitle (s : Session) (text : String) : Session :=
  if s.isNull then s else { s with title := text }

/-- Gives a summary or takes it away; that of the null session stays. -/
def setSummary (s : Session) (text : Option String) : Session :=
  if s.isNull then s else { s with summary := text }

/-- The request that the draft makes. -/
def request (s : Session) (context : Option Json) : ChatRequest :=
  ⟨s.prompt, s.history, context⟩

/-- Starts a generation; the stamps are for its two messages. It fails on the null session, without a provider, and
while a generation is active, and then changes nothing. -/
def start {π : Type} (s : Session) (provider : Option π) (context : Option Json) (user assistant : Stamp) :
    Except Error (Start π) :=
  if s.isNull then .error (.session "Null chat session cannot provide chat responses")
  else match provider with
    | none => .error (.config "Can't provide chat response: No assistant selected")
    | some provider =>
      if s.isActive then .error (.session "A response is already being generated for this session")
      else
        let placeholder := Message.new assistant .assistant ""
        .ok {
          session := { s with
            history := s.history ++ [Message.new user .user s.prompt, placeholder]
            prompt := ""
            isActive := true
            generation := s.generation + 1 }
          pending := ⟨s.id, s.generation + 1, provider, s.request context⟩
          notices := [.active true, .response placeholder] }

/-- Appends a piece of text to the message of the active generation; a piece of another generation is dropped. -/
def applyDelta (s : Session) (generation : Nat) (text : String) : Session × List Notice :=
  if s.owns generation then
    let s := s.amendLast fun m => { m with content := m.content ++ text }
    (s, s.lastNotice)
  else (s, [])

/-- Ends a generation, with the error that ended it if there was one; one that is no longer active stays as it ended. -/
def settle (s : Session) (generation : Nat) (error : Option Error) : Session × List Notice :=
  if s.owns generation then
    let s := { s with isActive := false }
    let s := match error with
      | none => s
      | some e => s.amendLast fun m => { m with error := some e.message }
    (s, .active false :: s.lastNotice)
  else (s, [])

/-- Tells a generation to stop, which by itself ends nothing. -/
def stop (s : Session) (generation : Nat) : Session :=
  { s with stopped := s.stopped ++ [generation] }

/-- Whether a generation was told to stop. -/
def isStopped (s : Session) (generation : Nat) : Bool :=
  s.stopped.contains generation

/-- Ends the active generation, if there is one, and tells it to stop. -/
def cancel (s : Session) : Session × List Notice :=
  if s.isActive then
    let s := { s.stop s.generation with isActive := false }
    (s, .active false :: s.lastNotice)
  else (s, [])

end Session

end Colloquy
