import Colloquy.Provider.Basic
import Colloquy.Service.Basic

/-!
# Steps of a host

What a host does with a service, step by step, and what it sees of each step. A provider may be one that the host wrote
itself, as a script; what a script does, and what a listener is set to do at some event, are steps again.
-/

namespace Colloquy.Scenario

/-- How a host calls a session: the null session, the sessions in the order in which they were made, or by a name that
no session has. -/
inductive SessionLabel where
  | null
  | nth (n : Nat)
  | unknown
  deriving DecidableEq, Repr, Inhabited

/-- What a host asks the directory for. -/
inductive SessionTarget where
  | none
  | label (label : SessionLabel)
  | uuid (id : Uuid)
  deriving DecidableEq, Repr, Inhabited

/-- The announcements that a listener can be set on. -/
inductive EventKind where
  | create
  | selectSession
  | register
  | unregister
  | select
  | active
  | response
  deriving DecidableEq, Repr, Inhabited

mutual

/-- What a host does. -/
inductive Step where
  /-- Writes the draft of the current session. -/
  | setPrompt (text : String)
  | setPromptOf (session : SessionLabel) (text : String)
  | setTitle (session : SessionLabel) (text : String)
  | setSummary (session : SessionLabel) (text : Option String)
  | setScroll (session : SessionLabel) (position : Binary64)
  | takePrompt (session : SessionLabel)
  /-- Looks at a session. -/
  | inspect (session : SessionLabel)
  /-- Looks at the history of a session and breaks down over it. -/
  | breakDown (session : SessionLabel)
  /-- Cancels in the current session. -/
  | cancel
  | cancelSession (session : SessionLabel)
  /-- Listens to a session, anew if it already does. -/
  | watch (session : SessionLabel)
  | unwatch (session : SessionLabel)
  /-- Sets a listener to take a step after so many events of a kind, from one session only if one is named. The step is
  reported under a label. -/
  | hook (on : EventKind) (nth : Nat) (session : Option SessionLabel) (label : String) (step : Step)
  | newSession
  | selectSession (target : SessionTarget)
  | getSession (target : SessionTarget)
  | currentId
  | sessions
  | register (id name : String) (provider : Backend)
  /-- Removes the assistant of a handle. -/
  | deregister (handle : Nat)
  | cloneHandle (handle : Nat)
  | describeHandle (handle : Nat)
  | unregister (id : String)
  | selectAssistant (id : String)
  | selected
  | selectedProvider
  | provider (id : String)
  | isEmpty
  /-- Registers the models of a text of settings. -/
  | loadModels (settings : String)
  | send
  | start (session : SessionLabel) (provider : Choice) (context : Option Json)
  /-- Lets a pending response be answered to its end; none is the label of no response. Like the next two it is a step
  on the service, which has to be held. -/
  | run (pending : Option Nat)
  | submit
  | provide (session : SessionLabel) (provider : Choice) (context : Option Json)
  /-- Lets a pending response be answered for as long as nothing has to be waited for, and drops it. -/
  | abandon (pending : Option Nat)
  | dropPending (pending : Option Nat)
  | stopPending (pending : Option Nat)
  | describePending (pending : Option Nat)
  | dropService

/-- Who answers. -/
inductive Backend where
  | builtIn (provider : Provider)
  | script (name : String) (acts : List Act)

/-- Who is to answer in a session: nobody, the selected assistant, or someone given. -/
inductive Choice where
  | nobody
  | selected
  | given (backend : Backend)

/-- What a script does. -/
inductive Act where
  | emit (text : String)
  /-- Looks whether it was told to stop, and does not mind. -/
  | check
  | fail (error : Error)
  | breakDown
  /-- Waits for ever. -/
  | pause
  /-- Takes a step of the host, reported under a label. -/
  | step (label : String) (step : Step)

end

instance : Inhabited Step := ⟨.cancel⟩

instance : Inhabited Backend := ⟨.script "" []⟩

/-- The name of a provider. -/
def Backend.name : Backend → String
  | .builtIn provider => provider.name
  | .script name _ => name

/-- What a look at a session shows. -/
structure Inspection where
  isNull : Bool
  isActive : Bool
  count : Nat
  last : Option Message
  description : String
  deriving DecidableEq, Repr

/-- What comes of a step. -/
inductive Answer where
  | ok
  /-- What the step is about is no longer there. -/
  | gone
  | noSession
  | failed (error : Error)
  | flag (value : Bool)
  | text (value : String)
  /-- There is no such thing. -/
  | absent
  | session (label : SessionLabel)
  | sessions (labels : List SessionLabel)
  | created (label : SessionLabel)
  | inspection (found : Inspection)
  /-- The host broke down over what it looked at. -/
  | readerBrokeDown
  | handle (number : Nat) (id : String)
  | handles (all : List (Nat × String))
  | pending (number : Nat) (session : SessionLabel) (request : ChatRequest)
  /-- The provider broke down. -/
  | providerBrokeDown
  | abandoned
  /-- The step has something to wait for, and whoever took it does not wait. -/
  | suspended
  /-- Steps within steps went on without end. -/
  | tooDeep
  deriving DecidableEq, Repr, Inhabited

/-- The answer to something that may fail. -/
def Answer.ofResult : Except Error Unit → Answer
  | .ok _ => .ok
  | .error e => .failed e

/-- What a host sees, with what it reads back when it sees it; of the service only while it is held. -/
inductive Event where
  | created (session : SessionLabel) (prompt : String) (current : Option SessionLabel)
  | sessionSelected (session : SessionLabel) (prompt : String) (current : Option SessionLabel)
  | registered (name : String) (count : Option Nat)
  | unregistered (id : String) (count : Option Nat)
  | assistantSelected (id : String)
  | active (session : SessionLabel) (value isActive : Bool) (last : Option Message)
  | response (session : SessionLabel) (index : Option Nat) (message : Message) (isActive : Bool)
  /-- A script was asked. -/
  | asked (provider : String) (request : ChatRequest)
  /-- A script looked whether it was told to stop. -/
  | checked (stopped : Bool)
  /-- A script took a step. -/
  | did (label : String) (answer : Answer)
  /-- A listener took the step that it was set to take. -/
  | hooked (label : String) (answer : Answer)
  /-- The context was asked for; whether any was prepared. -/
  | contextAsked (prepared : Bool)
  deriving DecidableEq, Repr

end Colloquy.Scenario
