import Colloquy.Scenario.Step
import Colloquy.Text.Quoted

/-!
# A host and what it holds

The state of a host: the service, the handles and pending responses it was given, the sessions it listens to, the steps
its listeners are set to take, and what it has seen.
-/

namespace Colloquy.Scenario

/-- A step that a listener is set to take. -/
structure Hook where
  kind : EventKind
  nth : Nat
  session : Option SessionLabel
  label : String
  step : Step
  /-- The events that counted so far. -/
  seen : Nat := 0
  deriving Inhabited

/-- Whether an event counts for a hook. -/
def Hook.hears (h : Hook) (kind : EventKind) (session : Option SessionLabel) : Bool :=
  h.kind = kind ∧ h.session.all fun s => session = some s

/-- The state of a host. -/
structure HostState where
  service : Service Backend := {}
  /-- Whether the host still holds the service. -/
  holdsService : Bool := true
  /-- The steps on the service that are under way: it lives on until they end, even if it is no longer held. -/
  underWay : Nat := 0
  /-- The contexts prepared for the next requests, unless the service asks for none. -/
  contexts : Option (List (Option Json)) := none
  /-- The sessions that the host listens to. -/
  watched : List SessionKey := [.null]
  hooks : List Hook := []
  /-- The pending responses by label. -/
  pendings : List (Nat × Pending Backend) := []
  nextPending : Nat := 0
  handles : List Registration := []
  /-- What was seen, the latest first. -/
  events : List Event := []
  /-- The identifiers drawn so far. -/
  drawn : Nat := 0
  deriving Inhabited

namespace HostState

/-- The label of a session. -/
def label (w : HostState) : SessionKey → SessionLabel
  | .null => .null
  | .listed id =>
    match w.service.directory.sessions.findIdx? fun s => s.id = id with
    | some n => .nth n
    | none => .unknown

/-- The session of a label. -/
def key? (w : HostState) : SessionLabel → Option SessionKey
  | .null => some .null
  | .nth n => (w.service.directory.sessions[n]?).map fun s => .listed s.id
  | .unknown => none

/-- The session of a key. -/
def session (w : HostState) (key : SessionKey) : Session :=
  w.service.directory.session key

/-- The label of the current session, while the service is held. -/
def current? (w : HostState) : Option SessionLabel :=
  if w.holdsService then some (w.label w.service.directory.currentKey) else none

/-- The number of assistants, while the service is held. -/
def count? (w : HostState) : Option Nat :=
  if w.holdsService then some w.service.roster.count else none

/-- Whether the service lives. -/
def livesService (w : HostState) : Bool :=
  w.holdsService || 0 < w.underWay

/-- The identifier that a target names; a label that no session has names none. -/
def idOf (w : HostState) : SessionTarget → Option Uuid
  | .none => none
  | .uuid id => some id
  | .label l =>
    match w.key? l with
    | some (.listed id) => some id
    | some .null => some .nil
    | none => none

/-- Notes an event. -/
def note (w : HostState) (event : Event) : HostState :=
  { w with events := event :: w.events }

/-- Counts an event for the hooks: those that are now due, and the state without them. -/
def countHooks (w : HostState) (kind : EventKind) (session : Option SessionLabel) : List Hook × HostState :=
  let isDue (h : Hook) : Bool := h.hears kind session && h.seen + 1 = h.nth
  let waiting := (w.hooks.filter fun h => !isDue h).map fun h =>
    if h.hears kind session then { h with seen := h.seen + 1 } else h
  (w.hooks.filter isDue, { w with hooks := waiting })

/-- Draws a number that was never drawn before. -/
def draw (w : HostState) : Nat × HostState :=
  (w.drawn, { w with drawn := w.drawn + 1 })

/-- The identifier of a number drawn: of the fourth version, which is drawn by chance. -/
def uuidOf (n : Nat) : Uuid :=
  .ofNat (0xc0110c0ffee04a1d8000000000000000 + n)

/-- Takes the next context that was prepared. -/
def nextContext (w : HostState) : Option Json × HostState :=
  match w.contexts with
  | none => (none, w)
  | some [] => (none, w.note (.contextAsked false))
  | some (c :: rest) => (c, { w with contexts := some rest }.note (.contextAsked true))

/-- Keeps a handle and gives its number. -/
def keepHandle (r : Registration) (w : HostState) : Nat × HostState :=
  (w.handles.length, { w with handles := w.handles ++ [r] })

/-- Keeps a pending response and gives its label. -/
def keepPending (p : Pending Backend) (w : HostState) : Nat × HostState :=
  (w.nextPending, { w with pendings := w.pendings ++ [(w.nextPending, p)], nextPending := w.nextPending + 1 })

/-- The pending response with a label. -/
def pending? (w : HostState) (label : Option Nat) : Option (Pending Backend) :=
  label.bind fun n => w.pendings.lookup n

/-- Takes out the pending response with a label. -/
def takePending (label : Option Nat) (w : HostState) : Option (Pending Backend) × HostState :=
  (w.pending? label, { w with pendings := w.pendings.filter fun p => some p.1 ≠ label })

/-- Listens to a session; says whether the host did so before. -/
def watch (key : SessionKey) (w : HostState) : Bool × HostState :=
  (w.watched.contains key, { w with watched := key :: w.watched.filter (· ≠ key) })

/-- No longer listens to a session; says whether the host did so before. -/
def unwatch (key : SessionKey) (w : HostState) : Bool × HostState :=
  (w.watched.contains key, { w with watched := w.watched.filter (· ≠ key) })

end HostState

/-! ## Descriptions -/

/-- The written form of a session label. -/
def SessionLabel.toText : SessionLabel → String
  | .null => "null"
  | .nth n => "s" ++ toString n
  | .unknown => "?"

/-- A session in words: sessions go by their labels, the null session by its identifier. -/
def describeSession (label : SessionLabel) (s : Session) : String :=
  "ChatSession \x7b id: SessionId(" ++ (if s.isNull then Uuid.nil.toText else label.toText) ++ "), is_null: "
    ++ toString s.isNull ++ ", active: " ++ toString s.isActive ++ " \x7d"

/-- A pending response in words. -/
def describePending (label : SessionLabel) (p : Pending Backend) : String :=
  "PendingResponse \x7b session: SessionId(" ++ label.toText ++ "), generation: " ++ toString p.generation
    ++ ", provider: " ++ Text.quoted p.provider.name ++ " \x7d"

/-- A handle in words. -/
def describeHandle (r : Registration) : String :=
  "AssistantRegistration \x7b registry: (Weak), id: " ++ Text.quoted r.id ++ ", token: " ++ toString r.token ++ " \x7d"

/-! ## The state between steps -/

/-- What the host can see of a session. -/
structure SessionView where
  isActive : Bool
  prompt : String
  title : String
  summary : Option String
  scrollTop : Binary64
  history : List Message
  deriving DecidableEq, Repr

/-- What the host can see of a session. -/
def SessionView.of (s : Session) : SessionView :=
  ⟨s.isActive, s.prompt, s.title, s.summary, s.scrollTop, s.history⟩

/-- What the host can see between two steps; of the service only while it is held. -/
structure Snapshot where
  current : Option SessionLabel
  sessions : List SessionView
  null : SessionView
  /-- The assistants on offer, by identifier and name. -/
  assistants : Option (List (String × String))
  deriving DecidableEq, Repr

/-- What the host can see now. -/
def HostState.snapshot (w : HostState) : Snapshot where
  current := w.current?
  sessions := w.service.directory.sessions.map SessionView.of
  null := .of w.service.directory.null
  assistants :=
    if w.holdsService then some (w.service.roster.entries.map fun e => (e.id, e.displayName)) else none

end Colloquy.Scenario
