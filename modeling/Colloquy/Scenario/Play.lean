import Colloquy.Scenario.HostState
import Colloquy.Service.Send

/-!
# Playing a scenario

A scenario is a list of steps of a host. Each step is taken to its end, with all that listeners and scripts do within
it, before the next one; what was answered, what was seen, and the state after it are recorded (`Scenario.play`).
Within a step, `again` takes the steps that it leads to.
-/

namespace Colloquy.Scenario

/-- What a host does. -/
abbrev Play := StateM HostState

/-- How steps are taken: with patience a step waits for what it needs, without it is suspended there. -/
abbrev Taker := (patient : Bool) → Step → Play Answer

/-! ## Listening -/

/-- Takes the steps of hooks that are due. -/
def runHooks (again : Taker) : List Hook → Play Unit
  | [] => pure ()
  | h :: rest => do
    let answer ← again true h.step
    modify (·.note (.hooked h.label answer))
    runHooks again rest

/-- Notes an event that hooks may wait for, and takes their steps. -/
def hear (again : Taker) (kind : EventKind) (session : Option SessionLabel) (event : Event) : Play Unit := do
  modify (·.note event)
  runHooks again (← modifyGet (·.countHooks kind session))

/-- Listens to an announcement of the service. New sessions are listened to at once. -/
def announce (again : Taker) : Announcement → Play Unit
  | .sessionCreated id => do
    let _ ← modifyGet (HostState.watch (.listed id))
    let w ← get
    let l := w.label (.listed id)
    hear again .create (some l) (.created l (w.session (.listed id)).prompt w.current?)
  | .sessionSelected key => do
    let w ← get
    let l := w.label key
    hear again .selectSession (some l) (.sessionSelected l (w.session key).prompt w.current?)
  | .registered name => do
    hear again .register none (.registered name (← get).count?)
  | .unregistered id => do
    hear again .unregister none (.unregistered id (← get).count?)
  | .assistantSelected id => hear again .select none (.assistantSelected id)
  | .session key notice => do
    let w ← get
    let s := w.session key
    let l := w.label key
    if w.watched.contains key then
      match notice with
      | .active value => hear again .active (some l) (.active l value s.isActive s.last?)
      | .response m =>
        hear again .response (some l) (.response l (s.history.findIdx? fun n => n.id = m.id) m s.isActive)
    else pure ()

/-- The host of the service. -/
def host (again : Taker) : Host Backend Play where
  state := do return (← get).service
  setState s := modify fun w => { w with service := s }
  announce := announce again
  newId := do return HostState.uuidOf (← modifyGet HostState.draw)
  newStamp := do return ⟨HostState.uuidOf (← modifyGet HostState.draw), default⟩
  context := modifyGet HostState.nextContext

/-! ## Answering -/

/-- What the acts of a built-in provider mean while a pending response is answered. One who is not patient does not
wait. -/
def stage (again : Taker) (network : HttpRequest → Reply) (patient : Bool) (p : Pending Backend) :
    Stage Play where
  isStopped := Service.isStopped (host again) p
  emit := Service.takeDelta (host again) p
  wait ms := do
    if ← Service.isStopped (host again) p then return .stopped
    else if patient ∨ ms = 0 then return .passed ()
    else return .unfinished
  exchange request := do
    if ← Service.isStopped (host again) p then return .stopped
    else if patient then return .passed (network request)
    else return .unfinished

/-- Follows a script. It goes no further than a step that is suspended. -/
def follow (again : Taker) (patient : Bool) (p : Pending Backend) : List Act → Play Outcome
  | [] => return .finished (.ok ())
  | .emit text :: rest => do
    Service.takeDelta (host again) p text
    follow again patient p rest
  | .check :: rest => do
    let stopped ← Service.isStopped (host again) p
    modify (·.note (.checked stopped))
    follow again patient p rest
  | .fail e :: _ => return .finished (.error e)
  | .breakDown :: _ => return .brokeDown
  | .pause :: _ => return .unfinished
  | .step label s :: rest => do
    match ← again patient s with
    | .suspended => return .unfinished
    | answer =>
      modify (·.note (.did label answer))
      follow again patient p rest

/-- Lets the provider of a pending response act. -/
def act (again : Taker) (network : HttpRequest → Reply) (patient : Bool) (p : Pending Backend) :
    Play Outcome :=
  match p.provider with
  | .builtIn provider => (provider.perform p.request).run (stage again network patient p)
  | .script name acts => do
    modify (·.note (.asked name p.request))
    follow again patient p acts

/-- Lets a pending response be answered. -/
def respond (again : Taker) (network : HttpRequest → Reply) (patient : Bool) (p : Pending Backend) :
    Play Answer := do
  match ← Service.respond (host again) (act again network patient) p with
  | .finished r => return .ofResult r
  | .brokeDown => return .providerBrokeDown
  | .unfinished => return .suspended

/-! ## Steps -/

/-- A step that keeps the service alive until it ends. -/
def keepingService {α : Type} (step : Play α) : Play α := do
  modify fun w => { w with underWay := w.underWay + 1 }
  let a ← step
  modify fun w => { w with underWay := w.underWay - 1 }
  return a

/-- A step on the service, while it is held. -/
def onService (step : Play Answer) : Play Answer := do
  if (← get).holdsService then keepingService step else return .gone

/-- A step on a session. -/
def onSession (l : SessionLabel) (step : SessionKey → Play Answer) : Play Answer := do
  match (← get).key? l with
  | none => return .noSession
  | some key => step key

/-- Changes a session. -/
def changeSession (l : SessionLabel) (f : Session → Session) : Play Answer :=
  onSession l fun key => do
    modify fun w => { w with service.directory := w.service.directory.change key f }
    return .ok

/-- Keeps what may have been started. -/
def keepStarted : Except Error (Pending Backend) → Play Answer
  | .error e => return .failed e
  | .ok p => do
    let n ← modifyGet (HostState.keepPending p)
    return .pending n ((← get).label (.listed p.session)) p.request

/-- Keeps handles. -/
def keepHandles : List Registration → Play (List (Nat × String))
  | [] => return []
  | r :: rest => do
    let n ← modifyGet (HostState.keepHandle r)
    return (n, r.id) :: (← keepHandles rest)

/-- Takes a pending response out and does something with it. -/
def withPending (label : Option Nat) (step : Pending Backend → Play Answer) : Play Answer := do
  match ← modifyGet (HostState.takePending label) with
  | none => return .gone
  | some p => step p

/-- A step that needs a handle; `missing` is the answer without it. -/
def withHandle (n : Nat) (missing : Answer) (step : Registration → Play Answer) : Play Answer := do
  match (← get).handles[n]? with
  | none => return missing
  | some r => step r

/-- Starts a response in a session, and goes on with what came of that. -/
def startIn (again : Taker) (l : SessionLabel) (choice : Choice) (context : Option Json)
    (next : Except Error (Pending Backend) → Play Answer) : Play Answer :=
  onSession l fun key =>
    let begin_ (provider : Option Backend) : Play Answer := do
      next (← Service.startResponse (host again) key provider context)
    match choice with
    | .nobody => begin_ none
    | .given backend => begin_ (some backend)
    | .selected => onService do begin_ (← Service.selectedProvider (host again))

/-- Takes a step. -/
def take (network : HttpRequest → Reply) (again : Taker) (patient : Bool) : Step → Play Answer
  | .setPrompt text => onService do
    Service.setPrompt (host again) text
    return .ok
  | .setPromptOf l text => changeSession l (·.setPrompt text)
  | .setTitle l text => changeSession l (·.setTitle text)
  | .setSummary l text => changeSession l (·.setSummary text)
  | .setScroll l position => changeSession l (·.setScrollTop position)
  | .takePrompt l => onSession l fun key => do return .text (← Service.takePrompt (host again) key)
  | .inspect l => onSession l fun key => do
    let s := (← get).session key
    return .inspection ⟨s.isNull, s.isActive, s.history.length, s.last?, describeSession l s⟩
  | .breakDown l => onSession l fun _ => return .readerBrokeDown
  | .cancel => onService do
    Service.cancel (host again)
    return .ok
  | .cancelSession l => onSession l fun key => do
    Service.cancelSession (host again) key
    return .ok
  | .watch l => onSession l fun key => do
    let _ ← modifyGet (HostState.watch key)
    return .ok
  | .unwatch l => do
    match (← get).key? l with
    | none => return .flag false
    | some key => return .flag (← modifyGet (HostState.unwatch key))
  | .hook kind nth session label step => do
    modify fun w => { w with hooks := w.hooks ++ [{ kind, nth, session, label, step }] }
    return .ok
  | .newSession => onService do
    let id ← Service.newSession (host again)
    return .created ((← get).label (.listed id))
  | .selectSession target => onService do
    match ← Service.selectSession (host again) ((← get).idOf target) with
    | .error e => return .failed e
    | .ok key => return .session ((← get).label key)
  | .getSession target => onService do
    let w ← get
    match ((w.idOf target).getD .nil) |> w.service.directory.get? with
    | none => return .absent
    | some s => return .session (w.label (.listed s.id))
  | .currentId => onService do
    let w ← get
    match w.service.directory.current with
    | none => return .absent
    | some id => return .session (w.label (.listed id))
  | .sessions => onService do
    let w ← get
    return .sessions (w.service.directory.sessions.map fun s => w.label (.listed s.id))
  | .register id name provider => onService do
    let r ← Service.register (host again) id name provider
    return .handle (← modifyGet (HostState.keepHandle r)) r.id
  | .deregister n => withHandle n .gone fun r => do
    if (← get).livesService then
      return .flag (← keepingService (Service.unregister (host again) r.id (some r.token)))
    else return .flag false
  | .cloneHandle n => withHandle n .gone fun r => do
    return .handle (← modifyGet (HostState.keepHandle r)) r.id
  | .describeHandle n => withHandle n .absent fun r => return .text (describeHandle r)
  | .unregister id => onService do return .flag (← Service.unregister (host again) id none)
  | .selectAssistant id => onService do return .ofResult (← Service.selectAssistant (host again) id)
  | .selected => onService do return ((← Service.selected (host again)).map .text).getD .absent
  | .selectedProvider => onService do
    return ((← Service.selectedProvider (host again)).map fun b => .text b.name).getD .absent
  | .provider id => onService do
    return (((← get).service.roster.provider? id).map fun b => .text b.name).getD .absent
  | .isEmpty => onService do return .flag ((← get).service.roster.count = 0)
  | .loadModels text => onService do
    match Settings.ofText text with
    | .error e => return .failed e
    | .ok settings =>
      match ← Service.loadModels (host again) .builtIn settings with
      | .error e => return .failed e
      | .ok registrations => return .handles (← keepHandles registrations)
  | .send => onService do keepStarted (← Service.send (host again))
  | .start l choice context => startIn again l choice context keepStarted
  | .run label => onService do withPending label (respond again network patient)
  | .submit => onService do
    match ← Service.send (host again) with
    | .error e => return .failed e
    | .ok p => respond again network patient p
  | .provide l choice context => onService do startIn again l choice context fun
    | .error e => return .failed e
    | .ok p => respond again network patient p
  | .abandon label => withPending label fun p => do
    match ← respond again network false p with
    | .suspended => return .abandoned
    | answer => return answer
  | .dropPending label => do
    match ← modifyGet (HostState.takePending label) with
    | none => return .flag false
    | some p =>
      Service.settle (host again) p none
      return .flag true
  | .stopPending label => do
    match (← get).pending? label with
    | none => return .gone
    | some p =>
      Service.stop (host again) p
      return .ok
  | .describePending label => do
    let w ← get
    match w.pending? label with
    | none => return .absent
    | some p => return .text (describePending (w.label (.listed p.session)) p)
  | .dropService => modifyGet fun w => (.flag w.holdsService, { w with holdsService := false })

/-- Takes a step with at most `depth` steps inside one another. -/
def perform (network : HttpRequest → Reply) : (depth : Nat) → Taker
  | 0, _, _ => return .tooDeep
  | depth + 1, patient, step => take network (perform network depth) patient step

/-- The number of steps that may lie inside one another. -/
def depthLimit : Nat := 1000

/-! ## Records -/

/-- What came of a step: the answer, what was seen, and the state after it if that is another than before. -/
structure Record where
  answer : Answer
  events : List Event
  change : Option Snapshot
  deriving DecidableEq, Repr

/-- Takes steps one after the other. -/
def playFrom (network : HttpRequest → Reply) : List Step → Option Snapshot → HostState → List Record
  | [], _, _ => []
  | step :: rest, before, w =>
    let (answer, w) := (perform network depthLimit true step).run { w with events := [] }
    let now := some w.snapshot
    ⟨answer, w.events.reverse, if now = before then none else now⟩ :: playFrom network rest now w

/-- Plays a scenario with a new service, which asks for a context with each request if any are prepared. -/
def play (network : HttpRequest → Reply) (contexts : Option (List (Option Json))) (steps : List Step) : List Record :=
  playFrom network steps none { contexts }

end Colloquy.Scenario
