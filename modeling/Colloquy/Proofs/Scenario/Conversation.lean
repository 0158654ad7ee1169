import Colloquy.Proofs.Scenario.Order
import Colloquy.Proofs.Scenario.Quiet

/-!
# Conversations with an echo

Of an assistant that says the prompt again it can be told what a whole conversation comes to: each prompt comes back after what is said
of its context, stays in the history, and is shown as it grows (`echo_conversation`).
-/

namespace Colloquy

/-! ## What an echo says -/

namespace Echo

/-- What an echo answers to a prompt: the prompt, after an announcement of the context if there is one. -/
def answer (context : Option Json) (prompt : String) : String :=
  context.elim "" (fun c => "Context: " ++ c.compact ++ ".") ++ prompt

/-- What is shown of an answer: nothing yet, what is said of the context, the answer to each beginning of the prompt that is longer by
one character, and the whole once more. -/
def stages (context : Option Json) (prompt : String) : List String :=
  "" :: context.toList.map (fun c => "Context: " ++ c.compact ++ ".") ++
    (List.range prompt.length).map (fun n => answer context (.ofList (prompt.toList.take (n + 1)))) ++ [answer context prompt]

/-- What is said in a conversation, and by whom: every prompt and its answer, without an error. -/
def conversation (context : Nat → Option Json) (prompts : List String) : List (Role × String × Option String) :=
  (prompts.mapIdx fun i p => [(.user, p, none), (.assistant, answer (context i) p, none)]).flatten

theorem conversation_cons (context : Nat → Option Json) (p : String) (rest : List String) :
    conversation context (p :: rest) = (.user, p, none) :: (.assistant, answer (context 0) p, none) ::
      conversation (fun i => context (i + 1)) rest := by
  rw [conversation, List.mapIdx_cons, List.flatten_cons]
  rfl

theorem texts_speak (delayMs : Nat) (text : List Char) (network : HttpRequest → Reply) :
    (speak delayMs text).texts network = text.map String.singleton := by
  induction text with
  | nil => rfl
  | cons c rest ih => exact congrArg (List.cons _) ih

theorem result_speak (delayMs : Nat) (text : List Char) (network : HttpRequest → Reply) :
    (speak delayMs text).result network = .finished (.ok ()) := by
  induction text with
  | nil => rfl
  | cons c rest ih => exact ih

theorem texts_perform (delayMs : Nat) (request : ChatRequest) (network : HttpRequest → Reply) :
    (perform delayMs request).texts network = request.context.toList.map preamble ++ request.prompt.toList.map String.singleton := by
  rw [perform]
  cases request.context with
  | none => exact texts_speak _ _ network
  | some c => exact congrArg (List.cons _) (texts_speak _ _ network)

theorem result_perform (delayMs : Nat) (request : ChatRequest) (network : HttpRequest → Reply) :
    (perform delayMs request).result network = .finished (.ok ()) := by
  rw [perform]
  cases request.context <;> exact result_speak _ _ network

end Echo

namespace Scenario

theorem join_singleton (text : List Char) : String.join (text.map String.singleton) = .ofList text := by
  induction text with
  | nil => rfl
  | cons c rest ih => rw [List.map_cons, String.join_cons, ih, String.ofList_cons]

/-- What an echo says comes to its answer. -/
theorem join_texts_echo (delayMs : Nat) (request : ChatRequest) (network : HttpRequest → Reply) :
    String.join ((Echo.perform delayMs request).texts network) = Echo.answer request.context request.prompt := by
  rw [Echo.texts_perform, String.join_append, join_singleton, String.ofList_toList, Echo.answer]
  cases request.context with
  | none => rfl
  | some c =>
    rw [Option.toList_some, List.map_singleton, String.join_cons, String.join_nil, String.append_empty]
    rfl

/-- The message of an echo is shown in stages. -/
theorem growth_texts_echo (delayMs : Nat) (request : ChatRequest) (network : HttpRequest → Reply) :
    "" :: growth "" ((Echo.perform delayMs request).texts network) ++
        ["" ++ String.join ((Echo.perform delayMs request).texts network)] =
      Echo.stages request.context request.prompt := by
  rw [join_texts_echo, Echo.texts_perform, growth_append, growth_singleton, String.empty_append, String.empty_append, Echo.stages]
  cases request.context with
  | none => rfl
  | some c => rfl

end Scenario

/-! ## A prompt and its answer -/

/-- A session once its draft has been answered. -/
def Session.answered (s : Session) (user assistant : Stamp) (content : String) : Session :=
  { s with
    history := s.history ++ [.new user .user s.prompt, .new assistant .assistant content]
    prompt := ""
    generation := s.generation + 1 }

/-- A response that began in an idle session, said something and ended. -/
theorem Session.answered_eq {s : Session} (ha : s.isActive = false) (user assistant : Stamp) (content : String) :
    { (s.begun user assistant).saying content with isActive := false } = s.answered user assistant content := by
  have hlast : (s.begun user assistant).last? = some (.new assistant .assistant "") := by simp [begun, last?]
  rw [saying, ← amendLast_eq_withLast, amendLast, hlast]
  simp [begun, answered, ha, Message.new]

namespace Scenario

/-- The context that is given for a request when some others have been made. -/
def HostState.contextAt (w : HostState) (n : Nat) : Option Json :=
  (w.contexts.bind (·[n]?)).join

theorem contextAt_succ {w v : HostState} (h : v.contexts = w.contexts.map List.tail) (n : Nat) :
    v.contextAt n = w.contextAt (n + 1) := by
  rw [HostState.contextAt, h, HostState.contextAt, Option.bind_map]
  simp only [Function.comp_def, List.getElem?_tail]

/-- A host that can send at any time, and is answered by an echo: no listener is set to take a step. -/
structure HostState.HasEcho (w : HostState) (delayMs : Nat) : Prop where
  quiet : w.hooks = []
  held : w.holdsService = true
  echo : w.service.roster.selectedProvider? = some (.builtIn (.echo delayMs))

/-- A session is the current one, and idle. -/
structure HostState.Awaits (w : HostState) (s : Session) : Prop where
  current : w.service.directory.current = some s.id
  here : w.service.directory.get? s.id = some s
  isNull : s.isNull = false
  isActive : s.isActive = false
  stopped : ∀ g ∈ s.stopped, g ≤ s.generation

/-- Where a draft goes when it is sent, and after what: to the current session, which is idle, or to one to be made. -/
inductive HostState.Addresses (w : HostState) : Uuid → List Message → String → Prop where
  | current {s : Session} (hs : w.Awaits s) : w.Addresses s.id s.history s.prompt
  | new (hkey : w.service.directory.currentKey = .null) (hfresh : w.service.directory.get? (uuidOf w.drawn) = none) :
    w.Addresses (uuidOf w.drawn) [] w.service.directory.null.prompt

/-- Whether what is told of the session that a draft goes to is heard; of one that is to be made it will be. -/
def HostState.Hears (w : HostState) (id : Uuid) : Prop :=
  w.service.directory.currentKey = .null ∨ w.watched.contains (.listed id) = true

variable {w : HostState} {delayMs : Nat} {id : Uuid} {history : List Message} {draft : String}

theorem HostState.Awaits.currentKey {s : Session} (hs : w.Awaits s) : w.service.directory.currentKey = .listed s.id :=
  (Directory.currentSession_of_get? hs.current hs.here).1

theorem HostState.Awaits.watched {s : Session} (hs : w.Awaits s) (h : w.Hears s.id) : w.watched.contains (.listed s.id) = true := by
  refine h.resolve_left ?_
  rw [hs.currentKey]
  exact nofun

/-- Nothing else counts for where a draft goes but the sessions, and which identifier is drawn next. -/
theorem HostState.Addresses.of_eq {v : HostState} (hw : w.Addresses id history draft)
    (hd : v.service.directory = w.service.directory) (hn : v.drawn = w.drawn) : v.Addresses id history draft := by
  cases hw with
  | current hs => exact .current ⟨hd ▸ hs.current, hd ▸ hs.here, hs.isNull, hs.isActive, hs.stopped⟩
  | new hkey hfresh =>
    have hnew : v.Addresses _ [] _ := .new (hd ▸ hkey) (by rw [hd, hn]; exact hfresh)
    rwa [hd, hn] at hnew

theorem nextContext_eq (w : HostState) :
    ∃ events, w.nextContext = (w.contextAt 0, { w with contexts := w.contexts.map List.tail, events }) ∧
      shownBy events = shownBy w.events := by
  have hasked (events : List Event) (found : Bool) : shownBy (.contextAsked found :: events) = shownBy events :=
    (shownBy_cons _ events).trans (List.append_nil _)
  obtain ⟨service, holdsService, underWay, contexts⟩ := w
  cases contexts with
  | none => exact ⟨_, rfl, rfl⟩
  | some contexts => cases contexts <;> exact ⟨_, rfl, hasked _ _⟩

/-- The draft is written. -/
theorem exists_run_setPrompt (h : w.HasEcho delayMs) (hw : w.Addresses id history draft) (network : HttpRequest → Reply)
    (text : String) :
    ∃ v, (perform network depthLimit true (.setPrompt text)).run w = (.ok, v) ∧ v.HasEcho delayMs ∧ v.Addresses id history text ∧
      v.contexts = w.contexts ∧ (w.Hears id → v.Hears id) := by
  let v : HostState := { w with
    service := { w.service with directory := w.service.directory.change w.service.directory.currentKey (·.setPrompt text) }
    underWay := w.underWay + 1 - 1 }
  have hrun : (perform network depthLimit true (.setPrompt text)).run w = (.ok, v) := run_onService h.held
  refine ⟨v, hrun, ⟨h.quiet, h.held, h.echo⟩, ?_⟩
  cases hw with
  | @current s hs =>
    have hkept : w.service.directory.session? (.listed s.id) = some s := hs.here
    have hchange : v.service.directory = w.service.directory.put (.listed s.id) (s.setPrompt text) := by
      rw [← Directory.change_of_some hkept (·.setPrompt text), ← hs.currentKey]
    have hawaits : v.Awaits (s.setPrompt text) := {
      current := hs.current.symm ▸ hchange ▸ rfl
      here := hchange ▸ get?_place (w := w) (s := s.setPrompt text) hs.here
      isNull := hs.isNull
      isActive := hs.isActive
      stopped := hs.stopped }
    exact ⟨.current hawaits, rfl, fun hhears => .inr (hs.watched hhears)⟩
  | new hkey hfresh =>
    have hchange : v.service.directory = { w.service.directory with null := w.service.directory.null.setPrompt text } := by
      have hnull : v.service.directory = w.service.directory.change .null (·.setPrompt text) := by rw [← hkey]
      exact hnull
    have hkey' : v.service.directory.currentKey = .null := hchange ▸ hkey
    have haddresses := HostState.Addresses.new hkey' (hchange ▸ hfresh)
    rw [hchange] at haddresses
    exact ⟨haddresses, rfl, fun _ => .inl hkey'⟩

/-- Of the session that a draft goes to it is certain, once it was needed, that it is there. -/
theorem exists_run_ensureSession (again : Taker) (h : w.HasEcho delayMs) (hw : w.Addresses id history draft) :
    ∃ s v, (Service.ensureSession (host again)).run w = (.ok (.listed id), v) ∧ v.HasEcho delayMs ∧ v.Awaits s ∧
      s.id = id ∧ s.history = history ∧ s.prompt = draft ∧ v.contexts = w.contexts ∧ shownBy v.events = shownBy w.events ∧
      (w.Hears id → v.watched.contains (.listed id) = true) := by
  cases hw with
  | @current s hs =>
    have hrun := Service.run_ensureSession_of_current (host_isSeen again) (w := w) hs.currentKey
    exact ⟨s, w, hrun, h, hs, rfl, rfl, rfl, rfl, rfl, hs.watched⟩
  | new hkey hfresh =>
    obtain ⟨drawn, events, hrun, hshown⟩ := exists_run_ensureSession_of_quiet again h.quiet rfl hkey hfresh
    refine ⟨(Session.new _).setPrompt w.service.directory.null.prompt, _, hrun, ⟨h.quiet, h.held, h.echo⟩, ?_, rfl, rfl, rfl,
      rfl, hshown, fun _ => by simp⟩
    exact ⟨rfl, Directory.get?_concat hfresh rfl, rfl, rfl, fun _ hg => absurd hg List.not_mem_nil⟩

/-- An echo that is asked in an idle session answers to the end. -/
theorem exists_run_respond_echo (again : Taker) (network : HttpRequest → Reply) (hq : w.hooks = []) {s : Session} (hs : w.Awaits s)
    (delayMs : Nat) (context : Option Json) :
    let answer := Echo.answer context s.prompt
    ∃ p u v user assistant,
      (Service.startResponse (host again) (.listed s.id) (some (.builtIn (.echo delayMs))) context).run w = (.ok p, u) ∧
      (respond again network true p).run u = (.ok, v) ∧
      (∃ drawn events, v = { HostState.place { w with drawn } (s.answered user assistant answer) with events }) ∧
      shownBy v.events = shownBy w.events ++ w.shows (.listed s.id) (Echo.stages context s.prompt) := by
  intro answer
  obtain ⟨user, assistant, events, hstart, hshown⟩ :=
    exists_run_startResponse_of_quiet again hq hs.here hs.isNull hs.isActive (.builtIn (.echo delayMs)) context
  have howns : (s.begun user assistant).owns (s.generation + 1) = true := by simp [Session.begun, Session.owns]
  have hgoes : (s.begun user assistant).isStopped (s.generation + 1) = false := by
    refine Bool.eq_false_iff.mpr fun hstopped => ?_
    exact absurd (hs.stopped _ (List.contains_iff_mem.mp hstopped)) (Nat.not_succ_le_self _)
  have hlast : (s.begun user assistant).last? = some (.new assistant .assistant "") := by simp [Session.begun, Session.last?]
  obtain ⟨events', hrespond, hshown'⟩ := exists_run_respond_of_quiet again (b := { w with drawn := w.drawn + 2 })
    (s := s.begun user assistant) (p := ⟨s.id, s.generation + 1, .builtIn (.echo delayMs), s.request context⟩) hq hs.here rfl howns
    hgoes hlast rfl (Echo.result_perform delayMs _ network) events
  rw [Provider.perform, join_texts_echo, Session.answered_eq hs.isActive] at hrespond
  rw [Provider.perform] at hshown'
  refine ⟨_, _, _, user, assistant, hstart, hrespond, ⟨_, _, rfl⟩, ?_⟩
  have hstages : _ = Echo.stages context s.prompt := growth_texts_echo delayMs (s.request context) network
  rw [hshown', hshown, List.append_assoc, ← hstages]
  exact congrArg (shownBy w.events ++ ·) (shows_append w (.listed s.id) [""] _).symm

/-- A draft that is sent goes to the session that it should go to, once the selection was healed and a context asked for. -/
theorem exists_run_send (again : Taker) (h : w.HasEcho delayMs) (hw : w.Addresses id history draft) :
    ∃ s v, (Service.send (host again)).run w =
        (Service.startResponse (host again) (.listed s.id) (some (.builtIn (.echo delayMs))) (w.contextAt 0)).run v ∧
      v.HasEcho delayMs ∧ v.Awaits s ∧ s.id = id ∧ s.history = history ∧ s.prompt = draft ∧
      v.contexts = w.contexts.map List.tail ∧ shownBy v.events = shownBy w.events ∧
      (w.Hears id → v.watched.contains (.listed id) = true) := by
  let healed : HostState := { w with service := { w.service with roster := w.service.roster.heal } }
  have hselected : ((Service.selected (host again)).run w).2 = healed := Service.run_selected (host_isSeen again) w
  have hhealed : healed.HasEcho delayMs := ⟨h.quiet, h.held, w.service.roster.selectedProvider?_heal.trans h.echo⟩
  obtain ⟨s, u, hensure, hu, hs, hid, hhistory, hdraft, hcontexts, hshown, hwatched⟩ :=
    exists_run_ensureSession again hhealed (hw.of_eq rfl rfl)
  obtain ⟨events, hasked, hshown'⟩ := nextContext_eq u
  have hcontext : u.contextAt 0 = w.contextAt 0 := by rw [HostState.contextAt, hcontexts, HostState.contextAt]
  refine ⟨s, { u with contexts := u.contexts.map List.tail, events }, ?_, ⟨hu.quiet, hu.held, hu.echo⟩,
    ⟨hs.current, hs.here, hs.isNull, hs.isActive, hs.stopped⟩, hid, hhistory, hdraft,
    congrArg (Option.map List.tail) hcontexts, hshown'.trans hshown, hwatched⟩
  have hcalled : (host again).context.run u = u.nextContext := rfl
  rw [Service.run_send_of_provider (host_isSeen again) h.echo (hselected ▸ hid ▸ hensure), hcalled, hasked, hcontext]

/-- A draft that is sent to an echo is answered to the end. -/
theorem exists_run_submit (h : w.HasEcho delayMs) (hw : w.Addresses id history draft) (network : HttpRequest → Reply) :
    ∃ s v user assistant, (perform network depthLimit true .submit).run w = (.ok, v) ∧ v.HasEcho delayMs ∧ v.Awaits s ∧
      s.id = id ∧ s.prompt = "" ∧
      s.history = history ++ [.new user .user draft, .new assistant .assistant (Echo.answer (w.contextAt 0) draft)] ∧
      v.contexts = w.contexts.map List.tail ∧
      (w.Hears id → v.watched.contains (.listed id) = true ∧ shownBy v.events =
        shownBy w.events ++ (Echo.stages (w.contextAt 0) draft).map (Prod.mk (v.label (.listed id)))) := by
  let again := perform network 999
  let kept : HostState := { w with underWay := w.underWay + 1 }
  obtain ⟨s, u, hsend, hu, hs, rfl, rfl, rfl, hcontexts, hshown, hwatched⟩ :=
    exists_run_send again (w := kept) ⟨h.quiet, h.held, h.echo⟩ (hw.of_eq rfl rfl)
  obtain ⟨p, started, v, user, assistant, hstart, hrespond, ⟨drawn, events, hv⟩, hstages⟩ :=
    exists_run_respond_echo again network hu.quiet hs delayMs (w.contextAt 0)
  have hsubmit : (perform network depthLimit true .submit).run w = (.ok, { v with underWay := v.underWay - 1 }) := by
    refine (run_onService h.held).trans ?_
    rw [Service.run_bind_of_run (hsend.trans hstart), hrespond]
  let t := s.answered user assistant (Echo.answer (w.contextAt 0) s.prompt)
  have hhere := get?_place (w := { u with drawn }) (s := t) hs.here
  have hlabel : HostState.label (HostState.place { u with drawn } t) (.listed s.id) = u.label (.listed s.id) := label_place _ t _
  subst hv
  refine ⟨t, _, user, assistant, hsubmit, ⟨hu.quiet, hu.held, hu.echo⟩,
    ⟨hs.current, hhere, hs.isNull, hs.isActive, fun g hg => Nat.le_succ_of_le (hs.stopped g hg)⟩, rfl, rfl, rfl, hcontexts,
    fun hhears => ⟨hwatched hhears, ?_⟩⟩
  rw [HostState.shows, if_pos (hwatched hhears), ← hlabel, hshown] at hstages
  exact hstages

/-! ## A conversation -/

/-- The steps that send some prompts, one after the other. -/
def sending (prompts : List String) : List Step :=
  prompts.flatMap fun p => [.setPrompt p, .submit]

/-- What is left of a conversation in a session with some history before: the session is the current one, idle and without a draft, and
its history goes on with what was said. -/
structure HostState.HasHeld (w : HostState) (id : Uuid) (history : List Message) (said : List (Role × String × Option String)) :
    Prop where
  current : w.service.directory.currentKey = .listed id
  isNull : w.service.directory.currentSession.isNull = false
  isActive : w.service.directory.currentSession.isActive = false
  prompt : w.service.directory.currentSession.prompt = ""
  history : ∃ more, w.service.directory.currentSession.history = history ++ more ∧
    more.map (fun m => (m.role, m.content, m.error)) = said

theorem HostState.HasHeld.after {w : HostState} {id : Uuid} {before more : List Message}
    {earlier said : List (Role × String × Option String)} (h : w.HasHeld id (before ++ more) said)
    (hmore : more.map (fun m => (m.role, m.content, m.error)) = earlier) : w.HasHeld id before (earlier ++ said) := by
  obtain ⟨rest, hrest, hsaid⟩ := h.history
  refine ⟨h.current, h.isNull, h.isActive, h.prompt, more ++ rest, ?_, ?_⟩
  · rw [hrest, List.append_assoc]
  · rw [List.map_append, hmore, hsaid]

theorem HostState.Awaits.hasHeld {w : HostState} {s : Session} (h : w.Awaits s) (hprompt : s.prompt = "") :
    w.HasHeld s.id s.history [] := by
  obtain ⟨hkey, hcurrent⟩ := Directory.currentSession_of_get? h.current h.here
  refine ⟨hkey, ?_, ?_, ?_, [], ?_, rfl⟩
  · rw [hcurrent, h.isNull]
  · rw [hcurrent, h.isActive]
  · rw [hcurrent, hprompt]
  · rw [hcurrent, List.append_nil]

theorem exists_playFrom_cons {network : HttpRequest → Reply} {step : Step} {answer : Answer} {v : HostState}
    (h : (perform network depthLimit true step).run { w with events := [] } = (answer, v)) (rest : List Step)
    (seen : Option Snapshot) :
    ∃ change, playFrom network (step :: rest) seen w =
      ⟨answer, v.events.reverse, change⟩ :: playFrom network rest (some v.snapshot) v := by
  rw [playFrom, h]
  exact ⟨_, rfl⟩

/-- A prompt is written and sent, and answered: the session awaits the next one then. -/
theorem exists_exchange (h : w.HasEcho delayMs) (hw : w.Addresses id history draft) (network : HttpRequest → Reply) (p : String) :
    ∃ v u s user assistant, (perform network depthLimit true (.setPrompt p)).run { w with events := [] } = (.ok, v) ∧
      (perform network depthLimit true .submit).run { v with events := [] } = (.ok, u) ∧ u.HasEcho delayMs ∧ u.Awaits s ∧
      s.id = id ∧ s.prompt = "" ∧
      s.history = history ++ [.new user .user p, .new assistant .assistant (Echo.answer (w.contextAt 0) p)] ∧
      (∀ n, u.contextAt n = w.contextAt (n + 1)) ∧
      (w.Hears id → u.Hears id ∧ shownBy u.events = (Echo.stages (w.contextAt 0) p).map (Prod.mk (u.label (.listed id)))) := by
  obtain ⟨v, hset, hv, hdrafted, hcontexts, hhears⟩ := exists_run_setPrompt (w := { w with events := [] })
    ⟨h.quiet, h.held, h.echo⟩ (hw.of_eq rfl rfl) network p
  obtain ⟨s, u, user, assistant, hsubmit, hu, hs, hid, hprompt, hhistory, hcontexts', hheard⟩ :=
    exists_run_submit (w := { v with events := [] }) ⟨hv.quiet, hv.held, hv.echo⟩ (hdrafted.of_eq rfl rfl) network
  have hcontext : HostState.contextAt { v with events := [] } 0 = w.contextAt 0 := by
    rw [HostState.contextAt, hcontexts, HostState.contextAt]
  rw [hcontext] at hhistory hheard
  refine ⟨v, u, s, user, assistant, hset, hsubmit, hu, hs, hid, hprompt, hhistory, ?_, fun hw => ?_⟩
  · exact contextAt_succ (hcontexts'.trans (congrArg (Option.map List.tail) hcontexts))
  · obtain ⟨hwatched, hshown⟩ := hheard (hhears hw)
    exact ⟨.inr hwatched, hshown⟩

/-- One prompt after the other is answered, and shown as it is. -/
theorem sending_hasHeld (h : w.HasEcho delayMs) (hw : w.Addresses id history draft) (network : HttpRequest → Reply)
    (seen : Option Snapshot) (prompts : List String) :
    (∀ r ∈ playFrom network (sending prompts) seen w, r.answer = .ok) ∧
      ∀ i p, prompts[i]? = some p →
        let after := leave network (sending (prompts.take (i + 1))) w
        after.HasHeld id history (Echo.conversation w.contextAt (prompts.take (i + 1))) ∧
        ∃ r, (playFrom network (sending prompts) seen w)[2 * i + 1]? = some r ∧ (w.Hears id →
          r.events.filterMap Event.shown? = (Echo.stages (w.contextAt i) p).map (Prod.mk (after.label (.listed id)))) := by
  induction prompts generalizing w history draft seen with
  | nil => exact ⟨fun r hr => absurd hr List.not_mem_nil, fun i p hp => by cases hp⟩
  | cons p rest ih =>
    obtain ⟨v, u, s, user, assistant, hset, hsubmit, hu, hs, rfl, hprompt, hhistory, hlater, hheard⟩ :=
      exists_exchange h hw network p
    obtain ⟨hanswers, hrest⟩ := ih hu (.current hs) (some u.snapshot)
    have hleave (prompts : List String) : leave network (sending (p :: prompts)) w = leave network (sending prompts) u := by
      rw [leave, sending, List.flatMap_cons, List.cons_append, List.cons_append, List.foldl_cons, List.foldl_cons, hset, hsubmit]
      rfl
    obtain ⟨change, hfirst⟩ := exists_playFrom_cons hset (.submit :: sending rest) seen
    obtain ⟨change', hsecond⟩ := exists_playFrom_cons hsubmit (sending rest) (some v.snapshot)
    have hrecords : playFrom network (sending (p :: rest)) seen w = ⟨.ok, v.events.reverse, change⟩ ::
        ⟨.ok, u.events.reverse, change'⟩ :: playFrom network (sending rest) (some u.snapshot) u := hsecond ▸ hfirst
    rw [hrecords]
    refine ⟨fun r hr => ?_, fun i q hq => ?_⟩
    · rcases List.mem_cons.mp hr with rfl | hr
      · rfl
      · rcases List.mem_cons.mp hr with rfl | hr
        · rfl
        · exact hanswers r hr
    · rw [List.take_succ_cons, hleave, Echo.conversation_cons]
      cases i with
      | zero =>
        obtain rfl : p = q := Option.some.inj hq
        have hheld := hs.hasHeld hprompt
        rw [hhistory] at hheld
        exact ⟨hheld.after rfl, _, rfl, fun hw => (hheard hw).2⟩
      | succ i =>
        obtain ⟨hheld, r, hr, hshown⟩ := hrest i q hq
        rw [hhistory, funext hlater] at hheld
        rw [hlater] at hshown
        exact ⟨hheld.after rfl, r, hr, fun hw => hshown (hheard hw).1⟩

end Scenario

open Scenario

/-- The session that the draft of a host goes to: the current one, or one to be made. -/
def Scenario.HostState.addressee (w : HostState) : Uuid :=
  match w.service.directory.currentKey with
  | .null => uuidOf w.drawn
  | .listed id => id

/-- In an orderly host a draft goes somewhere, if it can go anywhere. -/
theorem Scenario.HostState.IsOrderly.exists_addresses {w : HostState} (hw : w.IsOrderly)
    (hlisted : ∀ id s, w.service.directory.get? id = some s → s.isNull = false)
    (hidle : w.service.directory.currentSession.isActive = false)
    (hfresh : w.service.directory.currentKey = .null → w.service.directory.get? (HostState.uuidOf w.drawn) = none) :
    ∃ draft, w.Addresses w.addressee w.service.directory.currentSession.history draft := by
  have hcurrent := w.service.directory.session?_currentKey
  rw [HostState.addressee]
  cases hkey : w.service.directory.currentKey with
  | null =>
    rw [hkey] at hcurrent
    rw [← Option.some.inj hcurrent, hw.null.isBlank.history]
    exact ⟨_, .new hkey (hfresh hkey)⟩
  | listed id =>
    rw [hkey, Directory.session?_listed] at hcurrent
    obtain rfl := Directory.id_of_get? hcurrent
    exact ⟨_, .current ⟨Directory.current_of_currentKey hkey, hcurrent, hlisted _ _ hcurrent, hidle,
      hw.stopped _ (Directory.mem_of_get? hcurrent)⟩⟩

/-- A conversation with an echo, for every state that a host may have got into in which no listener is set to take a step, the service
is held, an echo is selected, the current session is idle, and, where that is the null session, the identifier to be drawn for a new
one is not in use. Whatever prompts are sent, one after the other, every step succeeds; and after each of them
1. the session that the first one went to is the current one, idle and without a draft, and its history from before the conversation
   goes on with each prompt so far and what the echo answers to it, as messages of the user and of the assistant without errors; the
   contexts are those that were given, in their order (`Echo.conversation`);
2. the message of the assistant was shown in its stages (`Echo.stages`) and no other one was, unless the session was there before and
   is not listened to. -/
theorem echo_conversation (network' network : HttpRequest → Reply) (contexts : Option (List (Option Json))) (before : List Step)
    (delayMs : Nat) (seen : Option Snapshot) (prompts : List String) :
    let w := leave network' before { contexts }
    w.HasEcho delayMs → w.service.directory.currentSession.isActive = false →
    (w.service.directory.currentKey = .null → w.service.directory.get? (HostState.uuidOf w.drawn) = none) →
    let records := playFrom network (sending prompts) seen w
    (∀ r ∈ records, r.answer = .ok) ∧
      ∀ i p, prompts[i]? = some p →
        let after := leave network (sending (prompts.take (i + 1))) w
        after.HasHeld w.addressee w.service.directory.currentSession.history
          (Echo.conversation w.contextAt (prompts.take (i + 1))) ∧
        ∃ r, records[2 * i + 1]? = some r ∧ (w.Hears w.addressee → r.events.filterMap Event.shown? =
          (Echo.stages (w.contextAt i) p).map (Prod.mk (after.label (.listed w.addressee)))) := by
  intro w h hidle hfresh
  obtain ⟨d, hd, hservice, -⟩ := exists_docket_leave network' contexts before
  have hlisted (id : Uuid) (s : Session) (hs : w.service.directory.get? id = some s) : s.isNull = false :=
    hd.isRecord.isNull (hservice ▸ hs)
  obtain ⟨draft, hdraft⟩ := (isOrderly_leave network' contexts before).exists_addresses hlisted hidle hfresh
  exact sending_hasHeld h hdraft network seen prompts

/-- A host with an echo and no session yet. Something is known about its first request. -/
@[irreducible] def unheardOf : HostState :=
  leave (fun _ => .unreachable) [.register "echo" "Echo" (.builtIn (.echo 40))] { contexts := some [some .null] }

/-- Two prompts are sent, of which the second is empty. A new session holds the conversation, and the first answer grows. -/
theorem echo_converses_in_new_session :
    let after := leave (fun _ => .unreachable) (sending ["né", ""]) unheardOf
    after.service.directory.currentSession.isActive = false ∧
      after.service.directory.currentSession.history.map Message.content = ["né", "Context: null.né", "", ""] ∧
      ∃ r, (playFrom (fun _ => .unreachable) (sending ["né", ""]) none unheardOf)[1]? = some r ∧ r.answer = .ok ∧
        (r.events.filterMap Event.shown?).map Prod.snd =
          ["", "Context: null.", "Context: null.n", "Context: null.né", "Context: null.né"] := by
  have hquiet : unheardOf.hooks.isEmpty = true := by decide +kernel
  have hheld : unheardOf.holdsService = true := by decide +kernel
  have hecho : unheardOf.service.roster.selectedProvider? = some (.builtIn (.echo 40)) := by
    unfold unheardOf
    rfl
  have hkey : unheardOf.service.directory.currentKey = .null := by decide +kernel
  have hidle : unheardOf.service.directory.currentSession.isActive = false := by decide +kernel
  have hnone : unheardOf.service.directory.currentSession.history = [] := by decide +kernel
  have hfresh : unheardOf.service.directory.get? (HostState.uuidOf unheardOf.drawn) = none := by decide +kernel
  have hcontexts : unheardOf.contexts = some [some .null] := by decide +kernel
  have hstages : Echo.stages (some .null) "né" =
      ["", "Context: null.", "Context: null.n", "Context: null.né", "Context: null.né"] := by decide +kernel
  have hsaid : (Echo.conversation (fun n => ([some .null][n]? : Option (Option Json)).join) ["né", ""]).map (·.2.1) =
      ["né", "Context: null.né", "", ""] := by decide +kernel
  have htalk := echo_conversation (fun _ => .unreachable) (fun _ => .unreachable) (some [some .null])
    [.register "echo" "Echo" (.builtIn (.echo 40))] 40 none ["né", ""]
  rw [← unheardOf] at htalk
  obtain ⟨hok, htalk⟩ := htalk ⟨List.isEmpty_iff.mp hquiet, hheld, hecho⟩ hidle fun _ => hfresh
  have hcontext : unheardOf.contextAt = fun n => ([some .null][n]? : Option (Option Json)).join := by
    funext n
    rw [HostState.contextAt, hcontexts]
    rfl
  rw [hcontext, hnone] at htalk
  obtain ⟨-, r, hr, hshown⟩ := htalk 0 "né" rfl
  obtain ⟨hend, -⟩ := htalk 1 "" rfl
  obtain ⟨more, hhistory, hmore⟩ := hend.history
  refine ⟨hend.isActive, ?_, r, hr, hok r (List.mem_of_getElem? hr), ?_⟩
  · rw [List.take_of_length_le (by decide)] at hhistory hmore
    rw [hhistory, List.nil_append, ← hsaid, ← hmore, List.map_map]
    rfl
  · rw [hshown (.inl hkey), List.map_map]
    exact (List.map_id _).trans hstages

end Colloquy
