import Colloquy.Proofs.Scenario.Drafts
import Colloquy.Proofs.Scenario.Interrupted
import Colloquy.Proofs.Session.Notices

/-!
# What a quiet host shows

While no listener of a host is set to take a step, what is told of a session changes nothing but what was seen. So it can be said what a
response that says some pieces of text makes of a host, and which messages are shown meanwhile (`exists_run_respond_of_quiet`).
-/

namespace Colloquy.Scenario

open Service

/-- The content of the message that an event shows, with its session. -/
def Event.shown? : Event → Option (SessionLabel × String)
  | .response l _ m _ => some (l, m.content)
  | _ => none

/-- What is shown of messages by events of which the latest is the first, in the order in which it is shown. -/
def shownBy (events : List Event) : List (SessionLabel × String) :=
  events.reverse.filterMap Event.shown?

theorem shownBy_cons (e : Event) (events : List Event) : shownBy (e :: events) = shownBy events ++ e.shown?.toList := by
  rw [shownBy, shownBy, List.reverse_cons, List.filterMap_append]
  cases h : e.shown? <;> simp [h]

/-- The contents of the messages that some notices show. -/
def contentsOf (notices : List Notice) : List String :=
  notices.filterMap fun n => n.message?.map Message.content

/-- What a host shows of messages of a session with some contents: nothing of a session that it does not listen to. -/
def HostState.shows (w : HostState) (key : SessionKey) (contents : List String) : List (SessionLabel × String) :=
  if w.watched.contains key then contents.map (Prod.mk (w.label key)) else []

theorem shows_append (w : HostState) (key : SessionKey) (contents more : List String) :
    w.shows key (contents ++ more) = w.shows key contents ++ w.shows key more := by
  unfold HostState.shows
  split
  · exact List.map_append
  · rfl

variable (again : Taker) {w b : HostState} {s : Session}

theorem shows_place (w : HostState) (s : Session) (events : List Event) (key : SessionKey) (contents : List String) :
    HostState.shows { w.place s with events } key contents = w.shows key contents := by
  have hlabel : HostState.label { w.place s with events } key = w.label key := label_place w s key
  rw [HostState.shows, hlabel]
  rfl

theorem exists_run_announce_of_quiet (hq : w.hooks = []) (key : SessionKey) (n : Notice) :
    ∃ events, (announce again (.session key n)).run w = ((), { w with events }) ∧
      shownBy events = shownBy w.events ++ w.shows key (contentsOf [n]) := by
  have hread : ∃ kind event, event.shown? = n.message?.map (fun m => (w.label key, m.content)) ∧
      (announce again (.session key n)).run w =
        (if w.watched.contains key then hear again kind (some (w.label key)) event else pure () : Play Unit).run w := by
    cases n with
    | active value => exact ⟨_, _, rfl, rfl⟩
    | response m => exact ⟨_, _, rfl, rfl⟩
  obtain ⟨kind, event, hshown, hrun⟩ := hread
  rw [hrun, HostState.shows]
  split
  · refine ⟨event :: w.events, run_hear_of_quiet again hq _ _ _, ?_⟩
    rw [shownBy_cons, hshown]
    cases n <;> rfl
  · exact ⟨w.events, rfl, (List.append_nil _).symm⟩

theorem exists_run_deliver_of_quiet (hq : w.hooks = []) (key : SessionKey) (notices : List Notice) :
    ∃ events, (deliver (host again) key notices).run w = ((), { w with events }) ∧
      shownBy events = shownBy w.events ++ w.shows key (contentsOf notices) := by
  induction notices generalizing w with
  | nil =>
    refine ⟨w.events, rfl, ?_⟩
    rw [HostState.shows]
    split <;> exact (List.append_nil _).symm
  | cons n rest ih =>
    obtain ⟨events, hannounce, hshown⟩ := exists_run_announce_of_quiet again hq key n
    obtain ⟨events', hrest, hshown'⟩ := ih (w := { w with events }) hq
    have hcontents : contentsOf (n :: rest) = contentsOf [n] ++ contentsOf rest := List.filterMap_append (l := [n])
    refine ⟨events', ?_, ?_⟩
    · have hfirst : ((host again).announce (.session key n)).run w = ((), { w with events }) := hannounce
      rw [deliver, StateT.run_bind, hfirst]
      exact hrest
    · rw [hshown', hshown, hcontents, shows_append, List.append_assoc]
      rfl

/-- An operation of a session puts another one in its place, and shows what there is to be shown. -/
theorem exists_run_operate_of_quiet (hq : b.hooks = []) {t : Session} (hb : b.service.directory.get? s.id = some t)
    (operation : Session → Session × List Notice) (hid : (operation s).1.id = s.id) (events : List Event) :
    ∃ events', (operate (host again) (.listed s.id) operation).run { b.place s with events } =
        ((), { b.place (operation s).1 with events := events' }) ∧
      shownBy events' = shownBy events ++ b.shows (.listed s.id) (contentsOf (operation s).2) := by
  have hsession : (b.place s).service.directory.session? (.listed s.id) = some s := get?_place hb
  have hplace : (b.place s).service.directory.put (.listed s.id) (operation s).1 = (b.place (operation s).1).service.directory := by
    rw [← place_place b hid.symm, HostState.place, HostState.place, hid]
  obtain ⟨events', hdeliver, hshown⟩ :=
    exists_run_deliver_of_quiet again (w := { b.place (operation s).1 with events }) hq (.listed s.id) (operation s).2
  rw [shows_place] at hshown
  refine ⟨events', ?_, hshown⟩
  rw [run_operate, hsession, Option.elim_some, hplace]
  exact hdeliver

/-! ## Being answered -/

/-- A content that grows by some pieces of text, as it is after each of them. -/
def growth (content : String) : List String → List String
  | [] => []
  | text :: rest => (content ++ text) :: growth (content ++ text) rest

theorem growth_append (content : String) (texts more : List String) :
    growth content (texts ++ more) = growth content texts ++ growth (content ++ String.join texts) more := by
  induction texts generalizing content with
  | nil => rw [List.nil_append, growth, List.nil_append, String.join_nil, String.append_empty]
  | cons text rest ih => rw [List.cons_append, growth, ih, growth, List.cons_append, String.join_cons, String.append_assoc]

theorem growth_singleton (content : String) (text : List Char) :
    growth content (text.map String.singleton) =
      (List.range text.length).map fun n => content ++ .ofList (text.take (n + 1)) := by
  induction text generalizing content with
  | nil => rfl
  | cons c rest ih =>
    have hhead : String.singleton c = .ofList [c] := by rw [String.ofList_cons, String.ofList_nil, String.append_empty]
    rw [List.map_cons, growth, ih, List.length_cons, List.range_succ_eq_map, List.map_cons, List.map_map, List.take_succ_cons,
      List.take_zero, ← hhead]
    refine congrArg (List.cons _) (List.map_congr_left fun n _ => ?_)
    rw [Function.comp_apply, List.take_succ_cons, String.ofList_cons, String.append_assoc]

variable {p : Pending Backend} {m : Message}

theorem saying_empty (s : Session) : s.saying "" = s := by
  have hsame : (fun m : Message => { m with content := m.content ++ "" }) = id := by
    funext m
    simp
  rw [Session.saying, Session.withLast, hsame, List.modify_id]

/-- The end of the active generation, where nothing went wrong. -/
theorem settle_of_owns {g : Nat} (ho : s.owns g = true) (hm : s.last? = some m) :
    s.settle g none = ({ s with isActive := false }, [.active false, .response m]) := by
  have hlast : Session.last? { s with isActive := false } = some m := hm
  simp only [Session.settle, ho, if_true, Session.lastNotice, hlast]
  rfl

/-- While pieces of text are heard nobody says to stop, and the message is shown with each of them. -/
theorem exists_heardOf_of_quiet (hq : b.hooks = []) {t : Session} (hb : b.service.directory.get? s.id = some t)
    (hid : s.id = p.session) (ho : s.owns p.generation = true) (hgoes : s.isStopped p.generation = false) (hm : s.last? = some m)
    (events : List Event) (texts : List String) :
    (∀ i ≤ texts.length, toldToStop p (heardOf again p { b.place s with events } (texts.take i)) = false) ∧
      ∃ events', heardOf again p { b.place s with events } texts =
          { b.place (s.saying (String.join texts)) with events := events' } ∧
        shownBy events' = shownBy events ++ b.shows (.listed s.id) (growth m.content texts) := by
  induction texts generalizing s m events with
  | nil =>
    have hnow : toldToStop p { b.place s with events } = false :=
      (toldToStop_of_get? (w := b.place s) hid (get?_place hb)).trans hgoes
    refine ⟨fun i _ => ?_, events, ?_, ?_⟩
    · rw [List.take_nil]
      exact hnow
    · rw [String.join_nil, saying_empty]
      rfl
    · rw [growth, HostState.shows, List.map_nil, ite_self, List.append_nil]
  | cons text rest ih =>
    have hnow : toldToStop p { b.place s with events } = false :=
      (toldToStop_of_get? (w := b.place s) hid (get?_place hb)).trans hgoes
    have hsaid := Session.applyDelta_of_owns ho hm text
    obtain ⟨events₁, htaken, hshown₁⟩ := exists_run_operate_of_quiet again hq hb
      (·.applyDelta p.generation text) (by rw [hsaid]; rfl) events
    rw [hsaid] at htaken hshown₁
    have hheard (texts : List String) : heardOf again p { b.place s with events } (text :: texts) =
        heardOf again p { b.place (s.saying text) with events := events₁ } texts := by
      have hfirst : ((takeDelta (host again) p text).run { b.place s with events }).2 =
          { b.place (s.saying text) with events := events₁ } := by
        rw [takeDelta, ← hid, htaken]
      rw [← hfirst]
      rfl
    obtain ⟨hrest, events₂, hafter, hshown₂⟩ := ih (s := s.saying text) hb hid ho hgoes (Session.last?_saying hm text) events₁
    refine ⟨fun i hi => ?_, events₂, ?_, ?_⟩
    · cases i with
      | zero => exact hnow
      | succ i =>
        rw [List.take_succ_cons, hheard]
        exact hrest i (Nat.le_of_succ_le_succ hi)
    · rw [hheard, hafter, Session.saying_saying, String.join_cons]
    · rw [hshown₂, hshown₁, List.append_assoc]
      exact congrArg (shownBy events ++ ·) (shows_append b (.listed s.id) [m.content ++ text] _).symm

/-- A response of a provider that waits for nobody's word but says some pieces of text and ends well: its message has the texts then, the
session is idle, and the message was shown with each piece, and once more. -/
theorem exists_run_respond_of_quiet (hq : b.hooks = []) {t : Session} (hb : b.service.directory.get? s.id = some t)
    (hid : s.id = p.session) (ho : s.owns p.generation = true) (hgoes : s.isStopped p.generation = false) (hm : s.last? = some m)
    {provider : Provider} (hprovider : p.provider = .builtIn provider) {network : HttpRequest → Reply}
    (hok : (provider.perform p.request).result network = .finished (.ok ())) (events : List Event) :
    let texts := (provider.perform p.request).texts network
    ∃ events', (respond again network true p).run { b.place s with events } =
        (.ok, { b.place { s.saying (String.join texts) with isActive := false } with events := events' }) ∧
      shownBy events' = shownBy events ++
        b.shows (.listed s.id) (growth m.content texts ++ [m.content ++ String.join texts]) := by
  intro texts
  obtain ⟨hgo, events₁, hheard, hshown₁⟩ := exists_heardOf_of_quiet again hq hb hid ho hgoes hm events texts
  have hact : (act again network true p).run { b.place s with events } =
      (.finished (.ok ()), { b.place (s.saying (String.join texts)) with events := events₁ }) := by
    obtain ⟨hend, hview⟩ := (stage_serves again network p).run_to_end (provider.perform p.request)
      (w := { b.place s with events }) hgo
    rw [run_act hprovider]
    exact Prod.ext (hend.trans hok) (hview.trans hheard)
  have hlast := Session.last?_saying hm (String.join texts)
  have hsettled := settle_of_owns (s := s.saying (String.join texts)) ho hlast
  obtain ⟨events₂, hsettle, hshown₂⟩ := exists_run_operate_of_quiet again (s := s.saying (String.join texts)) hq hb
    (·.settle p.generation none) (by rw [hsettled]) events₁
  rw [hsettled] at hsettle hshown₂
  refine ⟨events₂, ?_, ?_⟩
  · rw [run_respond_of_ok hact, settle, ← hid]
    exact congrArg (fun r => (Answer.ok, r.2)) hsettle
  · rw [hshown₂, hshown₁, List.append_assoc]
    exact congrArg (shownBy events ++ ·) (shows_append b (.listed s.id) _ _).symm

/-! ## Starting -/

/-- An idle session starts; it is active then, and the empty message of the assistant was shown. -/
theorem exists_run_startResponse_of_quiet (hq : w.hooks = []) (hs : w.service.directory.get? s.id = some s)
    (hn : s.isNull = false) (ha : s.isActive = false) (provider : Backend) (context : Option Json) :
    ∃ user assistant events, (startResponse (host again) (.listed s.id) (some provider) context).run w =
        (.ok ⟨s.id, s.generation + 1, provider, s.request context⟩,
          { HostState.place { w with drawn := w.drawn + 2 } (s.begun user assistant) with events }) ∧
      shownBy events = shownBy w.events ++ w.shows (.listed s.id) [""] := by
  obtain ⟨user, assistant, hrun⟩ := run_startResponse (host_isSeen again) (.listed s.id) (some provider) context w
  have hsession : (outlook w).service.directory.session (.listed s.id) = s := Directory.session_of_get? hs
  rw [hsession, Session.start_of_idle hn ha] at hrun
  obtain ⟨events, hdeliver, hshown⟩ := exists_run_deliver_of_quiet again
    (w := HostState.place { w with drawn := w.drawn + 2 } (s.begun user assistant)) hq (.listed s.id)
    [.active true, .response (.new assistant .assistant "")]
  refine ⟨user, assistant, events, ?_, hshown.trans ?_⟩
  · rw [hrun]
    exact congrArg (fun r => (Except.ok _, r.2)) hdeliver
  · exact congrArg (shownBy w.events ++ ·) (shows_place { w with drawn := w.drawn + 2 } (s.begun user assistant) w.events _ [""])

/-- Where no session is selected one is made. It is listened to at once, takes over the draft, and is selected; no message is shown. -/
theorem exists_run_ensureSession_of_quiet (hq : w.hooks = []) {id : Uuid} (hid : HostState.uuidOf w.drawn = id)
    (hkey : w.service.directory.currentKey = .null) (hfresh : w.service.directory.get? id = none) :
    ∃ drawn events, (ensureSession (host again)).run w = (.ok (.listed id), { w with
        service := { w.service with directory := w.service.directory.opened id }
        watched := .listed id :: w.watched.filter (· ≠ .listed id)
        drawn
        events }) ∧ shownBy events = shownBy w.events := by
  obtain ⟨hok, hview⟩ := does_ensureSession (host_isHeard again) hq rfl hkey hid hfresh
  generalize (ensureSession (host again)).run w = r at hok hview
  obtain ⟨result, v⟩ := r
  have hservice : v.service = { w.service with directory := w.service.directory.opened id } := congrArg Outlook.service hview
  have hcreated (service : Service Backend) : ∃ e, e.shown? = none ∧ takeNote w.aside (.announced (.sessionCreated id) service) =
      { w.aside with watched := .listed id :: w.watched.filter (· ≠ .listed id), events := e :: w.events } := by
    have hrun := run_hear_of_quiet (fun _ _ => pure .ok) (w := ({ w.aside with service }.watch (.listed id)).2) hq .create
    exact ⟨_, rfl, congrArg (fun r => r.2.aside) (hrun _ (.created _ _ _))⟩
  have hselected (t : HostState) (ht : t.hooks = []) (service : Service Backend) : ∃ e, e.shown? = none ∧
      takeNote t (.announced (.sessionSelected (.listed id)) service) = { t.aside with events := e :: t.events } := by
    have hrun := run_hear_of_quiet (fun _ _ => pure .ok) (w := { t with service }) ht .selectSession
    exact ⟨_, rfl, congrArg (fun r => r.2.aside) (hrun _ (.sessionSelected _ _ _))⟩
  obtain ⟨e₁, hshown₁, hnote₁⟩ := hcreated { w.service with directory := w.service.directory.add id }
  obtain ⟨e₂, hshown₂, hnote₂⟩ := hselected
    { w.aside with watched := .listed id :: w.watched.filter (· ≠ .listed id), events := e₁ :: w.events } hq
    { w.service with directory := w.service.directory.opened id }
  have haside : v.aside = takeNote (takeNote w.aside
      (.announced (.sessionCreated id) { w.service with directory := w.service.directory.add id }))
      (.announced (.sessionSelected (.listed id)) { w.service with directory := w.service.directory.opened id }) :=
    congrArg Outlook.told hview
  rw [hnote₁, hnote₂] at haside
  refine ⟨v.drawn, e₂ :: e₁ :: w.events, Prod.ext hok ?_, ?_⟩
  · have hv : v = { v.aside with service := v.service, drawn := v.drawn } := rfl
    rw [haside, hservice] at hv
    exact hv
  · rw [shownBy_cons, shownBy_cons, hshown₁, hshown₂, Option.toList_none, List.append_nil, List.append_nil]

end Colloquy.Scenario
