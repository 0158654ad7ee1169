import Colloquy.Proofs.Scenario.Ended
import Colloquy.Proofs.Scenario.Reach
import Colloquy.Proofs.Service.Acts
import Colloquy.Proofs.Service.Stops

/-!
# A host in order

Some things hold of a host at all times, whatever it does, and whatever its listeners and scripts do in return, however many steps
lie inside one another (`orderly_perform`): the null session is what it always is, and is never shown as a conversation; and what was
told to stop, and what is kept of responses, was begun before.
-/

namespace Colloquy.Scenario

open Service

/-- Whether an event shows the null session as a conversation: as active or idle, or with a message. -/
def Event.isOfNull : Event → Bool
  | .active .null _ _ _ => true
  | .response .null _ _ _ => true
  | _ => false

/-- The session of a response has come as far as the response at least. -/
def HostState.HasBegun (w : HostState) (p : Pending Backend) : Prop :=
  ∃ s, w.service.directory.get? p.session = some s ∧ p.generation ≤ s.generation

/-- A host as it should be. -/
structure HostState.IsOrderly (w : HostState) : Prop where
  null : w.service.directory.null.IsVacant
  silent : ∀ e ∈ w.events, e.isOfNull = false
  begun : ∀ e ∈ w.pendings, w.HasBegun e.2
  stopped : ∀ s ∈ w.service.directory.sessions, ∀ g ∈ s.stopped, g ≤ s.generation

/-- From a state of a host to another one its order is kept, and what was begun stays so. -/
def KeepsOrder (w v : HostState) : Prop :=
  w.IsOrderly → v.IsOrderly ∧ ∀ p, w.HasBegun p → v.HasBegun p

variable {α β : Type} {w v u : HostState}

theorem KeepsOrder.refl (w : HostState) : KeepsOrder w w :=
  fun hw => ⟨hw, fun _ => id⟩

theorem KeepsOrder.trans (h : KeepsOrder w v) (h' : KeepsOrder v u) : KeepsOrder w u := by
  intro hw
  obtain ⟨hv, hbegun⟩ := h hw
  obtain ⟨hu, hbegun'⟩ := h' hv
  exact ⟨hu, fun p hp => hbegun' p (hbegun p hp)⟩

/-- Where nothing is done to the sessions, what is noted and kept must be in order. -/
theorem KeepsOrder.of_directory (hd : v.service.directory = w.service.directory)
    (hp : ∀ e ∈ v.pendings, e ∈ w.pendings ∨ w.HasBegun e.2)
    (he : ∀ e ∈ v.events, e ∈ w.events ∨ e.isOfNull = false) : KeepsOrder w v := by
  intro hw
  have hbegun (p : Pending Backend) (h : w.HasBegun p) : v.HasBegun p := by rwa [HostState.HasBegun, hd]
  refine ⟨⟨hd ▸ hw.null, fun e h => (he e h).elim (hw.silent e) id, fun e h => hbegun _ ?_, hd ▸ hw.stopped⟩, hbegun⟩
  exact (hp e h).elim (hw.begun e) id

/-- Nothing is done to the sessions and the responses, and nothing is seen. -/
theorem KeepsOrder.of_eq (hd : v.service.directory = w.service.directory) (hp : v.pendings = w.pendings)
    (he : v.events = w.events) : KeepsOrder w v :=
  .of_directory hd (fun _ h => .inl (hp ▸ h)) fun _ h => .inl (he ▸ h)

/-- A session takes a move. Only a generation that has begun is told to stop. -/
theorem keepsOrder_moved (w : HostState) (key : SessionKey) (m : Move Backend)
    (hm : w.IsOrderly → ∀ g, m = .stop g → ∀ s, key = .listed s.id → w.service.directory.get? s.id = some s →
      g ≤ s.generation) :
    KeepsOrder w { w with service.directory := w.service.directory.moved key m } := by
  intro hw
  have hgrows (s : Session) : s.generation ≤ (s.take m).session.generation := by
    rw [(s.takes m).generation_eq.1]
    exact Nat.le_add_right _ _
  have hbegun : ∀ p, w.HasBegun p →
      HostState.HasBegun { w with service.directory := w.service.directory.moved key m } p := by
    rintro p ⟨s, hs, hle⟩
    have hget : (w.service.directory.moved key m).get? p.session =
        some (if key = .listed p.session then (s.take m).session else s) := by
      rw [Docket.get?_moved, hs]
      split <;> rfl
    refine ⟨_, hget, ?_⟩
    split
    · exact hle.trans (hgrows s)
    · exact hle
  refine ⟨⟨Docket.isVacant_moved hw.null key m, hw.silent, fun e he => hbegun _ (hw.begun e he), fun x hx g hg => ?_⟩, hbegun⟩
  rcases Directory.mem_sessions_change hx with ⟨hx, -⟩ | ⟨s, hkey, hs, rfl⟩
  · exact hw.stopped x hx g hg
  · refine le_trans ?_ (hgrows s)
    rw [Session.stopped_take, List.mem_append, Session.mem_stoppedBy] at hg
    rcases hg with hg | ⟨-, ho⟩ | hstop
    · exact hw.stopped s (Directory.mem_of_get? hs) g hg
    · exact ((Session.owns_iff s g).mp ho).2.ge
    · exact hm hw g hstop s hkey hs

theorem keepsOrder_added (w : HostState) (id : Uuid) :
    KeepsOrder w { w with service.directory := w.service.directory.add id } := by
  intro hw
  have hbegun : ∀ p, w.HasBegun p →
      HostState.HasBegun { w with service.directory := w.service.directory.add id } p := by
    rintro p ⟨s, hs, hle⟩
    refine ⟨s, ?_, hle⟩
    rw [Directory.get?_add, hs, Option.some_or]
  refine ⟨⟨hw.null, hw.silent, fun e he => hbegun _ (hw.begun e he), fun s hs => ?_⟩, hbegun⟩
  rcases List.mem_append.mp hs with hs | hs
  · exact hw.stopped s hs
  · obtain rfl := List.mem_singleton.mp hs
    exact fun g hg => absurd hg List.not_mem_nil

theorem keepsOrder_selected (w : HostState) {target : Option Uuid} {directory : Directory}
    (hd : w.service.directory.select target = .ok directory) :
    KeepsOrder w { w with service.directory := directory } := by
  obtain rfl := Directory.select_eq hd
  exact fun hw => ⟨⟨hw.null, hw.silent, hw.begun, hw.stopped⟩, fun _ hp => hp⟩

/-! ## Programs -/

/-- A program that keeps a host in order, from any of its states. -/
def Orderly (x : Play α) : Prop :=
  ∀ w, KeepsOrder w (x.run w).2

theorem KeepsOrder.bind {x : Play α} {k : α → Play β} (hx : KeepsOrder w (x.run w).2) (hk : ∀ a, Orderly (k a)) :
    KeepsOrder w ((x >>= k).run w).2 :=
  hx.trans (hk (x.run w).1 (x.run w).2)

theorem orderly_bind {x : Play α} {k : α → Play β} (hx : Orderly x) (hk : ∀ a, Orderly (k a)) : Orderly (x >>= k) :=
  fun w => (hx w).bind hk

theorem orderly_pure (a : α) : Orderly (pure a : Play α) :=
  fun w => .refl w

/-- A program that looks at the state of the host may go on with what it sees there. -/
theorem orderly_get_bind {k : HostState → Play β} (hk : ∀ w, KeepsOrder w ((k w).run w).2) : Orderly (get >>= k) :=
  hk

theorem orderly_modify {f : HostState → HostState} (hf : ∀ w, KeepsOrder w (f w)) : Orderly (modify f) :=
  hf

theorem orderly_modifyGet {f : HostState → α × HostState} (hf : ∀ w, KeepsOrder w (f w).2) : Orderly (modifyGet f) :=
  hf

theorem keepsOrder_note (w : HostState) {e : Event} (he : e.isOfNull = false) : KeepsOrder w (w.note e) := by
  refine .of_directory rfl (fun _ => .inl) fun x hx => ?_
  rcases List.mem_cons.mp hx with rfl | hx
  · exact .inr he
  · exact .inl hx

theorem keepsOrder_nextContext (w : HostState) : KeepsOrder w w.nextContext.2 := by
  unfold HostState.nextContext
  split
  · exact .refl w
  · exact keepsOrder_note w rfl
  next c rest _ =>
    exact KeepsOrder.trans (v := { w with contexts := some rest }) (.of_eq rfl rfl rfl) (keepsOrder_note _ rfl)

theorem label_listed_ne (w : HostState) (id : Uuid) : w.label (.listed id) ≠ .null := by
  rw [HostState.label]
  split <;> nofun

theorem orderly_state_bind {again : Taker} {k : Service Backend → Play β} (hk : ∀ w, KeepsOrder w ((k w.service).run w).2) :
    Orderly ((host again).state >>= k) :=
  hk

theorem orderly_setRoster (again : Taker) (roster : Roster Backend) : Orderly (setRoster (host again) roster) :=
  fun _ => .of_eq rfl rfl rfl

/-- What a program gives from a state of the host was begun by it. -/
def StartsFrom (w : HostState) (x : Play (Except Error (Pending Backend))) : Prop :=
  KeepsOrder w (x.run w).2 ∧ (w.IsOrderly → ∀ p, (x.run w).1 = .ok p → (x.run w).2.HasBegun p)

/-- A program that goes on with what was begun. -/
def GoesOn (next : Except Error (Pending Backend) → Play Answer) : Prop :=
  ∀ r w, (∀ p, r = .ok p → w.HasBegun p) → KeepsOrder w ((next r).run w).2

theorem startsFrom_bind {x : Play α} {k : α → Play (Except Error (Pending Backend))} (hx : KeepsOrder w (x.run w).2)
    (hk : ∀ a v, StartsFrom v (k a)) : StartsFrom w (x >>= k) :=
  ⟨hx.trans (hk _ _).1, fun hw => (hk _ _).2 (hx hw).1⟩

theorem startsFrom_error (w : HostState) (e : Error) : StartsFrom w (pure (.error e)) :=
  ⟨.refl w, fun _ _ hp => nomatch hp⟩

theorem startsFrom_state_bind {again : Taker} {k : Service Backend → Play (Except Error (Pending Backend))}
    (hk : StartsFrom w (k w.service)) : StartsFrom w ((host again).state >>= k) :=
  hk

theorem StartsFrom.bind {x : Play (Except Error (Pending Backend))} (hx : StartsFrom w x)
    {next : Except Error (Pending Backend) → Play Answer} (hn : GoesOn next) : KeepsOrder w ((x >>= next).run w).2 :=
  fun hw => (hx.1.trans (hn _ _ (hx.2 hw))) hw

/-- Whoever starts is listed, as the null session refuses; the session takes a move, and has begun what it gives. -/
theorem HostState.IsOrderly.started (hw : w.IsOrderly) {key : SessionKey} {provider : Option Backend} {context : Option Json}
    {user assistant : Stamp} {started : Start Backend}
    (hok : (w.service.directory.session key).start provider context user assistant = .ok started) :
    key ≠ .null ∧ KeepsOrder w { w with service.directory := w.service.directory.put key started.session } ∧
      HostState.HasBegun { w with service.directory := w.service.directory.put key started.session } started.pending := by
  cases hs : w.service.directory.session? key with
  | none =>
    rw [Directory.session, hs, Option.getD_none, hw.null.start_eq] at hok
    cases hok
  | some s =>
    rw [Directory.session, hs, Option.getD_some] at hok
    cases key with
    | null =>
      rw [← Option.some.inj hs, hw.null.start_eq] at hok
      cases hok
    | listed id =>
      have htake : s.take (.start provider context user assistant) =
          ⟨started.session, some started.pending, started.notices⟩ := by simp only [Session.take, hok]
      have hmoved := keepsOrder_moved w (.listed id) (.start provider context user assistant) fun _ _ hg => by cases hg
      obtain ⟨hgen, hpending⟩ := (s.takes (.start provider context user assistant : Move Backend)).generation_eq
      rw [Directory.moved, Directory.change_of_some hs, htake] at hmoved
      rw [htake] at hgen hpending
      obtain ⟨hid, hnumber⟩ := hpending _ rfl
      have hput : started.session.id = id := by
        have hsame := (s.takes (.start provider context user assistant : Move Backend)).same.1
        rw [htake] at hsame
        exact hsame.trans (Directory.id_of_get? hs)
      refine ⟨SessionKey.noConfusion, hmoved, started.session, ?_, ?_⟩
      · rw [hid, Directory.id_of_get? hs, Directory.get?_put hput, if_pos rfl, ← Directory.session?_listed, hs, Option.map_some]
      · rw [hnumber, hgen]
        exact le_rfl

/-! ## Steps -/

/-- A step on the service, while it is held. -/
theorem run_onService {step : Play Answer} (h : w.holdsService = true) :
    (onService step).run w =
      let r := step.run { w with underWay := w.underWay + 1 }
      (r.1, { r.2 with underWay := r.2.underWay - 1 }) := by
  have hrun : (onService step).run w = (if w.holdsService then keepingService step else return .gone : Play Answer).run w := rfl
  rw [hrun, if_pos h]
  rfl

theorem orderly_keepingService {step : Play α} (hs : Orderly step) : Orderly (keepingService step) :=
  orderly_bind (orderly_modify fun _ => .of_eq rfl rfl rfl) fun _ =>
    orderly_bind hs fun _ => orderly_bind (orderly_modify fun _ => .of_eq rfl rfl rfl) fun _ => orderly_pure _

theorem orderly_onService {step : Play Answer} (hs : Orderly step) : Orderly (onService step) := by
  refine orderly_get_bind fun w => ?_
  split
  · exact orderly_keepingService hs w
  · exact .refl w

theorem orderly_onSession {l : SessionLabel} {step : SessionKey → Play Answer} (hs : ∀ key, Orderly (step key)) :
    Orderly (onSession l step) := by
  refine orderly_get_bind fun w => ?_
  split
  · exact .refl w
  · exact hs _ w

theorem orderly_changeSession (l : SessionLabel) {f : Session → Session} (m : Move Backend)
    (hf : ∀ s, f s = (s.take m).session) (hm : ∀ g, m ≠ .stop g) : Orderly (changeSession l f) := by
  obtain rfl : f = fun s => (s.take m).session := funext hf
  refine orderly_onSession fun key => orderly_bind (orderly_modify fun w => ?_) fun _ => orderly_pure _
  exact keepsOrder_moved w key m fun _ g hg => absurd hg (hm g)

/-- A host keeps what was begun. -/
theorem goesOn_keepStarted : GoesOn keepStarted := by
  intro r w hr
  cases r with
  | error e => exact .refl w
  | ok p =>
    have hkept : KeepsOrder w (w.keepPending p).2 := by
      refine .of_directory rfl (fun e he => ?_) fun _ => .inl
      rcases List.mem_append.mp he with he | he
      · exact .inl he
      · obtain rfl := List.mem_singleton.mp he
        exact .inr (hr p rfl)
    exact KeepsOrder.bind (x := modifyGet (HostState.keepPending p)) hkept fun _ =>
      orderly_get_bind fun v => .refl v

theorem orderly_keepHandles (rs : List Registration) : Orderly (keepHandles rs) := by
  induction rs with
  | nil => exact orderly_pure _
  | cons r rest ih =>
    exact orderly_bind (orderly_modifyGet fun _ => .of_eq rfl rfl rfl) fun _ => orderly_bind ih fun _ => orderly_pure _

theorem orderly_takePending (label : Option Nat) : Orderly (modifyGet (HostState.takePending label)) :=
  orderly_modifyGet fun _ => .of_directory rfl (fun _ he => .inl (List.mem_of_mem_filter he)) fun _ => .inl

theorem orderly_withPending {label : Option Nat} {step : Pending Backend → Play Answer} (hs : ∀ p, Orderly (step p)) :
    Orderly (withPending label step) := by
  refine orderly_bind (orderly_takePending label) fun p => ?_
  cases p with
  | none => exact orderly_pure _
  | some p => exact hs p

theorem orderly_withHandle {n : Nat} {missing : Answer} {step : Registration → Play Answer} (hs : ∀ r, Orderly (step r)) :
    Orderly (withHandle n missing step) := by
  refine orderly_get_bind fun w => ?_
  split
  · exact .refl w
  · exact hs _ w

section Steps

variable {again : Taker} (ha : ∀ patient step, Orderly (again patient step))

include ha

theorem orderly_runHooks (hooks : List Hook) : Orderly (runHooks again hooks) := by
  induction hooks with
  | nil => exact orderly_pure ()
  | cons h rest ih =>
    exact orderly_bind (ha true h.step) fun _ => orderly_bind (orderly_modify fun w => keepsOrder_note w rfl) fun _ => ih

theorem orderly_hear (kind : EventKind) (session : Option SessionLabel) {event : Event} (he : event.isOfNull = false) :
    Orderly (hear again kind session event) :=
  orderly_bind (orderly_modify fun w => keepsOrder_note w he) fun _ =>
    orderly_bind (orderly_modifyGet fun _ => .of_eq rfl rfl rfl) fun hooks => orderly_runHooks ha hooks

/-- What is announced of a session is noted under its label, which is not that of the null session. -/
theorem orderly_announce (a : Announcement) (hne : ∀ n, a ≠ .session .null n) : Orderly (announce again a) := by
  cases a with
  | sessionCreated id =>
    exact orderly_bind (orderly_modifyGet fun _ => .of_eq rfl rfl rfl) fun _ =>
      orderly_get_bind fun w => orderly_hear ha _ _ rfl w
  | sessionSelected key => exact orderly_get_bind fun w => orderly_hear ha _ _ rfl w
  | registered name => exact orderly_get_bind fun w => orderly_hear ha _ _ rfl w
  | unregistered id => exact orderly_get_bind fun w => orderly_hear ha _ _ rfl w
  | assistantSelected id => exact orderly_hear ha _ _ rfl
  | session key notice =>
    cases key with
    | null => exact absurd rfl (hne notice)
    | listed id =>
      refine orderly_get_bind fun w => ?_
      have hlabel := label_listed_ne w id
      dsimp only
      generalize w.label (.listed id) = l at hlabel
      split
      · cases notice <;> cases l <;> first | exact absurd rfl hlabel | exact orderly_hear ha _ _ rfl w
      · exact orderly_pure _ w

/-! ## Operations -/

/-- Nobody is told anything of the null session. -/
theorem orderly_deliver (key : SessionKey) {notices : List Notice} (hn : key = .null → notices = []) :
    Orderly (deliver (host again) key notices) := by
  induction notices with
  | nil => exact orderly_pure ()
  | cons n rest ih =>
    have hkey : key ≠ .null := fun h => List.cons_ne_nil _ _ (hn h)
    refine orderly_bind (orderly_announce ha _ fun n' h => ?_) fun _ => ih fun h => absurd h hkey
    exact hkey (Announcement.session.inj h).1

/-- An operation that is a move of the session of a key. -/
theorem keepsOrder_operate (w : HostState) (key : SessionKey) (m : Move Backend) {operation : Session → Session × List Notice}
    (hop : ∀ s, operation s = ((s.take m).session, (s.take m).notices))
    (hm : w.IsOrderly → ∀ g, m = .stop g → ∀ s, key = .listed s.id → w.service.directory.get? s.id = some s →
      g ≤ s.generation) :
    KeepsOrder w ((operate (host again) key operation).run w).2 := by
  rw [run_operate]
  cases hs : w.service.directory.session? key with
  | none => exact .refl w
  | some s =>
    intro hw
    have hmoved := keepsOrder_moved w key m hm
    rw [Directory.moved, Directory.change_of_some hs] at hmoved
    rw [Option.elim_some, hop]
    refine hmoved.trans (orderly_deliver ha key (fun hkey => ?_) _) hw
    subst hkey
    obtain rfl := Option.some.inj hs
    exact (hw.null.take m).2.2

theorem orderly_operate (key : SessionKey) (m : Move Backend) {operation : Session → Session × List Notice}
    (hop : ∀ s, operation s = ((s.take m).session, (s.take m).notices)) (hm : ∀ g, m ≠ .stop g) :
    Orderly (operate (host again) key operation) :=
  fun w => keepsOrder_operate ha w key m hop fun _ g hg => absurd hg (hm g)

theorem orderly_register (id displayName : String) (provider : Backend) :
    Orderly (register (host again) id displayName provider) :=
  orderly_state_bind fun w => (orderly_setRoster again _ w).bind fun _ =>
    orderly_bind (orderly_announce ha (.registered displayName) nofun) fun _ => orderly_pure _

theorem orderly_unregister (id : String) (token : Option Nat) : Orderly (unregister (host again) id token) := by
  refine orderly_state_bind fun w => ?_
  split
  · exact .refl w
  · exact (orderly_setRoster again _ w).bind fun _ =>
      orderly_bind (orderly_announce ha (.unregistered id) nofun) fun _ => orderly_pure _

theorem orderly_selectAssistant (id : String) : Orderly (selectAssistant (host again) id) := by
  refine orderly_state_bind fun w => ?_
  split
  · exact .refl w
  · exact (orderly_setRoster again _ w).bind fun _ =>
      orderly_bind (orderly_announce ha (.assistantSelected id) nofun) fun _ => orderly_pure _

omit ha in
theorem orderly_selected : Orderly (selected (host again)) :=
  orderly_state_bind fun w => (orderly_setRoster again _ w).bind fun _ => orderly_pure _

omit ha in
theorem orderly_selectedProvider : Orderly (selectedProvider (host again)) :=
  orderly_state_bind fun w => (orderly_setRoster again _ w).bind fun _ => orderly_pure _

theorem orderly_newSession : Orderly (newSession (host again)) := by
  have hdraws : Orderly (host again).newId :=
    orderly_bind (orderly_modifyGet fun _ => .of_eq rfl rfl rfl) fun _ => orderly_pure _
  refine orderly_bind hdraws fun id => orderly_state_bind fun w => ?_
  refine KeepsOrder.bind (x := setDirectory (host again) _) (keepsOrder_added w id) fun _ => ?_
  exact orderly_bind (orderly_announce ha (.sessionCreated id) nofun) fun _ => orderly_pure _

theorem orderly_selectSession (target : Option Uuid) : Orderly (selectSession (host again) target) := by
  refine orderly_state_bind fun w => ?_
  split
  · exact .refl w
  next directory hd =>
    refine KeepsOrder.bind (x := setDirectory (host again) directory) (keepsOrder_selected w hd) fun _ => ?_
    exact orderly_bind (orderly_announce ha (.sessionSelected _) nofun) fun _ => orderly_pure _

omit ha in
/-- A draft is written. -/
theorem orderly_setDraft (w : HostState) (key : SessionKey) (text : String) :
    KeepsOrder w { w with service.directory := w.service.directory.change key (·.setPrompt text) } :=
  keepsOrder_moved w key (.setPrompt text) fun _ _ hg => nomatch hg

omit ha in
theorem orderly_takePrompt (key : SessionKey) : Orderly (takePrompt (host again) key) :=
  orderly_state_bind fun w =>
    KeepsOrder.bind (x := setDirectory (host again) _) (orderly_setDraft w key "") fun _ => orderly_pure _

omit ha in
theorem orderly_setPrompt (text : String) : Orderly (setPrompt (host again) text) :=
  orderly_state_bind fun w => orderly_setDraft w _ text

theorem orderly_cancelSession (key : SessionKey) : Orderly (cancelSession (host again) key) :=
  orderly_operate ha key .cancel (fun _ => rfl) nofun

theorem orderly_cancel : Orderly (cancel (host again)) :=
  orderly_state_bind fun w => orderly_cancelSession ha _ w

theorem orderly_takeDelta (p : Pending Backend) (text : String) : Orderly (takeDelta (host again) p text) :=
  orderly_operate ha _ (.delta p.generation text) (fun _ => rfl) nofun

theorem orderly_settle (p : Pending Backend) (error : Option Error) : Orderly (settle (host again) p error) := by
  cases error with
  | none => exact orderly_operate ha _ (.drop p.generation) (fun _ => rfl) nofun
  | some e => exact orderly_operate ha _ (.finish p.generation (.error e)) (fun _ => rfl) nofun

omit ha in
theorem orderly_isStopped (p : Pending Backend) : Orderly (isStopped (host again) p) :=
  orderly_state_bind fun w => .refl w

/-- It is a response that is kept that is told to stop. -/
theorem keepsOrder_stop (w : HostState) {label : Option Nat} {p : Pending Backend} (hp : w.pending? label = some p) :
    KeepsOrder w ((stop (host again) p).run w).2 := by
  refine keepsOrder_operate ha w _ (.stop p.generation) (fun _ => rfl) fun hw g hg s hkey hs => ?_
  obtain ⟨n, -, hn⟩ := Option.bind_eq_some_iff.mp hp
  obtain ⟨before, after, hkept, -⟩ := List.lookup_eq_some_iff.mp hn
  obtain ⟨t, ht, hle⟩ := hw.begun (n, p) (hkept ▸ List.mem_append_right _ List.mem_cons_self)
  rw [SessionKey.listed.inj hkey, hs] at ht
  obtain rfl := Option.some.inj ht
  exact Move.stop.inj hg ▸ hle

theorem orderly_respond {answer : Pending Backend → Play Outcome} (p : Pending Backend) (hx : Orderly (answer p)) :
    Orderly (Service.respond (host again) answer p) := by
  refine orderly_bind hx fun outcome => ?_
  split
  · exact orderly_bind (orderly_settle ha p _) fun _ => orderly_pure _
  · exact orderly_bind (orderly_settle ha p _) fun _ => orderly_pure _

theorem orderly_ensureSession : Orderly (ensureSession (host again)) := by
  refine orderly_state_bind fun w => ?_
  split
  · exact .refl w
  · refine (orderly_newSession ha w).bind fun id => orderly_bind (orderly_takePrompt .null) fun draft => ?_
    refine orderly_state_bind fun v => ?_
    exact KeepsOrder.bind (x := setDirectory (host again) _) (orderly_setDraft v _ draft) fun _ => orderly_selectSession ha _

theorem orderly_registerAll (wrap : Provider → Backend) (providers : List ConfiguredProvider) :
    Orderly (registerAll (host again) wrap providers) := by
  induction providers with
  | nil => exact orderly_pure _
  | cons c rest ih => exact orderly_bind (orderly_register ha _ _ _) fun _ => orderly_bind ih fun _ => orderly_pure _

theorem orderly_loadModels (wrap : Provider → Backend) (settings : Settings) :
    Orderly (loadModels (host again) wrap settings) := by
  unfold loadModels
  split
  · exact orderly_pure _
  · split
    · exact orderly_pure _
    · exact orderly_bind (orderly_registerAll ha wrap _) fun _ => orderly_pure _

/-! ## Answering -/

theorem orderly_performance (network : HttpRequest → Reply) (patient : Bool) (p : Pending Backend) (performance : Performance) :
    Orderly (performance.run (stage again network patient p)) := by
  have hstopped : Orderly (isStopped (host again) p) := orderly_isStopped p
  have hwaits {α : Type} (b : Prop) [Decidable b] (value : α) : Orderly (do
      if ← isStopped (host again) p then return .stopped
      else if b then return .passed value
      else return .unfinished : Play (Waiting α)) := by
    refine orderly_bind hstopped fun stopped => ?_
    split
    · exact orderly_pure _
    · split <;> exact orderly_pure _
  induction performance with
  | done result => exact orderly_pure _
  | emit text next ih => exact orderly_bind (orderly_takeDelta ha p text) fun _ => ih
  | check next ih =>
    refine orderly_bind hstopped fun stopped => ?_
    split
    · exact orderly_pure _
    · exact ih
  | wait ms next ih =>
    rw [Performance.run]
    refine orderly_bind (hwaits (patient ∨ ms = 0) ()) fun waited => ?_
    cases waited with
    | passed value => exact ih
    | stopped => exact orderly_pure _
    | unfinished => exact orderly_pure _
  | hang =>
    refine orderly_bind hstopped fun stopped => ?_
    split <;> exact orderly_pure _
  | exchange request next ih =>
    rw [Performance.run]
    refine orderly_bind (hwaits (patient = true) (network request)) fun waited => ?_
    cases waited with
    | passed reply => exact ih reply
    | stopped => exact orderly_pure _
    | unfinished => exact orderly_pure _

theorem orderly_follow (patient : Bool) (p : Pending Backend) (acts : List Act) : Orderly (follow again patient p acts) := by
  induction acts with
  | nil => exact orderly_pure _
  | cons a rest ih =>
    cases a with
    | emit text => exact orderly_bind (orderly_takeDelta ha p text) fun _ => ih
    | check =>
      exact orderly_bind (orderly_isStopped p) fun _ => orderly_bind (orderly_modify fun w => keepsOrder_note w rfl) fun _ => ih
    | fail e => exact orderly_pure _
    | breakDown => exact orderly_pure _
    | pause => exact orderly_pure _
    | step label s =>
      refine orderly_bind (ha patient s) fun answer => ?_
      split
      · exact orderly_pure _
      · exact orderly_bind (orderly_modify fun w => keepsOrder_note w rfl) fun _ => ih

theorem orderly_act (network : HttpRequest → Reply) (patient : Bool) (p : Pending Backend) :
    Orderly (act again network patient p) := by
  unfold act
  split
  · exact orderly_performance ha network patient p _
  · exact orderly_bind (orderly_modify fun w => keepsOrder_note w rfl) fun _ => orderly_follow ha patient p _

theorem orderly_answered (network : HttpRequest → Reply) (patient : Bool) (p : Pending Backend) :
    Orderly (respond again network patient p) := by
  refine orderly_bind (orderly_respond ha p (orderly_act ha network patient p)) fun outcome => ?_
  split <;> exact orderly_pure _

/-! ## Starting -/

/-- A start reads the session, replaces it, and tells the observers afterwards. -/
theorem startsFrom_startResponse (key : SessionKey) (provider : Option Backend) (context : Option Json) (w : HostState) :
    StartsFrom w (startResponse (host again) key provider context) := by
  have hstamp : Orderly (host again).newStamp :=
    orderly_bind (orderly_modifyGet fun _ => .of_eq rfl rfl rfl) fun _ => orderly_pure _
  refine startsFrom_bind (hstamp w) fun user v => startsFrom_bind (hstamp v) fun assistant w => startsFrom_state_bind ?_
  dsimp only
  split
  next e _ => exact startsFrom_error w e
  next started hok =>
    have hdeliver (hw : w.IsOrderly) : Orderly (deliver (host again) key started.notices) :=
      orderly_deliver ha key fun h => absurd h (hw.started hok).1
    refine ⟨fun hw => ?_, fun hw p hp => ?_⟩
    · exact ((hw.started hok).2.1.trans (hdeliver hw _)) hw
    · obtain ⟨-, hput, hbegun⟩ := hw.started hok
      obtain rfl := Except.ok.inj hp
      exact (hdeliver hw _ (hput hw).1).2 _ hbegun

theorem startsFrom_send (w : HostState) : StartsFrom w (send (host again)) := by
  refine startsFrom_bind (orderly_selectedProvider w) fun provider v => ?_
  split
  · exact startsFrom_error v _
  · refine startsFrom_bind (orderly_ensureSession ha v) fun r u => ?_
    split
    · exact startsFrom_error u _
    · exact startsFrom_bind (keepsOrder_nextContext u) fun context t => startsFrom_startResponse ha _ _ context t

theorem orderly_startIn (l : SessionLabel) (choice : Choice) (context : Option Json)
    {next : Except Error (Pending Backend) → Play Answer} (hn : GoesOn next) :
    Orderly (startIn again l choice context next) := by
  have hbegin (key : SessionKey) (provider : Option Backend) :
      Orderly (do next (← startResponse (host again) key provider context)) := fun w =>
    (startsFrom_startResponse ha key provider context w).bind hn
  refine orderly_onSession fun key => ?_
  cases choice with
  | nobody => exact hbegin key none
  | given backend => exact hbegin key (some backend)
  | selected => exact orderly_onService (orderly_bind orderly_selectedProvider fun provider => hbegin key provider)

/-- A step keeps the order if the steps that it leads to do. -/
theorem orderly_take (network : HttpRequest → Reply) (patient : Bool) (step : Step) :
    Orderly (take network again patient step) := by
  cases step with
  | setPrompt text => exact orderly_onService (orderly_bind (orderly_setPrompt text) fun _ => orderly_pure _)
  | setPromptOf l text => exact orderly_changeSession l (.setPrompt text) (fun _ => rfl) nofun
  | setTitle l text => exact orderly_changeSession l (.setTitle text) (fun _ => rfl) nofun
  | setSummary l text => exact orderly_changeSession l (.setSummary text) (fun _ => rfl) nofun
  | setScroll l position => exact orderly_changeSession l (.setScrollTop position) (fun _ => rfl) nofun
  | takePrompt l => exact orderly_onSession fun key => orderly_bind (orderly_takePrompt key) fun _ => orderly_pure _
  | inspect l => exact orderly_onSession fun key => orderly_get_bind fun w => .refl w
  | breakDown l => exact orderly_onSession fun _ => orderly_pure _
  | cancel => exact orderly_onService (orderly_bind (orderly_cancel ha) fun _ => orderly_pure _)
  | cancelSession l => exact orderly_onSession fun key => orderly_bind (orderly_cancelSession ha key) fun _ => orderly_pure _
  | watch l =>
    exact orderly_onSession fun key => orderly_bind (orderly_modifyGet fun _ => .of_eq rfl rfl rfl) fun _ => orderly_pure _
  | unwatch l =>
    refine orderly_get_bind fun w => ?_
    split
    · exact .refl w
    · exact KeepsOrder.bind (x := modifyGet _) (.of_eq rfl rfl rfl) fun _ => orderly_pure _
  | hook kind nth session label step =>
    exact orderly_bind (orderly_modify fun _ => .of_eq rfl rfl rfl) fun _ => orderly_pure _
  | newSession =>
    exact orderly_onService (orderly_bind (orderly_newSession ha) fun _ => orderly_get_bind fun w => .refl w)
  | selectSession target =>
    refine orderly_onService (orderly_get_bind fun w => (orderly_selectSession ha _ w).bind fun r => ?_)
    cases r with
    | error e => exact orderly_pure _
    | ok key => exact orderly_get_bind fun w => .refl w
  | getSession target =>
    refine orderly_onService (orderly_get_bind fun w => ?_)
    split <;> exact .refl w
  | currentId =>
    refine orderly_onService (orderly_get_bind fun w => ?_)
    split <;> exact .refl w
  | sessions => exact orderly_onService (orderly_get_bind fun w => .refl w)
  | register id name provider =>
    exact orderly_onService (orderly_bind (orderly_register ha id name provider) fun _ =>
      orderly_bind (orderly_modifyGet fun _ => .of_eq rfl rfl rfl) fun _ => orderly_pure _)
  | deregister n =>
    refine orderly_withHandle fun r => orderly_get_bind fun w => ?_
    split
    · exact (orderly_keepingService (orderly_unregister ha r.id _) w).bind fun _ => orderly_pure _
    · exact .refl w
  | cloneHandle n =>
    exact orderly_withHandle fun r => orderly_bind (orderly_modifyGet fun _ => .of_eq rfl rfl rfl) fun _ => orderly_pure _
  | describeHandle n => exact orderly_withHandle fun r => orderly_pure _
  | unregister id => exact orderly_onService (orderly_bind (orderly_unregister ha id none) fun _ => orderly_pure _)
  | selectAssistant id => exact orderly_onService (orderly_bind (orderly_selectAssistant ha id) fun _ => orderly_pure _)
  | selected => exact orderly_onService (orderly_bind orderly_selected fun _ => orderly_pure _)
  | selectedProvider => exact orderly_onService (orderly_bind orderly_selectedProvider fun _ => orderly_pure _)
  | provider id => exact orderly_onService (orderly_get_bind fun w => .refl w)
  | isEmpty => exact orderly_onService (orderly_get_bind fun w => .refl w)
  | loadModels text =>
    refine orderly_onService ?_
    split
    · exact orderly_pure _
    · refine orderly_bind (orderly_loadModels ha _ _) fun r => ?_
      cases r with
      | error e => exact orderly_pure _
      | ok registrations => exact orderly_bind (orderly_keepHandles _) fun _ => orderly_pure _
  | send => exact orderly_onService fun w => (startsFrom_send ha w).bind goesOn_keepStarted
  | start l choice context => exact orderly_startIn ha l choice context goesOn_keepStarted
  | run label => exact orderly_onService (orderly_withPending (orderly_answered ha network patient))
  | submit =>
    refine orderly_onService fun w => (startsFrom_send ha w).bind fun r v _ => ?_
    cases r with
    | error e => exact .refl v
    | ok p => exact orderly_answered ha network patient p v
  | provide l choice context =>
    refine orderly_onService (orderly_startIn ha l choice context fun r v _ => ?_)
    cases r with
    | error e => exact .refl v
    | ok p => exact orderly_answered ha network patient p v
  | abandon label =>
    refine orderly_withPending fun p => orderly_bind (orderly_answered ha network false p) fun answer => ?_
    split <;> exact orderly_pure _
  | dropPending label =>
    refine orderly_bind (orderly_takePending label) fun p => ?_
    cases p with
    | none => exact orderly_pure _
    | some p => exact orderly_bind (orderly_settle ha p none) fun _ => orderly_pure _
  | stopPending label =>
    refine orderly_get_bind fun w => ?_
    split
    · exact .refl w
    next p hp => exact KeepsOrder.bind (keepsOrder_stop ha w hp) fun _ => orderly_pure _
  | describePending label =>
    refine orderly_get_bind fun w => ?_
    split <;> exact .refl w
  | dropService => exact orderly_modifyGet fun _ => .of_eq rfl rfl rfl

end Steps

/-- Whatever a host does, and whatever its listeners and scripts do in return, keeps it in order. -/
theorem orderly_perform (network : HttpRequest → Reply) (depth : Nat) (patient : Bool) (step : Step) :
    Orderly (perform network depth patient step) := by
  induction depth generalizing patient step with
  | zero => exact orderly_pure _
  | succ depth ih => exact orderly_take ih network patient step

/-! ## Between steps -/

theorem isOrderly_new (contexts : Option (List (Option Json))) : HostState.IsOrderly { contexts } :=
  ⟨rfl, fun _ he => absurd he List.not_mem_nil, fun _ he => absurd he List.not_mem_nil, fun _ hs => absurd hs List.not_mem_nil⟩

/-- A step is taken from an orderly state with nothing seen yet. -/
theorem HostState.IsOrderly.unseen {w : HostState} (h : w.IsOrderly) : HostState.IsOrderly { w with events := [] } :=
  ⟨h.null, fun _ he => absurd he List.not_mem_nil, h.begun, h.stopped⟩

theorem HostState.IsOrderly.perform {w : HostState} (h : w.IsOrderly) (network : HttpRequest → Reply) (step : Step) :
    ((perform network depthLimit true step).run { w with events := [] }).2.IsOrderly :=
  (orderly_perform network depthLimit true step _ h.unseen).1

theorem HostState.IsOrderly.leave {w : HostState} (h : w.IsOrderly) (network : HttpRequest → Reply) (steps : List Step) :
    (leave network steps w).IsOrderly := by
  induction steps generalizing w with
  | nil => exact h
  | cons step rest ih => exact ih (h.perform network step)

theorem isOrderly_leave (network : HttpRequest → Reply) (contexts : Option (List (Option Json))) (steps : List Step) :
    (leave network steps { contexts }).IsOrderly :=
  (isOrderly_new contexts).leave network steps

end Colloquy.Scenario
