import Colloquy.Proofs.Assistant.Roster
import Colloquy.Proofs.Service.Balance
import Colloquy.Service.Send

/-!
# When a draft is not sent

To send the draft fails for two reasons: nobody can answer, or the current session is active. Both are found out before any
session is touched. Where a session has to be made first, the draft moves over to it, and nothing fails from there on.
`Service.SendsCleanly` says all this of a host whose listeners leave the service alone.
-/

namespace Colloquy

variable {π : Type}

/-! ## The current session -/

namespace Directory

/-- The current session is active. -/
def IsBusy (d : Directory) : Prop :=
  ∃ s, d.current.bind d.get? = some s ∧ s.isActive = true

theorem currentKey_eq (d : Directory) : d.currentKey = (d.current.bind d.get?).elim .null fun s => .listed s.id := by
  unfold currentKey
  cases d.current with
  | none => rfl
  | some id =>
    cases hs : d.get? id with
    | none => simp [hs]
    | some s => simp [hs, id_of_get? hs]

/-- A session that is busy is found under its key. -/
theorem IsBusy.exists_current {d : Directory} (h : d.IsBusy) :
    ∃ s, d.currentKey = .listed s.id ∧ d.get? s.id = some s ∧ s.isActive = true := by
  obtain ⟨s, hs, ha⟩ := h
  obtain ⟨id, -, hget⟩ := Option.bind_eq_some_iff.mp hs
  exact ⟨s, by rw [currentKey_eq, hs]; rfl, id_of_get? hget ▸ hget, ha⟩

/-- Where the current session is idle there is none, or one that is found under its key. -/
theorem current_of_not_isBusy {d : Directory} (h : ¬d.IsBusy) :
    d.currentKey = .null ∨ ∃ s, d.currentKey = .listed s.id ∧ d.get? s.id = some s ∧ s.isActive = false := by
  rw [currentKey_eq]
  cases hs : d.current.bind d.get? with
  | none => exact .inl rfl
  | some s =>
    obtain ⟨id, -, hget⟩ := Option.bind_eq_some_iff.mp hs
    refine .inr ⟨s, rfl, id_of_get? hget ▸ hget, ?_⟩
    by_contra ha
    exact h ⟨s, hs, by simpa using ha⟩

end Directory

/-! ## What is seen of a host -/

/-- What is seen of a host: its service, what its listeners have been told, and whether they would leave the service alone. -/
structure Outlook (π τ : Type) where
  service : Service π
  told : τ
  isQuiet : Prop

variable {W α β τ : Type}

/-- The host shows what it does. Only an announcement tells its listeners anything, and what it draws does not depend on the
service. -/
structure Host.IsSeen (host : Host π (StateM W)) (view : W → Outlook π τ) : Prop where
  state : ∀ w, host.state.run w = ((view w).service, w)
  setState : ∀ s w, view ((host.setState s).run w).2 = { view w with service := s }
  announce : ∀ a w, (view w).isQuiet → ∃ told, view ((host.announce a).run w).2 = { view w with told }
  newId : ∀ w, view (host.newId.run w).2 = view w
  newStamp : ∀ w, view (host.newStamp.run w).2 = view w
  context : ∀ w, view (host.context.run w).2 = view w
  newId_setState : ∀ s w, (host.newId.run ((host.setState s).run w).2).1 = (host.newId.run w).1

namespace Outlook

variable {view : W → Outlook π τ} {w : W} {x : StateM W α} {a : α} {d : Directory}

/-- From a state of the host, a program gives a result and leaves the sessions as they are in a directory. Its listeners may be
told of it; nothing else is changed. -/
def Yields (view : W → Outlook π τ) (w : W) (x : StateM W α) (a : α) (d : Directory) : Prop :=
  (x.run w).1 = a ∧ ∃ told, view (x.run w).2 = { view w with service := { (view w).service with directory := d }, told }

theorem yields_pure (a : α) (hd : (view w).service.directory = d) : Yields view w (pure a) a d := by
  subst hd
  exact ⟨rfl, (view w).told, rfl⟩

theorem Yields.bind (hx : Yields view w x a d) {k : α → StateM W β} {b : β} {d' : Directory}
    (hk : ∀ v, (view v).service.directory = d → ((view w).isQuiet → (view v).isQuiet) → Yields view v (k a) b d') :
    Yields view w (x >>= k) b d' := by
  obtain ⟨rfl, told, hv⟩ := hx
  obtain ⟨hb, told', hu⟩ := hk (x.run w).2 (by rw [hv]) (by rw [hv]; exact id)
  rw [hv] at hu
  exact ⟨hb, told', hu⟩

theorem Yields.directory (hx : Yields view w x a d) : (view (x.run w).2).service.directory = d := by
  obtain ⟨-, told, hv⟩ := hx
  rw [hv]

end Outlook

namespace Service

open Outlook

theorem run_bind_of_run {x : StateM W α} {k : α → StateM W β} {w v : W} {a : α} (hx : x.run w = (a, v)) :
    (x >>= k).run w = (k a).run v := by
  rw [StateT.run_bind, hx]
  rfl

/-- Changes have led to a service. -/
def IsReached (s : Service π) : Prop :=
  ∃ d : Docket π, d.IsReached ∧ d.service = s

theorem IsReached.isNull {s : Service π} (h : s.IsReached) {id : Uuid} {x : Session} (hx : s.directory.get? id = some x) :
    x.isNull = false := by
  obtain ⟨d, hd, rfl⟩ := h
  exact hd.isRecord.isNull hx

section Operations

variable {host : Host π (StateM W)} {view : W → Outlook π τ} (h : host.IsSeen view) {w : W}

include h

theorem run_state_bind (w : W) (k : Service π → StateM W β) :
    (host.state >>= k).run w = (k (view w).service).run w := by
  rw [StateT.run_bind, h.state]
  rfl

theorem yields_state_bind {k : Service π → StateM W β} {b : β} {d : Directory}
    (hk : Yields view w (k (view w).service) b d) : Yields view w (host.state >>= k) b d := by
  unfold Yields at hk ⊢
  rwa [run_state_bind h]

theorem yields_setDirectory (directory : Directory) : Yields view w (setDirectory host directory) () directory :=
  yields_state_bind h ⟨rfl, (view w).told, h.setState _ w⟩

theorem yields_announce (hq : (view w).isQuiet) (a : Announcement) :
    Yields view w (host.announce a) () (view w).service.directory :=
  ⟨rfl, h.announce a w hq⟩

/-! ## Selecting an assistant -/

/-- To look for the selection is to heal it. -/
theorem run_selected (w : W) :
    ((selected host).run w).2 =
      ((host.setState { (view w).service with roster := (view w).service.roster.heal }).run w).2 := by
  have hset := run_state_bind h w fun s => host.setState { s with roster := (view w).service.roster.heal }
  rw [selected, run_state_bind h]
  exact congrArg Prod.snd hset

theorem view_selected (w : W) :
    view ((selected host).run w).2 =
      { view w with service := { (view w).service with roster := (view w).service.roster.heal } } := by
  rw [run_selected h]
  exact h.setState _ w

/-- Whoever looks for the provider heals the selection, as one does who looks for the selection itself. -/
theorem run_selectedProvider (w : W) :
    (selectedProvider host).run w = ((view w).service.roster.selectedProvider?, ((selected host).run w).2) := by
  rw [selectedProvider, selected, run_state_bind h, run_state_bind h]
  rfl

/-! ## Making a session -/

theorem yields_newSession (hq : (view w).isQuiet) :
    Yields view w (newSession host) (host.newId.run w).1 ((view w).service.directory.add (host.newId.run w).1) := by
  have hnew : Yields view w host.newId (host.newId.run w).1 (view w).service.directory :=
    ⟨rfl, (view w).told, h.newId w⟩
  refine hnew.bind fun v hv hvq => yields_state_bind h ?_
  rw [hv]
  refine (yields_setDirectory h _).bind fun u hu huq => ?_
  refine (yields_announce h (huq (hvq hq)) _).bind fun t ht _ => ?_
  exact yields_pure _ (ht.trans hu)

theorem yields_takePrompt (key : SessionKey) :
    Yields view w (takePrompt host key) ((view w).service.directory.session key).prompt
      ((view w).service.directory.change key (·.setPrompt "")) := by
  refine yields_state_bind h ((yields_setDirectory h _).bind fun v hv _ => ?_)
  exact yields_pure _ hv

theorem yields_selectSession (hq : (view w).isQuiet) {target : Option Uuid} {directory : Directory}
    (hd : (view w).service.directory.select target = .ok directory) :
    Yields view w (selectSession host target) (.ok (target.elim .null .listed)) directory := by
  refine yields_state_bind h ?_
  rw [hd]
  refine (yields_setDirectory h directory).bind fun v hv hvq => ?_
  refine (yields_announce h (hvq hq) _).bind fun u hu _ => ?_
  exact yields_pure _ (hu.trans hv)

/-- Where no session is current, one is made, if the identifier that is drawn for it is not in use. It takes over the draft. -/
theorem yields_ensureSession (hq : (view w).isQuiet) {d : Directory} (hd : (view w).service.directory = d)
    (hkey : d.currentKey = .null) {id : Uuid} (hid : (host.newId.run w).1 = id) (hfresh : d.get? id = none) :
    ∃ directory, Yields view w (ensureSession host) (.ok (.listed id)) directory ∧
      directory.get? id = some ((Session.new id).setPrompt d.null.prompt) := by
  let filled := ((d.add id).change .null (·.setPrompt "")).change (.listed id) (·.setPrompt d.null.prompt)
  have hprompt (text : String) (s : Session) : (s.setPrompt text).id = s.id := rfl
  have hget : filled.get? id = some ((Session.new id).setPrompt d.null.prompt) := by
    rw [Directory.get?_change (hprompt _), if_pos rfl, Directory.get?_change (hprompt _), if_neg nofun,
      Directory.get?_add, hfresh, Option.none_or, if_pos rfl]
    rfl
  have hselect : filled.select (some id) = .ok { filled with current := some id } := by
    simp [Directory.select, hget]
  refine ⟨{ filled with current := some id }, yields_state_bind h ?_, hget⟩
  rw [hd, hkey]
  have hnew := yields_newSession h hq
  rw [hd, hid] at hnew
  refine hnew.bind fun v hv hvq => ?_
  refine (yields_takePrompt h .null).bind fun u hu huq => yields_state_bind h ?_
  rw [hu, hv]
  refine (yields_setDirectory h _).bind fun t ht htq => ?_
  exact yields_selectSession h (htq (huq (hvq hq))) (ht ▸ hselect)

/-- A current session is kept. -/
theorem run_ensureSession_of_current {id : Uuid} (hkey : (view w).service.directory.currentKey = .listed id) :
    (ensureSession host).run w = (.ok (.listed id), w) := by
  rw [ensureSession, run_state_bind h, hkey]
  rfl

/-! ## Starting -/

/-- The state of the host when the two stamps of a start have been drawn. -/
def stamped (host : Host π (StateM W)) (w : W) : W :=
  (host.newStamp.run (host.newStamp.run w).2).2

theorem view_stamped (w : W) : view (stamped host w) = view w :=
  (h.newStamp _).trans (h.newStamp w)

theorem run_startResponse (key : SessionKey) (provider : Option π) (context : Option Json) (w : W) :
    ∃ user assistant, (startResponse host key provider context).run w =
      (match ((view w).service.directory.session key).start provider context user assistant with
        | .error e => pure (.error e)
        | .ok started => do
          setDirectory host ((view w).service.directory.put key started.session)
          deliver host key started.notices
          return .ok started.pending : StateM W (Except Error (Pending π))).run (stamped host w) := by
  refine ⟨(host.newStamp.run w).1, (host.newStamp.run (host.newStamp.run w).2).1, ?_⟩
  rw [startResponse, ← view_stamped h w]
  exact (run_bind_of_run rfl).trans ((run_bind_of_run rfl).trans (run_state_bind h (stamped host w) _))

/-- A start that fails leaves nothing behind but the stamps that were drawn for it. -/
theorem run_startResponse_of_error {key : SessionKey} {provider : Option π} {context : Option Json} {e : Error}
    (he : ∀ user assistant, ((view w).service.directory.session key).start provider context user assistant = .error e) :
    (startResponse host key provider context).run w = (.error e, stamped host w) := by
  obtain ⟨user, assistant, hrun⟩ := run_startResponse h key provider context w
  rw [hrun, he]
  rfl

theorem exists_startResponse {key : SessionKey} {provider : Option π} {context : Option Json}
    (hs : ∀ user assistant, ∃ r, ((view w).service.directory.session key).start provider context user assistant = .ok r) :
    ∃ p, ((startResponse host key provider context).run w).1 = .ok p := by
  obtain ⟨user, assistant, hrun⟩ := run_startResponse h key provider context w
  obtain ⟨r, hr⟩ := hs user assistant
  rw [hrun, hr]
  exact ⟨r.pending, rfl⟩

/-! ## Sending -/

/-- Without an assistant nothing is done but to look for one. -/
theorem run_send_of_nobody (hn : (view w).service.roster.entries = []) :
    (send host).run w =
      (.error (.config "Can't provide chat response: No assistant selected"), ((selected host).run w).2) := by
  rw [send, StateT.run_bind, run_selectedProvider h, ((view w).service.roster.selectedProvider?_eq_none_iff).mpr hn]
  rfl

/-- With an assistant, whatever session there is then is asked to start. -/
theorem run_send_of_provider {provider : π} (hp : (view w).service.roster.selectedProvider? = some provider) {key : SessionKey} {v : W}
    (he : (ensureSession host).run ((selected host).run w).2 = (.ok key, v)) :
    (send host).run w =
      (startResponse host key (some provider) (host.context.run v).1).run (host.context.run v).2 := by
  have hlook := run_selectedProvider h w
  rw [hp] at hlook
  rw [send, run_bind_of_run hlook]
  exact (run_bind_of_run he).trans (run_bind_of_run rfl)

theorem run_send_of_somebody (hn : (view w).service.roster.entries ≠ []) {key : SessionKey} {v : W}
    (he : (ensureSession host).run ((selected host).run w).2 = (.ok key, v)) :
    ∃ provider, (send host).run w =
      (startResponse host key (some provider) (host.context.run v).1).run (host.context.run v).2 := by
  have hsome := mt ((view w).service.roster.selectedProvider?_eq_none_iff).mp hn
  obtain ⟨provider, hp⟩ := Option.ne_none_iff_exists'.mp hsome
  exact ⟨provider, run_send_of_provider h hp he⟩

/-- While the current session is active nothing is done but to look for an assistant and to ask for a context. -/
theorem run_send_of_busy (hr : (view w).service.IsReached) (hn : (view w).service.roster.entries ≠ [])
    (hb : (view w).service.directory.IsBusy) :
    (send host).run w = (.error (.session "A response is already being generated for this session"),
      stamped host (host.context.run ((selected host).run w).2).2) := by
  obtain ⟨s, hkey, hget, ha⟩ := hb.exists_current
  have hview := view_selected h w
  have hensure := run_ensureSession_of_current h (w := ((selected host).run w).2) (by rw [hview]; exact hkey)
  obtain ⟨provider, hrun⟩ := run_send_of_somebody h hn hensure
  rw [hrun]
  refine run_startResponse_of_error h fun user assistant => ?_
  rw [h.context, hview, Directory.session_of_get? hget]
  exact Session.start_of_active (hr.isNull hget) ha provider _ user assistant

/-- In all other cases the draft is sent. -/
theorem exists_sent (hr : (view w).service.IsReached) (hq : (view w).isQuiet)
    (hfresh : (view w).service.directory.currentKey = .null →
      (view w).service.directory.get? (host.newId.run w).1 = none)
    (hn : (view w).service.roster.entries ≠ []) (hb : ¬(view w).service.directory.IsBusy) :
    ∃ p, ((send host).run w).1 = .ok p := by
  have hview := view_selected h w
  have hdraws : (host.newId.run ((selected host).run w).2).1 = (host.newId.run w).1 := by
    rw [run_selected h]
    exact h.newId_setState _ w
  -- whichever session is asked, it is idle and not the null session
  have hready : ∃ id v s, (ensureSession host).run ((selected host).run w).2 = (.ok (.listed id), v) ∧
      (view v).service.directory.get? id = some s ∧ s.isNull = false ∧ s.isActive = false := by
    generalize ((selected host).run w).2 = u at hview hdraws
    rcases Directory.current_of_not_isBusy hb with hkey | ⟨s, hkey, hget, ha⟩
    · obtain ⟨directory, hyields, hget⟩ :=
        yields_ensureSession h (by rw [hview]; exact hq) (by rw [hview]) hkey hdraws (hfresh hkey)
      rw [← hyields.directory] at hget
      exact ⟨_, _, _, Prod.ext hyields.1 rfl, hget, rfl, rfl⟩
    · have hensure := run_ensureSession_of_current h (w := u) (by rw [hview]; exact hkey)
      exact ⟨s.id, u, s, hensure, by rw [hview]; exact hget, hr.isNull hget, ha⟩
  obtain ⟨id, v, s, hensure, hget, hnull, ha⟩ := hready
  obtain ⟨provider, hrun⟩ := run_send_of_somebody h hn hensure
  rw [hrun]
  refine exists_startResponse h fun user assistant => ?_
  rw [h.context, Directory.session_of_get? hget]
  exact Session.exists_start hnull ha provider _ user assistant

end Operations

/-- A send from a state of the host fails just when it should, and leaves nothing behind when it does. -/
structure SendsCleanly (host : Host π (StateM W)) (view : W → Outlook π τ) (w : W) : Prop where
  /-- It fails where there is no assistant, and where there is one but the current session is active; in no other case. -/
  fails_iff : ∀ e, ((send host).run w).1 = .error e ↔
    ((view w).service.roster.entries = [] ∧
        e = .config "Can't provide chat response: No assistant selected") ∨
      (view w).service.roster.entries ≠ [] ∧ (view w).service.directory.IsBusy ∧
        e = .session "A response is already being generated for this session"
  /-- So it does not fail for want of a session. -/
  from_null : (view w).service.directory.currentKey = .null → (view w).service.roster.entries ≠ [] →
    ∃ p, ((send host).run w).1 = .ok p
  /-- A send that fails changes nothing but the selection among the assistants, which it heals, and tells nobody anything. -/
  unseen : ∀ e, ((send host).run w).1 = .error e →
    view ((send host).run w).2 =
      { view w with service := { (view w).service with roster := (view w).service.roster.heal } }
  /-- Without an assistant, the host is then as it is when the selection has been looked for. -/
  nobody : (view w).service.roster.entries = [] → ((send host).run w).2 = ((selected host).run w).2
  /-- Otherwise a context has also been asked for, once, and stamps have been drawn. -/
  busy : (view w).service.roster.entries ≠ [] → (view w).service.directory.IsBusy →
    ((send host).run w).2 = stamped host (host.context.run ((selected host).run w).2).2

/-- In a host whose listeners leave the service alone, a send fails cleanly. A new session needs an identifier that is not in
use. -/
theorem sendsCleanly {host : Host π (StateM W)} {view : W → Outlook π τ} (h : host.IsSeen view) {w : W}
    (hr : (view w).service.IsReached) (hq : (view w).isQuiet)
    (hfresh : (view w).service.directory.currentKey = .null →
      (view w).service.directory.get? (host.newId.run w).1 = none) : SendsCleanly host view w := by
  have hnobody := run_send_of_nobody h (w := w)
  have hbusy := run_send_of_busy h hr
  have hsent := exists_sent h hr hq hfresh
  refine ⟨?_, ?_, ?_, ?_, ?_⟩
  · intro e
    by_cases hn : (view w).service.roster.entries = []
    · rw [hnobody hn]
      simp [hn, eq_comm]
    · by_cases hb : (view w).service.directory.IsBusy
      · rw [hbusy hn hb]
        simp [hn, hb, eq_comm]
      · obtain ⟨p, hp⟩ := hsent hn hb
        simp [hn, hb, hp]
  · intro hkey hn
    have hidle : ¬(view w).service.directory.IsBusy := by
      intro hb
      obtain ⟨s, hcurrent, -⟩ := hb.exists_current
      rw [hkey] at hcurrent
      cases hcurrent
    exact hsent hn hidle
  · intro e he
    by_cases hn : (view w).service.roster.entries = []
    · rw [hnobody hn, view_selected h]
    · by_cases hb : (view w).service.directory.IsBusy
      · rw [hbusy hn hb, view_stamped h, h.context, view_selected h]
      · obtain ⟨p, hp⟩ := hsent hn hb
        rw [hp] at he
        cases he
  · intro hn
    rw [hnobody hn]
  · intro hn hb
    rw [hbusy hn hb]

end Service

end Colloquy
