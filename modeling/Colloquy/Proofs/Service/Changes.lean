import Colloquy.Proofs.Service.Docket
import Colloquy.Service.Send

/-!
# What the operations of a service do

The operations of a service are sequences of changes with any host that keeps the state it is given (`Host.Keeps`), however its
listeners behave, as long as they also do no more than that. A program of a host is described by the responses that it takes
and those that it gives (`Desk.Trades`): a start gives one, if it succeeds, and answering or dropping one takes it. All others
remain with those who hold them, whoever that is.
-/

namespace Colloquy

variable {π : Type}

/-- Where a host has its service and the responses that it keeps for later. -/
structure Desk (W π : Type) where
  service : W → Service π
  kept : W → Multiset (Pending π)
  /-- What the host sees to, so that it finds again what it keeps. -/
  inOrder : W → Prop

namespace Desk

variable {W α β : Type} {desk : Desk W π}

/-- A docket accounts for all outstanding responses: those that the host keeps, and those that somebody holds. -/
structure Accounts (desk : Desk W π) (w : W) (held : Multiset (Pending π)) (d : Docket π) : Prop where
  reached : d.IsReached
  inOrder : desk.inOrder w
  service : d.service = desk.service w
  outstanding : d.outstanding = desk.kept w + held

/-- A sequence of changes leads from one state of the host to another, where some responses are taken from those who held them
and others are given. -/
def Leads (desk : Desk W π) (w : W) (taken : Multiset (Pending π)) (v : W) (given : Multiset (Pending π)) : Prop :=
  ∀ (d : Docket π) (others : Multiset (Pending π)), desk.Accounts w (taken + others) d →
    ∃ e, d.Leads e ∧ desk.Accounts v (given + others) e

/-- Nothing is done to the service; responses go from those who held them to the host, or back. -/
theorem Leads.exchange {w v : W} {taken given : Multiset (Pending π)} (hs : desk.service v = desk.service w)
    (ho : desk.inOrder w → desk.inOrder v) (hk : desk.inOrder w → desk.kept v + given = desk.kept w + taken) :
    desk.Leads w taken v given := by
  refine fun d others hd => ⟨d, .refl d, hd.reached, ho hd.inOrder, hs ▸ hd.service, ?_⟩
  rw [hd.outstanding, ← add_assoc, ← hk hd.inOrder, add_assoc]

theorem Leads.refl (w : W) (held : Multiset (Pending π)) : desk.Leads w held w held :=
  .exchange rfl id fun _ => rfl

theorem Leads.trans {w v u : W} {a b c : Multiset (Pending π)} (h : desk.Leads w a v b) (h' : desk.Leads v b u c) :
    desk.Leads w a u c := by
  intro d others hd
  obtain ⟨e, hde, he⟩ := h d others hd
  obtain ⟨f, hef, hf⟩ := h' e others he
  exact ⟨f, hde.trans hef, hf⟩

/-- Whoever holds more responses may keep them. -/
theorem Leads.frame {w v : W} {a b : Multiset (Pending π)} (h : desk.Leads w a v b) (more : Multiset (Pending π)) :
    desk.Leads w (a + more) v (b + more) := by
  intro d others hd
  rw [add_assoc] at hd ⊢
  exact h d (more + others) hd

/-- Nothing is done but to the service, and that is a change of every docket. -/
theorem Leads.of_service {w v : W} {taken given : Multiset (Pending π)} (hk : desk.kept v = desk.kept w)
    (ho : desk.inOrder w → desk.inOrder v)
    (hc : ∀ (d : Docket π) (others : Multiset (Pending π)), d.IsReached → d.service = desk.service w →
      d.outstanding = taken + others → ∃ e, d.Leads e ∧ e.service = desk.service v ∧ e.outstanding = given + others) :
    desk.Leads w taken v given := by
  intro d others hd
  have hout : d.outstanding = taken + (desk.kept w + others) := by rw [hd.outstanding, add_left_comm]
  obtain ⟨e, hde, hs, he⟩ := hc d _ hd.reached hd.service hout
  refine ⟨e, hde, hd.reached.trans hde, ho hd.inOrder, hs, ?_⟩
  rw [he, hk, add_left_comm]

/-! ## Programs of a host -/

/-- What a program does from a state of the host: `taken` are the responses that it takes, `given` those that it gives. -/
def TradesFrom (desk : Desk W π) (w : W) (taken : Multiset (Pending π)) (x : StateM W α) (given : α → Multiset (Pending π)) :
    Prop :=
  desk.Leads w taken (x.run w).2 (given (x.run w).1)

/-- What a program does, from any state of the host. -/
def Trades (desk : Desk W π) (taken : Multiset (Pending π)) (x : StateM W α) (given : α → Multiset (Pending π)) : Prop :=
  ∀ w, desk.TradesFrom w taken x given

/-- A program that takes no response and gives none. -/
abbrev Advances (desk : Desk W π) (x : StateM W α) : Prop :=
  desk.Trades 0 x fun _ => 0

variable {w : W} {taken : Multiset (Pending π)} {between : α → Multiset (Pending π)} {given : β → Multiset (Pending π)}

theorem tradesFrom_bind {x : StateM W α} {k : α → StateM W β} (hx : desk.TradesFrom w taken x between)
    (hk : ∀ a, desk.Trades (between a) (k a) given) : desk.TradesFrom w taken (x >>= k) given :=
  hx.trans (hk (x.run w).1 (x.run w).2)

theorem trades_bind {x : StateM W α} {k : α → StateM W β} (hx : desk.Trades taken x between)
    (hk : ∀ a, desk.Trades (between a) (k a) given) : desk.Trades taken (x >>= k) given :=
  fun w => tradesFrom_bind (hx w) hk

theorem trades_pure (b : β) (hb : given b = taken) : desk.Trades taken (pure b) given :=
  fun w => hb ▸ .refl w (given b)

/-- A program that advances may be followed by one that takes responses. -/
theorem Advances.frame {x : StateM W α} (hx : desk.Advances x) (held : Multiset (Pending π)) :
    desk.Trades held x fun _ => held := by
  intro w
  have h := (hx w).frame held
  rwa [zero_add] at h

/-- A program that looks at the state of the host may go on with what it sees there. -/
theorem trades_get_bind {k : W → StateM W β} (hk : ∀ w, desk.TradesFrom w taken (k w) given) :
    desk.Trades taken (get >>= k) given :=
  hk

theorem trades_modify {f : W → W} {given : PUnit → Multiset (Pending π)} (hf : ∀ w, desk.Leads w taken (f w) (given ⟨⟩)) :
    desk.Trades taken (modify f : StateM W PUnit) given :=
  hf

theorem trades_modifyGet {f : W → β × W} (hf : ∀ w, desk.Leads w taken (f w).2 (given (f w).1)) :
    desk.Trades taken (modifyGet f : StateM W β) given :=
  hf

/-- A provider that acts trades no response if what its acts mean does not. -/
theorem advances_performance {stage : Stage (StateM W)} (hs : desk.Advances stage.isStopped)
    (he : ∀ text, desk.Advances (stage.emit text)) (hw : ∀ ms, desk.Advances (stage.wait ms))
    (hx : ∀ request, desk.Advances (stage.exchange request)) (p : Performance) : desk.Advances (p.run stage) := by
  induction p with
  | done result => exact trades_pure _ rfl
  | emit text next ih => exact trades_bind (he text) fun _ => ih
  | check next ih =>
    refine trades_bind hs fun stopped => ?_
    split
    · exact trades_pure _ rfl
    · exact ih
  | wait ms next ih =>
    refine trades_bind (hw ms) fun waited => ?_
    cases waited with
    | passed value => exact ih
    | stopped => exact trades_pure _ rfl
    | unfinished => exact trades_pure _ rfl
  | hang =>
    refine trades_bind hs fun stopped => ?_
    split <;> exact trades_pure _ rfl
  | exchange request next ih =>
    rw [Performance.run]
    refine trades_bind (hx request) fun waited => ?_
    cases waited with
    | passed reply => exact ih reply
    | stopped => exact trades_pure _ rfl
    | unfinished => exact trades_pure _ rfl

end Desk

/-- The host keeps the state that it is given, and does nothing else to it but by changes. -/
structure Host.Keeps {W : Type} (host : Host π (StateM W)) (desk : Desk W π) : Prop where
  state : ∀ w, host.state.run w = (desk.service w, w)
  setState : ∀ s w, desk.service ((host.setState s).run w).2 = s
  keeps : ∀ s w, desk.kept ((host.setState s).run w).2 = desk.kept w
  inOrder : ∀ s w, desk.inOrder w → desk.inOrder ((host.setState s).run w).2
  announce : ∀ a, desk.Advances (host.announce a)
  newId : desk.Advances host.newId
  newStamp : desk.Advances host.newStamp
  context : desk.Advances host.context

namespace Service

open Desk

/-- The response of a start that succeeded. -/
def gained : Except Error (Pending π) → Multiset (Pending π)
  | .error _ => 0
  | .ok p => {p}

section Operations

variable {W α : Type} {desk : Desk W π} {host : Host π (StateM W)} (h : host.Keeps desk)
  {taken : Multiset (Pending π)} {given : α → Multiset (Pending π)}

include h

/-- A program that looks at the service may go on with what it sees there. -/
theorem trades_state_bind {k : Service π → StateM W α} (hk : ∀ w, desk.TradesFrom w taken (k (desk.service w)) given) :
    desk.Trades taken (host.state >>= k) given := by
  intro w
  rw [TradesFrom, StateT.run_bind, h.state]
  exact hk w

/-- Replacing the sessions does what the change does that it makes. -/
theorem tradesFrom_setDirectory {w : W} {directory : Directory} {given : Multiset (Pending π)}
    (hc : ∀ (d : Docket π) (others : Multiset (Pending π)), d.IsReached → d.service = desk.service w →
      d.outstanding = taken + others →
        ∃ e, d.Leads e ∧ e.service = { d.service with directory } ∧ e.outstanding = given + others) :
    desk.TradesFrom w taken (setDirectory host directory) fun _ => given := by
  rw [TradesFrom, setDirectory, StateT.run_bind, h.state]
  refine .of_service (h.keeps _ w) (h.inOrder _ w) fun d others hr hs ho => ?_
  obtain ⟨e, hde, he, hout⟩ := hc d others hr hs ho
  exact ⟨e, hde, by rw [he, hs]; exact (h.setState _ w).symm, hout⟩

theorem advances_setRoster (roster : Roster π) : desk.Advances (setRoster host roster) := by
  refine trades_state_bind h fun w => .of_service (h.keeps _ w) (h.inOrder _ w) fun d others _ hs ho => ?_
  exact ⟨_, (Docket.Changes.replaces roster).leads, by rw [hs]; exact (h.setState _ w).symm, ho⟩

theorem advances_deliver (key : SessionKey) (notices : List Notice) : desk.Advances (deliver host key notices) := by
  induction notices with
  | nil => exact trades_pure () rfl
  | cons n rest ih => exact trades_bind (h.announce _) fun _ => ih

/-- A move that starts nothing makes its change in the session of a key, if there is one. -/
theorem tradesFrom_moved {w : W} {key : SessionKey} (m : Move π) (hm : m.isStart = false) (hs : m.Spends key taken) :
    desk.TradesFrom w taken (setDirectory host ((desk.service w).directory.moved key m)) fun _ => 0 :=
  tradesFrom_setDirectory h fun _ _ _ hd ho => hd ▸ Docket.leads_moved key m hm ho hs

/-- An operation of a session that is a move of it; nothing is done for a key without a session. -/
theorem trades_operate (key : SessionKey) {operation : Session → Session × List Notice} (m : Move π)
    (hop : ∀ s, (operation s).1 = (s.take m).session) (hm : m.isStart = false) (hs : m.Spends key taken) :
    desk.Trades taken (operate host key operation) fun _ => 0 := by
  refine trades_state_bind h fun w => ?_
  dsimp only
  split
  next hnone =>
    refine .of_service rfl id fun d others _ hd ho => ?_
    have hleads := Docket.leads_moved key m hm ho hs
    rwa [Directory.moved, hd, Directory.change_of_none hnone] at hleads
  next s hsome =>
    refine tradesFrom_bind ?_ fun _ => advances_deliver h key _
    rw [hop s, ← Directory.change_of_some hsome fun s => (s.take m).session]
    exact tradesFrom_moved h m hm hs

theorem advances_register (id displayName : String) (provider : π) :
    desk.Advances (register host id displayName provider) := by
  refine trades_state_bind h fun w => ?_
  exact tradesFrom_bind (advances_setRoster h _ w) fun _ => trades_bind (h.announce _) fun _ => trades_pure _ rfl

theorem advances_unregister (id : String) (token : Option Nat) : desk.Advances (unregister host id token) := by
  refine trades_state_bind h fun w => ?_
  split
  · exact trades_pure _ rfl w
  · exact tradesFrom_bind (advances_setRoster h _ w) fun _ => trades_bind (h.announce _) fun _ => trades_pure _ rfl

theorem advances_selectAssistant (id : String) : desk.Advances (selectAssistant host id) := by
  refine trades_state_bind h fun w => ?_
  split
  · exact trades_pure _ rfl w
  · exact tradesFrom_bind (advances_setRoster h _ w) fun _ => trades_bind (h.announce _) fun _ => trades_pure _ rfl

theorem advances_selected : desk.Advances (selected host) :=
  trades_state_bind h fun w => tradesFrom_bind (advances_setRoster h _ w) fun _ => trades_pure _ rfl

theorem advances_selectedProvider : desk.Advances (selectedProvider host) :=
  trades_state_bind h fun w => tradesFrom_bind (advances_setRoster h _ w) fun _ => trades_pure _ rfl

theorem advances_newSession : desk.Advances (newSession host) := by
  refine trades_bind h.newId fun id => trades_state_bind h fun w => ?_
  refine tradesFrom_bind (tradesFrom_setDirectory h fun d others _ hs ho => ?_) fun _ =>
    trades_bind (h.announce _) fun _ => trades_pure _ rfl
  exact ⟨_, (Docket.Changes.adds id).leads, by rw [hs], ho⟩

theorem advances_selectSession (target : Option Uuid) : desk.Advances (selectSession host target) := by
  refine trades_state_bind h fun w => ?_
  split
  · exact trades_pure _ rfl w
  next directory hd =>
    refine tradesFrom_bind (tradesFrom_setDirectory h fun d others _ hs ho => ?_) fun _ =>
      trades_bind (h.announce _) fun _ => trades_pure _ rfl
    exact ⟨_, (Docket.Changes.selects target directory (hs ▸ hd)).leads, rfl, ho⟩

theorem advances_takePrompt (key : SessionKey) : desk.Advances (takePrompt host key) :=
  trades_state_bind h fun _ => tradesFrom_bind (tradesFrom_moved h .takePrompt rfl rfl) fun _ => trades_pure _ rfl

/-- A start reads the session, replaces it, and tells the observers afterwards. -/
theorem trades_startResponse (key : SessionKey) (provider : Option π) (context : Option Json) :
    desk.Trades 0 (startResponse host key provider context) gained := by
  refine trades_bind h.newStamp fun user => trades_bind h.newStamp fun assistant => trades_state_bind h fun w => ?_
  dsimp only
  split
  next e _ => exact trades_pure _ rfl w
  next started hstart =>
    refine tradesFrom_bind (tradesFrom_setDirectory h fun d others hr hs ho => ?_) fun _ =>
      trades_bind ((advances_deliver h key _).frame {started.pending}) fun _ => trades_pure _ rfl
    rw [← hs] at hstart ⊢
    cases hkey : d.service.directory.session? key with
    | none =>
      -- where no session is found the null session is asked, which starts nothing
      rw [Directory.session, hkey, Option.getD_none] at hstart
      simp only [Session.start, hr.isRecord.null.1, if_true] at hstart
      cases hstart
    | some s =>
      rw [Directory.session, hkey, Option.getD_some] at hstart
      have htake : s.take (.start provider context user assistant) =
          ⟨started.session, some started.pending, started.notices⟩ := by simp only [Session.take, hstart]
      refine ⟨_, (Docket.Changes.moves key (.start provider context user assistant) 0 others ho rfl).leads, ?_, ?_⟩
      · rw [Docket.moved, Directory.moved, Directory.change_of_some hkey, htake]
      · rw [Docket.moved, Directory.startedBy, hkey, Option.bind_some, htake]
        rfl

theorem advances_cancelSession (key : SessionKey) : desk.Advances (cancelSession host key) :=
  trades_operate h key .cancel (fun _ => rfl) rfl rfl

theorem advances_takeDelta (p : Pending π) (text : String) : desk.Advances (takeDelta host p text) :=
  trades_operate h _ (.delta p.generation text) (fun _ => rfl) rfl rfl

/-- Whoever ends a response has it no longer. -/
theorem trades_settle (p : Pending π) (error : Option Error) : desk.Trades {p} (settle host p error) fun _ => 0 := by
  cases error with
  | none => exact trades_operate h _ (.drop p.generation) (fun _ => rfl) rfl ⟨p, rfl, rfl, rfl⟩
  | some e => exact trades_operate h _ (.finish p.generation (.error e)) (fun _ => rfl) rfl ⟨p, rfl, rfl, rfl⟩

theorem advances_isStopped (p : Pending π) : desk.Advances (isStopped host p) :=
  trades_state_bind h fun w => trades_pure _ rfl w

theorem advances_stop (p : Pending π) : desk.Advances (stop host p) :=
  trades_operate h _ (.stop p.generation) (fun _ => rfl) rfl rfl

/-- Whatever comes of answering a response, it is ended. -/
theorem trades_respond {answer : Pending π → StateM W Outcome} {p : Pending π} (ha : desk.Advances (answer p)) :
    desk.Trades {p} (respond host answer p) fun _ => 0 := by
  refine trades_bind (ha.frame {p}) fun outcome => ?_
  split
  · exact trades_bind (trades_settle h p _) fun _ => trades_pure _ rfl
  · exact trades_bind (trades_settle h p _) fun _ => trades_pure _ rfl

theorem advances_setPrompt (text : String) : desk.Advances (setPrompt host text) :=
  trades_state_bind h fun _ => tradesFrom_moved h (.setPrompt text) rfl rfl

theorem advances_cancel : desk.Advances (cancel host) :=
  trades_state_bind h fun w => advances_cancelSession h _ w

theorem advances_ensureSession : desk.Advances (ensureSession host) := by
  refine trades_state_bind h fun w => ?_
  split
  · exact trades_pure _ rfl w
  · refine tradesFrom_bind (advances_newSession h w) fun id => trades_bind (advances_takePrompt h .null) fun draft => ?_
    exact trades_state_bind h fun w =>
      tradesFrom_bind (tradesFrom_moved h (.setPrompt draft) rfl rfl) fun _ => advances_selectSession h _

theorem trades_send : desk.Trades 0 (send host) gained := by
  refine trades_bind (advances_selectedProvider h) fun provider => ?_
  split
  · exact trades_pure _ rfl
  · refine trades_bind (advances_ensureSession h) fun r => ?_
    split
    · exact trades_pure _ rfl
    · exact trades_bind h.context fun context => trades_startResponse h _ _ context

theorem advances_registerAll (wrap : Provider → π) (providers : List ConfiguredProvider) :
    desk.Advances (registerAll host wrap providers) := by
  induction providers with
  | nil => exact trades_pure _ rfl
  | cons c rest ih => exact trades_bind (advances_register h _ _ _) fun _ => trades_bind ih fun _ => trades_pure _ rfl

theorem advances_loadModels (wrap : Provider → π) (settings : Settings) :
    desk.Advances (loadModels host wrap settings) := by
  unfold loadModels
  split
  · exact trades_pure _ rfl
  · split
    · exact trades_pure _ rfl
    · exact trades_bind (advances_registerAll h wrap _) fun _ => trades_pure _ rfl

end Operations

end Service

end Colloquy
