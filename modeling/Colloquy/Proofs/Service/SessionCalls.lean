import Colloquy.Proofs.Service.Deeds
import Colloquy.Proofs.Service.Records
import Colloquy.Service.Send

/-!
# A directory whose listeners call back

What a service does with its sessions it does in deeds, one piece each, and it announces a deed right after it. A listener that is told,
and whoever is asked for a context, may do something to the sessions before the service goes on. What is then done in all, the deeds of
the service in their order and those of the others between them, and what is announced of each with the sessions as they were at that
moment, is found for every call by `Ledger.goes_sessionCall`, in any host that keeps a record of the directory (`Host.Supplies`).
-/

namespace Colloquy

variable {π W : Type}

/-- Whether an announcement is one of the directory. -/
def Announcement.isOfDirectory : Announcement → Bool
  | .sessionCreated _ | .sessionSelected _ => true
  | _ => false

/-- What listeners are told by an announcement: nothing if it is none of the directory. -/
def Announcement.told (a : Announcement) (d : Directory) : List (Announcement × Directory) :=
  if a.isOfDirectory then [(a, d)] else []

/-- The directory of a service, by the deeds that are done to it. -/
abbrev Directory.matter (π : Type) : Matter π Directory (Deed π) (Announcement × Directory) where
  part := Service.directory
  does := doesAll
  tells := tellsAll
  isHeard _ := true
  told := Announcement.told
  does_nil _ := rfl
  tells_nil _ := rfl
  does_append := doesAll_append
  tells_append := tellsAll_append

/-- What is asked of the sessions of a service. -/
inductive SessionCall where
  | newSession
  | select (target : Option Uuid)
  | get (id : Uuid)
  | current
  | sessions
  | send

/-- What is answered. -/
inductive SessionAnswer (π : Type) where
  | made (id : Uuid)
  | selected (result : Except Error SessionKey)
  | found (session : Option Session)
  | current (id : Option Uuid) (session : Session)
  | sessions (sessions : List Session)
  | sent (result : Except Error (Pending π))

namespace Directory

/-- The deeds of who sees to it that there is a session to send from, and its key: the current one, or a new one that takes over the
draft of the null session and is selected. -/
inductive Ensures (d : Directory) : SessionKey → List (Deed π) → Prop where
  | there {id : Uuid} (h : d.currentKey = .listed id) : Ensures d (.listed id) []
  | made (h : d.currentKey = .null) (id : Uuid) (draft : String) :
      Ensures d (.listed id) [.opens id, .moves .null .takePrompt, .moves (.listed id) (.setPrompt draft), .selects (some id)]

/-- The deeds of who sends: none if there is nobody to ask; else there is seen to a session, and a response may start in it. -/
inductive Sends (d : Directory) : Except Error (Pending π) → List (Deed π) → Prop where
  | unasked (e : Error) : Sends d (.error e) []
  | refused {key : SessionKey} {own : List (Deed π)} (h : d.Ensures key own) (e : Error) : Sends d (.error e) own
  | started {key : SessionKey} {own : List (Deed π)} (h : d.Ensures key own) (provider : π) (context : Option Json)
      (user assistant : Stamp) (p : Pending π) :
      Sends d (.ok p) (own ++ [.moves key (.start (some provider) context user assistant)])

/-- How a call is answered, and what it does, deeds of others included: a new session is made first; what is there is selected first,
and what is not there is refused, with nothing done; what is only asked for is answered from the directory. -/
inductive Answers (d : Directory) (may : Deed π → Prop) : SessionCall → SessionAnswer π → List (Deed π) → Prop where
  | made (id : Uuid) {inner : List (Deed π)} (hinner : ∀ a ∈ inner, may a) : Answers d may .newSession (.made id) (.opens id :: inner)
  | selected {target : Option Uuid} (h : ∀ id ∈ target, (d.get? id).isSome = true) {inner : List (Deed π)}
      (hinner : ∀ a ∈ inner, may a) :
      Answers d may (.select target) (.selected (.ok (target.elim .null .listed))) (.selects target :: inner)
  | refused {id : Uuid} (h : d.get? id = none) :
      Answers d may (.select (some id)) (.selected (.error (.session ("Unknown chat session: " ++ id.toText)))) []
  | found (id : Uuid) : Answers d may (.get id) (.found (d.get? id)) []
  | current : Answers d may .current (.current d.current d.currentSession) []
  | sessions : Answers d may .sessions (.sessions d.sessions) []
  | sent {result : Except Error (Pending π)} {own deeds : List (Deed π)} (h : d.Sends result own) (hown : Deed.Among may own deeds) :
      Answers d may .send (.sent result) deeds

/-- Calls are served one after the other, each as those before have left the directory. -/
inductive Serves (may : Deed π → Prop) : Directory → List (SessionCall × SessionAnswer π) → List (Deed π) → Prop where
  | nil {d : Directory} : Serves may d [] []
  | cons {d : Directory} {call : SessionCall} {answer : SessionAnswer π} {deeds more : List (Deed π)}
      {rest : List (SessionCall × SessionAnswer π)} (h : d.Answers may call answer deeds)
      (hrest : Serves may (d.doesAll deeds) rest more) :
      Serves may d ((call, answer) :: rest) (deeds ++ more)

/-- A session that starts a response takes a move; one that is not there stays away. -/
theorem put_started {d : Directory} {key : SessionKey} {provider : Option π} {context : Option Json} {user assistant : Stamp}
    {started : Start π} (hstarted : (d.session key).start provider context user assistant = .ok started) :
    d.put key started.session = d.does (.moves key (.start provider context user assistant)) := by
  rw [does, moved]
  cases hs : d.session? key with
  | some s =>
    rw [session, hs, Option.getD_some] at hstarted
    rw [change_of_some hs, Session.take, hstarted]
  | none => rw [change_of_none hs, put_of_none hs]

end Directory

namespace Service

section

variable {m : Type → Type} [Monad m] (host : Host π m)

/-- Makes a call. -/
def sessionCall : SessionCall → m (SessionAnswer π)
  | .newSession => do
    let id ← newSession host
    return .made id
  | .select target => do
    let result ← selectSession host target
    return .selected result
  | .get id => do
    let state ← host.state
    return .found (state.directory.get? id)
  | .current => do
    let state ← host.state
    return .current state.directory.current state.directory.currentSession
  | .sessions => do
    let state ← host.state
    return .sessions state.directory.sessions
  | .send => do
    let result ← send host
    return .sent result

end

end Service

namespace Ledger

open Service

variable {host : Host π (StateM W)} {l : Ledger (Directory.matter π) W} {may : Deed π → Prop} (h : host.Supplies l may)
  {d : Directory} {α : Type} {P : α → List (Deed π) → Prop}

include h

theorem goes_state_bind {k : Service π → StateM W α} (hk : ∀ s : Service π, s.directory = d → l.Goes d (k s) P) :
    l.Goes d (host.state >>= k) P :=
  h.goes_state_bind hk

theorem holds_setDirectory {w : W} {told : List (Announcement × Directory)} (hw : l.Holds w d told) (directory : Directory) :
    l.Holds ((setDirectory host directory).run w).2 directory told :=
  h.holds_setState hw fun s => { s with directory }

/-- The assistants are no matter of the directory. -/
theorem goes_setRoster (roster : Roster π) : l.Goes d (setRoster host roster) fun _ deeds => deeds = [] := by
  intro w told hw
  have hsame : (Directory.matter π).part { l.service w with roster } = d := hw.part
  have hafter := h.holds_setState hw fun s => { s with roster }
  rw [hsame] at hafter
  exact ⟨[], rfl, hafter.of_nothing⟩

/-- To change the directory as a deed does of which nothing is announced is to do that deed. -/
theorem goes_silent {a : Deed π} (ha : d.tells a = []) : l.Goes d (setDirectory host (d.does a)) fun _ deeds => deeds = [a] := by
  intro w told hw
  have htells : d.tellsAll [a] = [] := by rw [Directory.tellsAll, ha, Directory.tellsAll, List.append_nil]
  have hafter := holds_setDirectory h hw (d.does a)
  rw [← List.append_nil told, ← htells] at hafter
  exact ⟨[a], rfl, hafter⟩

/-- To change the directory as a deed does and to announce that is to do that deed, and then others do theirs. -/
theorem goes_announced {a : Deed π} {announcement : Announcement} (ha : announcement.told (d.does a) = d.tells a) (result : α) :
    l.Goes d (do setDirectory host (d.does a); host.announce announcement; return result)
      fun b deeds => b = result ∧ ∃ inner, (∀ a ∈ inner, may a) ∧ deeds = a :: inner := by
  intro w told hw
  obtain ⟨inner, hmay, hinner⟩ := h.announce (a := announcement) rfl (holds_setDirectory h hw (d.does a))
  have htold : (Directory.matter π).told announcement (d.does a) = d.tells a := ha
  rw [htold] at hinner
  exact ⟨a :: inner, ⟨rfl, inner, hmay, rfl⟩, hinner⟩

/-- The notices of a session are no announcements of the directory, but others may do something. -/
theorem goes_deliver (key : SessionKey) (notices : List Notice) :
    l.Goes d (deliver host key notices) fun _ deeds => ∀ a ∈ deeds, may a := by
  induction notices generalizing d with
  | nil => exact goes_pure fun a ha => absurd ha List.not_mem_nil
  | cons n rest ih =>
    have hannounce : l.Goes d (host.announce (.session key n)) fun _ deeds => ∀ a ∈ deeds, may a := by
      intro w told hw
      obtain ⟨inner, hmay, hinner⟩ := h.announce (a := .session key n) rfl hw
      exact ⟨inner, hmay, hinner⟩
    refine hannounce.bind fun _ deeds hdeeds => ih.imp fun _ more hmore => ?_
    exact List.forall_mem_append.mpr ⟨hdeeds, hmore⟩

theorem goes_newSession :
    l.Goes d (newSession host) fun id deeds => ∃ inner, (∀ a ∈ inner, may a) ∧ deeds = .opens id :: inner := by
  refine (h.newId d).bind_of_nothing fun id => ?_
  refine goes_state_bind h fun s hs => ?_
  subst hs
  refine (goes_announced h (a := .opens id) rfl id).imp fun _ deeds hdeeds => ?_
  obtain ⟨rfl, hinner⟩ := hdeeds
  exact hinner

/-- What is selected, if it is there, is the current session then. -/
theorem goes_selectSession (target : Option Uuid) :
    l.Goes d (selectSession host target) fun result deeds => d.Answers may (.select target) (.selected result) deeds := by
  refine goes_state_bind h fun s hs => ?_
  subst hs
  rcases s.directory.exists_select target with ⟨hlisted, hselect⟩ | ⟨hlisted, e, hselect⟩
  · have hthere : ∀ id ∈ target, (s.directory.get? id).isSome = true := by
      rintro id rfl
      rw [Directory.isSome_get?_iff]
      exact List.contains_iff_mem.mp hlisted
    have hkey : ({ s.directory with current := target } : Directory).currentKey = target.elim .null .listed := by
      cases target with
      | none => rfl
      | some id => exact if_pos (hthere id rfl)
    have hdoes : s.directory.does (.selects target : Deed π) = { s.directory with current := target } := by
      rw [Directory.does, hselect]
      rfl
    have htells : s.directory.tells (.selects target : Deed π) =
        [(.sessionSelected (target.elim .null .listed), { s.directory with current := target })] := by
      rw [Directory.tells, hselect, ← hkey]
      rfl
    rw [hselect]
    dsimp only
    rw [← hdoes]
    refine (goes_announced h (a := .selects target) (by rw [htells, hdoes]; rfl) _).imp fun result deeds hdeeds => ?_
    obtain ⟨rfl, inner, hinner, rfl⟩ := hdeeds
    exact .selected hthere hinner
  · cases target with
    | none => cases hselect
    | some id =>
      have hnone : s.directory.get? id = none := by
        rw [Directory.get?_eq_none_iff, ← List.contains_iff_mem]
        exact Bool.eq_false_iff.mp hlisted
      have herror : s.directory.select (some id) = .error (.session ("Unknown chat session: " ++ id.toText)) := by
        rw [Directory.select, hnone]
        rfl
      rw [herror]
      exact goes_pure (.refused hnone)

/-- A move of which nobody is told. -/
theorem goes_changed (key : SessionKey) (m : Move π) {f : Session → Session} (hf : ∀ s : Session, f s = (s.take m).session) :
    l.Goes d (setDirectory host (d.change key f)) fun _ deeds => deeds = [.moves key m] := by
  have hdoes : d.change key f = d.does (.moves key m) := by
    rw [show f = fun s => (s.take m).session from funext hf]
    rfl
  rw [hdoes]
  exact goes_silent h rfl

theorem goes_takePrompt (key : SessionKey) : l.Goes d (takePrompt host key) fun _ deeds => deeds = [.moves key .takePrompt] := by
  refine goes_state_bind h fun s hs => ?_
  subst hs
  exact (goes_changed h key .takePrompt fun _ => rfl).give

/-- A session that was made is there when it is to be selected, whatever others have done by then. -/
theorem goes_ensureSession :
    l.Goes d (ensureSession host) fun result deeds => ∃ key own, result = .ok key ∧ d.Ensures key own ∧ Deed.Among may own deeds := by
  refine goes_state_bind h fun s hs => ?_
  subst hs
  split
  next id hkey => exact goes_pure ⟨_, _, rfl, .there hkey, .nil⟩
  next hkey =>
    refine (goes_newSession h).bind fun id deeds hmade => ?_
    obtain ⟨inner, hinner, rfl⟩ := hmade
    refine (goes_takePrompt h .null).bind fun draft _ hdraft => ?_
    subst hdraft
    refine goes_state_bind h fun s' hs' => ?_
    rw [← hs']
    refine (goes_changed h (.listed id) (.setPrompt draft) fun _ => rfl).bind fun _ _ hwritten => ?_
    subst hwritten
    refine (goes_selectSession h (some id)).imp fun result _ hanswers => ?_
    have hmade : ((s.directory.doesAll (.opens id :: inner)).get? id).isSome = true :=
      Directory.isSome_get?_doesAll (.inr List.mem_cons_self)
    have hthere : ((s'.directory.doesAll [(.moves (.listed id) (.setPrompt draft) : Deed π)]).get? id).isSome = true := by
      rw [hs']
      exact Directory.isSome_get?_doesAll (.inl (Directory.isSome_get?_doesAll (.inl hmade)))
    cases hanswers with
    | refused hnone => exact absurd hthere (Option.not_isSome_iff_eq_none.mpr hnone)
    | selected _ hlater =>
      refine ⟨_, _, rfl, .made hkey id draft, .own _ ?_⟩
      have hdrafted : Deed.Among may [.moves .null .takePrompt, .moves (.listed id) (.setPrompt draft), .selects (some id)]
          ([.moves .null .takePrompt] ++ ([.moves (.listed id) (.setPrompt draft)] ++ .selects (some id) :: _)) :=
        .own _ (.own _ (.cons_of_others _ hlater))
      exact (Deed.Among.of_others hinner).append hdrafted

/-- A response starts, or it is refused and nothing is done. -/
theorem goes_startResponse (key : SessionKey) (provider : Option π) (context : Option Json) :
    l.Goes d (startResponse host key provider context) fun result deeds =>
      (∃ e, result = .error e ∧ deeds = []) ∨ ∃ p user assistant inner, result = .ok p ∧ (∀ a ∈ inner, may a) ∧
        deeds = .moves key (.start provider context user assistant) :: inner := by
  refine (h.newStamp d).bind_of_nothing fun user => (h.newStamp d).bind_of_nothing fun assistant => ?_
  refine goes_state_bind h fun s hs => ?_
  subst hs
  dsimp only
  split
  next e _ => exact goes_pure (.inl ⟨e, rfl, rfl⟩)
  next started hstarted =>
    rw [Directory.put_started hstarted]
    refine (goes_silent h rfl).bind fun _ _ hmoved => ?_
    subst hmoved
    exact Goes.give ((goes_deliver h key started.notices).imp fun _ inner hinner =>
      .inr ⟨_, user, assistant, inner, rfl, hinner, rfl⟩)

theorem goes_selectedProvider : l.Goes d (selectedProvider host) fun _ deeds => deeds = [] :=
  goes_state_bind h fun s _ => (goes_setRoster h s.roster.heal).give

theorem goes_send : l.Goes d (send host) fun result deeds => ∃ own, d.Sends result own ∧ Deed.Among may own deeds := by
  refine (goes_selectedProvider h).bind_of_nothing fun provider => ?_
  cases provider with
  | none => exact goes_pure ⟨[], .unasked _, .nil⟩
  | some provider =>
    refine (goes_ensureSession h).bind fun ensured deeds hensured => ?_
    obtain ⟨key, own, rfl, hown, hdeeds⟩ := hensured
    refine (h.context _).bind fun context others hothers => ?_
    refine (goes_startResponse h key (some provider) context).imp fun result last hlast => ?_
    have hmid : Deed.Among may own (deeds ++ others) := by
      rw [← List.append_nil own]
      exact hdeeds.append (.of_others hothers)
    rw [← List.append_assoc]
    rcases hlast with ⟨e, rfl, rfl⟩ | ⟨p, user, assistant, inner, rfl, hinner, rfl⟩
    · rw [List.append_nil]
      exact ⟨own, .refused hown e, hmid⟩
    · exact ⟨_, .started hown provider context user assistant p, hmid.append (.cons_of_others _ hinner)⟩

/-- Every call is answered, and does to the directory what it should, with the deeds of others. -/
theorem goes_sessionCall (call : SessionCall) :
    l.Goes d (sessionCall host call) fun answer deeds => d.Answers may call answer deeds := by
  cases call with
  | newSession =>
    refine Goes.give ((goes_newSession h).imp fun id deeds hmade => ?_)
    obtain ⟨inner, hinner, rfl⟩ := hmade
    exact .made id hinner
  | select target => exact (goes_selectSession h target).give
  | get id =>
    refine goes_state_bind h fun s hs => ?_
    subst hs
    exact goes_pure (.found id)
  | current =>
    refine goes_state_bind h fun s hs => ?_
    subst hs
    exact goes_pure .current
  | sessions =>
    refine goes_state_bind h fun s hs => ?_
    subst hs
    exact goes_pure .sessions
  | send =>
    refine Goes.give ((goes_send h).imp fun result deeds hsent => ?_)
    obtain ⟨own, hown, hdeeds⟩ := hsent
    exact .sent hown hdeeds

theorem goes_sessionCalls (calls : List SessionCall) : l.Goes d (askAll (sessionCall host) calls) fun answered deeds =>
    answered.map Prod.fst = calls ∧ Directory.Serves may d answered deeds := by
  induction calls generalizing d with
  | nil => exact goes_pure ⟨rfl, .nil⟩
  | cons call rest ih =>
    refine (goes_sessionCall h call).bind fun answer deeds hanswer => ?_
    refine Goes.give (ih.imp fun answered more hserves => ?_)
    exact ⟨congrArg (call :: ·) hserves.1, .cons hanswer hserves.2⟩

end Ledger

end Colloquy
