import Colloquy.Proofs.Assistant.Calls
import Colloquy.Proofs.Service.Records

/-!
# A roster whose listeners call back

Each call of the roster changes the service first and is announced afterwards, when it can be answered already. So listeners that
call the roster in turn, before the call has returned, find it as after the call. All calls, those of the listeners among them, come
to be served one by one in one order, each as the one before left the roster (`Service.served_askAll`), in any host that keeps
a record of the roster (`Host.Records`).
-/

namespace Colloquy

variable {π W : Type}

open Roster (Call Answer)

/-- Whether an announcement is one of the roster. -/
def Announcement.isOfRoster : Announcement → Bool
  | .registered _ | .unregistered _ | .assistantSelected _ => true
  | _ => false

/-- The roster of a service, by the calls that are made of it. -/
abbrev Roster.matter (π : Type) : Matter π (Roster π) (Call π) Announcement where
  part := Service.roster
  does := run
  tells := announcedOf
  isHeard := Announcement.isOfRoster
  told a _ := [a]
  does_nil _ := rfl
  tells_nil _ := rfl
  does_append := run_append
  tells_append := announcedOf_append

namespace Service

section

variable {m : Type → Type} [Monad m] (host : Host π m)

/-- Makes a call of the roster. -/
def call : Call π → m (Answer π)
  | .register id displayName provider => do
    let handle ← register host id displayName provider
    return .handle handle
  | .unregister id => do
    let done ← unregister host id none
    return .removed done
  | .deregister handle => do
    let done ← unregister host handle.id (some handle.token)
    return .removed done
  | .select id => do
    let result ← selectAssistant host id
    return .selected result
  | .selected => do
    let id ← selected host
    return .selection id
  | .selectedProvider => do
    let provider ← selectedProvider host
    return .provider provider

end

variable {host : Host π (StateM W)} {l : Ledger (Roster.matter π) W} {may : Call π → Prop} (h : host.Records l may) {w : W}
  {r : Roster π} {told : List Announcement}

include h

theorem holds_setRoster (hw : l.Holds w r told) (roster : Roster π) : l.Holds ((setRoster host roster).run w).2 roster told :=
  h.holds_setState hw fun s => { s with roster }

omit h in
theorem roster_of_holds (hw : l.Holds w r told) : (l.service w).roster = r :=
  hw.part

/-- What comes of a call: it is answered as the roster serves it, and after it come the calls of the listeners. -/
def Serves (host : Host π (StateM W)) (l : Ledger (Roster.matter π) W) (may : Call π → Prop) (w : W) (r : Roster π)
    (told : List Announcement) (c : Call π) : Prop :=
  ∃ inner, (∀ c ∈ inner, may c) ∧ ((call host c).run w).1 = (r.serve c).answer ∧
    l.Holds ((call host c).run w).2 (r.run (c :: inner)) (told ++ r.announcedOf (c :: inner))

/-- A call that replaces the roster and announces it. -/
theorem serves_of_announced (hw : l.Holds w r told) {c : Call π} {roster : Roster π} {a : Announcement} {answer : Answer π}
    (ha : a.isOfRoster = true) (hserve : r.serve c = ⟨roster, answer, [a]⟩)
    (hcall : (call host c).run w = (do setRoster host roster; host.announce a; return answer : StateM W (Answer π)).run w) :
    Serves host l may w r told c := by
  obtain ⟨inner, hmay, hafter⟩ := h.announce ha (holds_setRoster h hw roster)
  refine ⟨inner, hmay, ?_, ?_⟩
  · rw [hcall, hserve]
    rfl
  · have hrun : r.run (c :: inner) = roster.run inner := congrArg (Roster.run · inner) (congrArg Roster.Served.roster hserve)
    rw [hcall, hrun, Roster.announcedOf_cons, hserve]
    exact hafter

/-- A call that replaces the roster and announces nothing. -/
theorem serves_of_silent (hw : l.Holds w r told) {c : Call π} {roster : Roster π} {answer : Answer π}
    (hserve : r.serve c = ⟨roster, answer, []⟩)
    (hcall : (call host c).run w = (do setRoster host roster; return answer : StateM W (Answer π)).run w) :
    Serves host l may w r told c := by
  refine ⟨[], nofun, ?_, ?_⟩
  · rw [hcall, hserve]
    rfl
  · have hrun : r.run [c] = roster := congrArg Roster.Served.roster hserve
    have htold : told ++ r.announcedOf [c] = told := by rw [Roster.announcedOf_cons, hserve]; exact List.append_nil told
    rw [hcall, hrun, htold]
    exact holds_setRoster h hw roster

omit h in
/-- A call that does nothing. -/
theorem serves_of_idle (hw : l.Holds w r told) {c : Call π} {answer : Answer π} (hserve : r.serve c = ⟨r, answer, []⟩)
    (hcall : (call host c).run w = (pure answer : StateM W (Answer π)).run w) : Serves host l may w r told c := by
  refine ⟨[], nofun, ?_, ?_⟩
  · rw [hcall, hserve]
    rfl
  · have hrun : r.run [c] = r := congrArg Roster.Served.roster hserve
    have htold : told ++ r.announcedOf [c] = told := by rw [Roster.announcedOf_cons, hserve]; exact List.append_nil told
    rw [hcall, hrun, htold]
    exact hw

theorem serves_removal (hw : l.Holds w r told) {c : Call π} {id : String} {token : Option Nat} (hserve : r.serve c = r.removal id token)
    (hcall : call host c = (do let done ← unregister host id token; return .removed done)) : Serves host l may w r told c := by
  unfold Roster.removal at hserve
  cases hr : r.remove? id token with
  | none =>
    rw [hr] at hserve
    refine serves_of_idle hw hserve ?_
    rw [hcall, unregister, bind_assoc, h.run_state_bind, roster_of_holds hw, hr]
    rfl
  | some roster =>
    rw [hr] at hserve
    refine serves_of_announced h hw rfl hserve ?_
    rw [hcall, unregister, bind_assoc, h.run_state_bind, roster_of_holds hw, hr]
    rfl

theorem serves_call (hw : l.Holds w r told) (c : Call π) : Serves host l may w r told c := by
  cases c with
  | register id displayName provider =>
    refine serves_of_announced h hw (a := .registered displayName) rfl rfl ?_
    rw [call, register, bind_assoc, h.run_state_bind, roster_of_holds hw]
    rfl
  | unregister id => exact serves_removal h hw rfl rfl
  | deregister handle => exact serves_removal h hw rfl rfl
  | select id =>
    cases hs : r.select id with
    | error e =>
      have hserve : r.serve (.select id) = ⟨r, .selected (.error e), []⟩ := by rw [Roster.serve, hs]
      refine serves_of_idle hw hserve ?_
      rw [call, selectAssistant, bind_assoc, h.run_state_bind, roster_of_holds hw, hs]
      rfl
    | ok roster =>
      have hserve : r.serve (.select id) = ⟨roster, .selected (.ok ()), [.assistantSelected id]⟩ := by rw [Roster.serve, hs]
      refine serves_of_announced h hw rfl hserve ?_
      rw [call, selectAssistant, bind_assoc, h.run_state_bind, roster_of_holds hw, hs]
      rfl
  | selected =>
    refine serves_of_silent h hw rfl ?_
    rw [call, selected, bind_assoc, h.run_state_bind, roster_of_holds hw]
    rfl
  | selectedProvider =>
    refine serves_of_silent h hw rfl ?_
    rw [call, selectedProvider, bind_assoc, h.run_state_bind, roster_of_holds hw]
    rfl

/-- Calls that are made are served with those of the listeners in one order, in which they keep their own: the roster, what is
announced, and every answer are those of that order. Where the listeners make no calls there are no other ones. -/
def ServedInOrder (host : Host π (StateM W)) (l : Ledger (Roster.matter π) W) (may : Call π → Prop) (w : W) (r : Roster π)
    (told : List Announcement) (calls : List (Call π)) : Prop :=
  ∃ all, (∀ c ∈ all, c ∈ calls ∨ may c) ∧ ((∀ c, ¬may c) → all = calls) ∧
    ((askAll (call host) calls).run w).1.map Prod.fst = calls ∧
    ((askAll (call host) calls).run w).1.Sublist ((r.serveAll all).map fun s => (s.1, s.2.answer)) ∧
    l.Holds ((askAll (call host) calls).run w).2 (r.run all) (told ++ r.announcedOf all)

theorem served_askAll (hw : l.Holds w r told) (calls : List (Call π)) : ServedInOrder host l may w r told calls := by
  induction calls generalizing w r told with
  | nil =>
    have htold : told ++ r.announcedOf [] = told := List.append_nil told
    exact ⟨[], nofun, fun _ => rfl, rfl, .slnil, by rw [htold]; exact hw⟩
  | cons c rest ih =>
    obtain ⟨inner, hmay, hanswer, hcall⟩ := serves_call h hw c
    obtain ⟨all, hall, hquiet, hcalls, hsub, hafter⟩ := ih hcall
    have hrun : (askAll (call host) (c :: rest)).run w =
        ((c, ((call host c).run w).1) :: ((askAll (call host) rest).run ((call host c).run w).2).1,
          ((askAll (call host) rest).run ((call host c).run w).2).2) := rfl
    rw [ServedInOrder, hrun, hanswer]
    refine ⟨c :: inner ++ all, ?_, ?_, congrArg (c :: ·) hcalls, ?_, ?_⟩
    · intro x hx
      rcases List.mem_append.mp hx with hx | hx
      · rcases List.mem_cons.mp hx with rfl | hx
        · exact .inl List.mem_cons_self
        · exact .inr (hmay x hx)
      · exact (hall x hx).imp (List.mem_cons_of_mem c) id
    · intro hnone
      have hinner : inner = [] := List.eq_nil_iff_forall_not_mem.mpr fun x hx => hnone x (hmay x hx)
      rw [hinner, hquiet hnone, List.singleton_append]
    · rw [Roster.serveAll_append, List.map_append, Roster.serveAll, List.map_cons, List.cons_append]
      exact (hsub.trans (List.sublist_append_right _ _)).cons_cons _
    · rw [Roster.run_append, Roster.announcedOf_append, ← List.append_assoc]
      exact hafter

/-! ## Listeners that call back -/

/-- Whoever makes a call does what comes of it. -/
theorem goes_call (c : Call π) : l.Goes r (call host c) fun _ _ => True := by
  intro w told hw
  obtain ⟨inner, -, -, hafter⟩ := serves_call h hw c
  exact ⟨c :: inner, trivial, hafter⟩

end Service

/-- Listeners that make calls when they are told of others, at whatever depth. -/
theorem Bureau.roster_records (reacts : Announcement → List Announcement → Errand (Call π) (Answer π)) (depth : Nat) :
    (host (Roster.matter π) Service.call reacts depth).Records (ledger (Roster.matter π)) fun _ => True :=
  (host_supplies (fun _ h c _ => Service.goes_call h.toRecords c) reacts depth).toRecords

end Colloquy
