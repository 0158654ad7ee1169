import Colloquy.Proofs.Service.Changes
import Colloquy.Scenario.Play

/-!
# What a host does to its service

A listener may use the service while one of its operations is under way, a script may while it answers, and either may set
off further listeners and scripts. All of this is changes of the service, one after the other (`advances_perform`), by induction
on how many steps lie inside one another. So every session that is listed is a new session that has taken some moves.
-/

namespace Colloquy.Scenario

open Service Desk

/-- A host keeps its pending responses under labels, each label being used once. -/
def desk : Desk HostState Backend where
  service := HostState.service
  kept w := w.pendings.map Prod.snd
  inOrder w := (w.pendings.map Prod.fst).Nodup ∧ ∀ n ∈ w.pendings.map Prod.fst, n < w.nextPending

/-- Nothing is done to the service or to the pending responses. -/
structure Untouched (w v : HostState) : Prop where
  service : v.service = w.service
  pendings : v.pendings = w.pendings
  nextPending : v.nextPending = w.nextPending

theorem Untouched.leads {w v : HostState} (h : Untouched w v) : desk.Leads w 0 v 0 := by
  refine .exchange h.service (fun ho => ?_) fun _ => ?_
  · simpa only [desk, h.pendings, h.nextPending] using ho
  · simp only [desk, h.pendings]

theorem advances_modify {f : HostState → HostState} (hf : ∀ w, Untouched w (f w)) : desk.Advances (modify f) :=
  trades_modify fun w => (hf w).leads

theorem advances_modifyGet {α : Type} {f : HostState → α × HostState} (hf : ∀ w, Untouched w (f w).2) :
    desk.Advances (modifyGet f) :=
  trades_modifyGet fun w => (hf w).leads

theorem nextContext_untouched (w : HostState) : Untouched w w.nextContext.2 := by
  unfold HostState.nextContext
  split <;> exact ⟨rfl, rfl, rfl⟩

/-- Where every label is used once, what is kept is what is kept under one label, and what is kept under the others. -/
theorem map_snd_filter_add_lookup {ps : List (Nat × Pending Backend)} (hn : (ps.map Prod.fst).Nodup) (n : Nat) :
    (((ps.filter fun e => some e.1 ≠ some n).map Prod.snd : List (Pending Backend)) : Multiset (Pending Backend)) +
      ((ps.lookup n).toList : Multiset (Pending Backend)) = (ps.map Prod.snd : List (Pending Backend)) := by
  induction ps with
  | nil => rfl
  | cons e rest ih =>
    obtain ⟨k, p⟩ := e
    obtain ⟨hk, hrest⟩ := List.nodup_cons.mp hn
    by_cases hkn : k = n
    · subst hkn
      have hall : rest.filter (fun e => some e.1 ≠ some k) = rest := by
        refine List.filter_eq_self.mpr fun e he => ?_
        have hne : e.1 ≠ k := fun h => hk (h ▸ List.mem_map.mpr ⟨e, he, rfl⟩)
        simpa using hne
      rw [List.filter_cons_of_neg (by simp), hall, List.lookup_cons_self]
      exact Multiset.add_comm _ _
    · rw [List.filter_cons_of_pos (by simpa using hkn), List.lookup_cons, beq_eq_false_iff_ne.mpr (Ne.symm hkn)]
      rw [List.map_cons, List.map_cons, ← Multiset.cons_coe, ← Multiset.cons_coe, Multiset.cons_add, ih hrest]

/-- A host gives away the response that it takes out. -/
theorem trades_takePending (label : Option Nat) :
    desk.Trades 0 (modifyGet (HostState.takePending label)) fun p => (p.toList : Multiset (Pending Backend)) := by
  refine trades_modifyGet fun w => .exchange rfl (fun ho => ?_) fun ho => ?_
  · have hsub : (w.pendings.filter fun e => some e.1 ≠ label).map Prod.fst |>.Sublist (w.pendings.map Prod.fst) :=
      List.filter_sublist.map _
    exact ⟨ho.1.sublist hsub, fun n hn => ho.2 n (hsub.subset hn)⟩
  · rw [add_zero]
    cases label with
    | none => simp [desk, HostState.takePending, HostState.pending?]
    | some n => exact map_snd_filter_add_lookup ho.1 n

/-- A host keeps a response under a new label. -/
theorem trades_keepPending (p : Pending Backend) :
    desk.Trades {p} (modifyGet (HostState.keepPending p)) fun _ => 0 := by
  refine trades_modifyGet fun w => .exchange rfl (fun ho => ?_) fun _ => ?_
  · obtain ⟨hnodup, hlt⟩ := ho
    have hnew : w.nextPending ∉ w.pendings.map Prod.fst := fun h => Nat.lt_irrefl _ (hlt _ h)
    have hmap : (HostState.keepPending p w).2.pendings.map Prod.fst = w.pendings.map Prod.fst ++ [w.nextPending] := by
      simp [HostState.keepPending]
    refine ⟨?_, ?_⟩
    · rw [hmap]
      exact List.nodup_append_comm.mp (List.nodup_cons.mpr ⟨hnew, hnodup⟩)
    · intro n hn
      rw [hmap, List.mem_append, List.mem_singleton] at hn
      rcases hn with hn | rfl
      · exact Nat.lt_succ_of_lt (hlt n hn)
      · exact Nat.lt_succ_self _
  · simp [desk, HostState.keepPending, ← Multiset.coe_add]

section Steps

variable {again : Taker} (ha : ∀ patient step, desk.Advances (again patient step))

include ha

theorem advances_runHooks (hooks : List Hook) : desk.Advances (runHooks again hooks) := by
  induction hooks with
  | nil => exact trades_pure () rfl
  | cons h rest ih =>
    exact trades_bind (ha true h.step) fun _ => trades_bind (advances_modify fun _ => ⟨rfl, rfl, rfl⟩) fun _ => ih

theorem advances_hear (kind : EventKind) (session : Option SessionLabel) (event : Event) :
    desk.Advances (hear again kind session event) :=
  trades_bind (advances_modify fun _ => ⟨rfl, rfl, rfl⟩) fun _ =>
    trades_bind (advances_modifyGet fun _ => ⟨rfl, rfl, rfl⟩) fun hooks => advances_runHooks ha hooks

theorem advances_announce (a : Announcement) : desk.Advances (announce again a) := by
  cases a with
  | sessionCreated id =>
    exact trades_bind (advances_modifyGet fun _ => ⟨rfl, rfl, rfl⟩) fun _ =>
      trades_get_bind fun w => advances_hear ha _ _ _ w
  | sessionSelected key => exact trades_get_bind fun w => advances_hear ha _ _ _ w
  | registered name => exact trades_get_bind fun w => advances_hear ha _ _ _ w
  | unregistered id => exact trades_get_bind fun w => advances_hear ha _ _ _ w
  | assistantSelected id => exact advances_hear ha _ _ _
  | session key notice =>
    refine trades_get_bind fun w => ?_
    dsimp only
    split
    · cases notice with
      | active value => exact advances_hear ha _ _ _ w
      | response m => exact advances_hear ha _ _ _ w
    · exact trades_pure _ rfl w

/-- The host keeps the state of the service, and its listeners do nothing else to it but by changes. -/
theorem host_keeps : (host again).Keeps desk where
  state _ := rfl
  setState _ _ := rfl
  keeps _ _ := rfl
  inOrder _ _ := id
  announce := advances_announce ha
  newId := trades_bind (advances_modifyGet fun _ => ⟨rfl, rfl, rfl⟩) fun _ => trades_pure _ rfl
  newStamp := trades_bind (advances_modifyGet fun _ => ⟨rfl, rfl, rfl⟩) fun _ => trades_pure _ rfl
  context := advances_modifyGet nextContext_untouched

/-! ## Answering -/

theorem advances_builtIn (network : HttpRequest → Reply) (patient : Bool) (p : Pending Backend) (performance : Performance) :
    desk.Advances (performance.run (stage again network patient p)) := by
  have hstopped := advances_isStopped (host_keeps ha) p
  refine advances_performance hstopped (advances_takeDelta (host_keeps ha) p) (fun ms => ?_) (fun request => ?_) performance
  · refine trades_bind hstopped fun stopped => ?_
    split
    · exact trades_pure _ rfl
    · split <;> exact trades_pure _ rfl
  · refine trades_bind hstopped fun stopped => ?_
    split
    · exact trades_pure _ rfl
    · split <;> exact trades_pure _ rfl

theorem advances_follow (patient : Bool) (p : Pending Backend) (acts : List Act) :
    desk.Advances (follow again patient p acts) := by
  induction acts with
  | nil => exact trades_pure _ rfl
  | cons a rest ih =>
    cases a with
    | emit text => exact trades_bind (advances_takeDelta (host_keeps ha) p text) fun _ => ih
    | check =>
      exact trades_bind (advances_isStopped (host_keeps ha) p) fun _ =>
        trades_bind (advances_modify fun _ => ⟨rfl, rfl, rfl⟩) fun _ => ih
    | fail e => exact trades_pure _ rfl
    | breakDown => exact trades_pure _ rfl
    | pause => exact trades_pure _ rfl
    | step label s =>
      refine trades_bind (ha patient s) fun answer => ?_
      split
      · exact trades_pure _ rfl
      · exact trades_bind (advances_modify fun _ => ⟨rfl, rfl, rfl⟩) fun _ => ih

theorem advances_act (network : HttpRequest → Reply) (patient : Bool) (p : Pending Backend) :
    desk.Advances (act again network patient p) := by
  unfold act
  split
  · exact advances_builtIn ha network patient p _
  · exact trades_bind (advances_modify fun _ => ⟨rfl, rfl, rfl⟩) fun _ => advances_follow ha patient p _

theorem trades_respond (network : HttpRequest → Reply) (patient : Bool) (p : Pending Backend) :
    desk.Trades {p} (respond again network patient p) fun _ => 0 := by
  refine trades_bind (Service.trades_respond (host_keeps ha) (advances_act ha network patient p)) fun outcome => ?_
  split <;> exact trades_pure _ rfl

end Steps

/-! ## Steps -/

theorem advances_keepingService {α : Type} {step : Play α} (hs : desk.Advances step) : desk.Advances (keepingService step) :=
  trades_bind (advances_modify fun _ => ⟨rfl, rfl, rfl⟩) fun _ =>
    trades_bind hs fun _ => trades_bind (advances_modify fun _ => ⟨rfl, rfl, rfl⟩) fun _ => trades_pure _ rfl

theorem advances_onService {step : Play Answer} (hs : desk.Advances step) :
    desk.Advances (onService step) := by
  refine trades_get_bind fun w => ?_
  split
  · exact advances_keepingService hs w
  · exact trades_pure _ rfl w

theorem advances_onSession {l : SessionLabel} {step : SessionKey → Play Answer}
    (hs : ∀ key, desk.Advances (step key)) : desk.Advances (onSession l step) := by
  refine trades_get_bind fun w => ?_
  split
  · exact trades_pure _ rfl w
  · exact hs _ w

theorem advances_changeSession (l : SessionLabel) {f : Session → Session} (m : Move Backend)
    (hf : ∀ s, f s = (s.take m).session) (hm : m.isStart = false) (hs : ∀ key, m.Spends key 0) :
    desk.Advances (changeSession l f) := by
  obtain rfl : f = fun s => (s.take m).session := funext hf
  refine advances_onSession fun key => trades_bind (trades_modify fun w => ?_) fun _ => trades_pure _ rfl
  refine .of_service rfl id fun d others _ hd ho => ?_
  have hleads := Docket.leads_moved key m hm ho (hs key)
  rwa [hd] at hleads

/-- A host that keeps what was started holds it no longer in its hands. -/
theorem trades_keepStarted (r : Except Error (Pending Backend)) : desk.Trades (gained r) (keepStarted r) fun _ => 0 := by
  cases r with
  | error e => exact trades_pure _ rfl
  | ok p => exact trades_bind (trades_keepPending p) fun _ => trades_get_bind fun w => trades_pure _ rfl w

theorem advances_keepHandles (rs : List Registration) : desk.Advances (keepHandles rs) := by
  induction rs with
  | nil => exact trades_pure _ rfl
  | cons r rest ih =>
    exact trades_bind (advances_modifyGet fun _ => ⟨rfl, rfl, rfl⟩) fun _ => trades_bind ih fun _ => trades_pure _ rfl

theorem advances_withPending {label : Option Nat} {step : Pending Backend → Play Answer}
    (hs : ∀ p, desk.Trades {p} (step p) fun _ => 0) : desk.Advances (withPending label step) := by
  refine trades_bind (trades_takePending label) fun p => ?_
  cases p with
  | none => exact trades_pure _ rfl
  | some p => exact hs p

theorem advances_withHandle {n : Nat} {missing : Answer} {step : Registration → Play Answer}
    (hs : ∀ r, desk.Advances (step r)) : desk.Advances (withHandle n missing step) := by
  refine trades_get_bind fun w => ?_
  split
  · exact trades_pure _ rfl w
  · exact hs _ w

theorem advances_startIn {again : Taker} (ha : ∀ patient step, desk.Advances (again patient step))
    (l : SessionLabel) (choice : Choice) (context : Option Json) {next : Except Error (Pending Backend) → Play Answer}
    (hn : ∀ r, desk.Trades (gained r) (next r) fun _ => 0) : desk.Advances (startIn again l choice context next) := by
  have hbegin : ∀ key provider, desk.Advances
      (do next (← Service.startResponse (host again) key provider context)) := fun key provider =>
    trades_bind (trades_startResponse (host_keeps ha) key provider context) hn
  refine advances_onSession fun key => ?_
  cases choice with
  | nobody => exact hbegin key none
  | given backend => exact hbegin key (some backend)
  | selected =>
    exact advances_onService (trades_bind (advances_selectedProvider (host_keeps ha)) fun provider => hbegin key provider)

/-- A step makes changes if the steps that it leads to make changes. -/
theorem advances_take (network : HttpRequest → Reply) {again : Taker}
    (ha : ∀ patient step, desk.Advances (again patient step)) (patient : Bool) (step : Step) :
    desk.Advances (take network again patient step) := by
  have h := host_keeps ha
  cases step with
  | setPrompt text => exact advances_onService (trades_bind (advances_setPrompt h text) fun _ => trades_pure _ rfl)
  | setPromptOf l text => exact advances_changeSession l (.setPrompt text) (fun _ => rfl) rfl fun _ => rfl
  | setTitle l text => exact advances_changeSession l (.setTitle text) (fun _ => rfl) rfl fun _ => rfl
  | setSummary l text => exact advances_changeSession l (.setSummary text) (fun _ => rfl) rfl fun _ => rfl
  | setScroll l position => exact advances_changeSession l (.setScrollTop position) (fun _ => rfl) rfl fun _ => rfl
  | takePrompt l => exact advances_onSession fun key => trades_bind (advances_takePrompt h key) fun _ => trades_pure _ rfl
  | inspect l => exact advances_onSession fun key => trades_get_bind fun w => trades_pure _ rfl w
  | breakDown l => exact advances_onSession fun _ => trades_pure _ rfl
  | cancel => exact advances_onService (trades_bind (advances_cancel h) fun _ => trades_pure _ rfl)
  | cancelSession l =>
    exact advances_onSession fun key => trades_bind (advances_cancelSession h key) fun _ => trades_pure _ rfl
  | watch l =>
    exact advances_onSession fun key =>
      trades_bind (advances_modifyGet fun _ => ⟨rfl, rfl, rfl⟩) fun _ => trades_pure _ rfl
  | unwatch l =>
    refine trades_get_bind fun w => ?_
    split
    · exact trades_pure _ rfl w
    next key _ =>
      have hunwatch := advances_modifyGet (f := HostState.unwatch key) fun _ => ⟨rfl, rfl, rfl⟩
      exact trades_bind hunwatch (fun _ => trades_pure _ rfl) w
  | hook kind nth session label step =>
    exact trades_bind (advances_modify fun _ => ⟨rfl, rfl, rfl⟩) fun _ => trades_pure _ rfl
  | newSession =>
    exact advances_onService (trades_bind (advances_newSession h) fun _ => trades_get_bind fun w => trades_pure _ rfl w)
  | selectSession target =>
    refine advances_onService (trades_get_bind fun w => tradesFrom_bind (advances_selectSession h _ w) fun r => ?_)
    cases r with
    | error e => exact trades_pure _ rfl
    | ok key => exact trades_get_bind fun w => trades_pure _ rfl w
  | getSession target =>
    refine advances_onService (trades_get_bind fun w => ?_)
    split <;> exact trades_pure _ rfl w
  | currentId =>
    refine advances_onService (trades_get_bind fun w => ?_)
    split <;> exact trades_pure _ rfl w
  | sessions => exact advances_onService (trades_get_bind fun w => trades_pure _ rfl w)
  | register id name provider =>
    exact advances_onService (trades_bind (advances_register h id name provider) fun _ =>
      trades_bind (advances_modifyGet fun _ => ⟨rfl, rfl, rfl⟩) fun _ => trades_pure _ rfl)
  | deregister n =>
    refine advances_withHandle fun r => trades_get_bind fun w => ?_
    split
    · exact trades_bind (advances_keepingService (advances_unregister h r.id _)) (fun _ => trades_pure _ rfl) w
    · exact trades_pure _ rfl w
  | cloneHandle n =>
    exact advances_withHandle fun r => trades_bind (advances_modifyGet fun _ => ⟨rfl, rfl, rfl⟩) fun _ => trades_pure _ rfl
  | describeHandle n => exact advances_withHandle fun r => trades_pure _ rfl
  | unregister id => exact advances_onService (trades_bind (advances_unregister h id none) fun _ => trades_pure _ rfl)
  | selectAssistant id => exact advances_onService (trades_bind (advances_selectAssistant h id) fun _ => trades_pure _ rfl)
  | selected => exact advances_onService (trades_bind (advances_selected h) fun _ => trades_pure _ rfl)
  | selectedProvider => exact advances_onService (trades_bind (advances_selectedProvider h) fun _ => trades_pure _ rfl)
  | provider id => exact advances_onService (trades_get_bind fun w => trades_pure _ rfl w)
  | isEmpty => exact advances_onService (trades_get_bind fun w => trades_pure _ rfl w)
  | loadModels text =>
    refine advances_onService ?_
    split
    · exact trades_pure _ rfl
    · refine trades_bind (advances_loadModels h _ _) fun r => ?_
      cases r with
      | error e => exact trades_pure _ rfl
      | ok registrations => exact trades_bind (advances_keepHandles _) fun _ => trades_pure _ rfl
  | send => exact advances_onService (trades_bind (trades_send h) trades_keepStarted)
  | start l choice context => exact advances_startIn ha l choice context trades_keepStarted
  | run label => exact advances_onService (advances_withPending (trades_respond ha network patient))
  | submit =>
    refine advances_onService (trades_bind (trades_send h) fun r => ?_)
    cases r with
    | error e => exact trades_pure _ rfl
    | ok p => exact trades_respond ha network patient p
  | provide l choice context =>
    refine advances_onService (advances_startIn ha l choice context fun r => ?_)
    cases r with
    | error e => exact trades_pure _ rfl
    | ok p => exact trades_respond ha network patient p
  | abandon label =>
    refine advances_withPending fun p => trades_bind (trades_respond ha network false p) fun answer => ?_
    split <;> exact trades_pure _ rfl
  | dropPending label =>
    refine trades_bind (trades_takePending label) fun p => ?_
    cases p with
    | none => exact trades_pure _ rfl
    | some p => exact trades_bind (trades_settle h p none) fun _ => trades_pure _ rfl
  | stopPending label =>
    refine trades_get_bind fun w => ?_
    split
    · exact trades_pure _ rfl w
    · exact trades_bind (advances_stop h _) (fun _ => trades_pure _ rfl) w
  | describePending label =>
    refine trades_get_bind fun w => ?_
    split <;> exact trades_pure _ rfl w
  | dropService => exact advances_modifyGet fun _ => ⟨rfl, rfl, rfl⟩

/-- Whatever a host does to its service, and whatever its listeners and scripts do in return, is done in changes. -/
theorem advances_perform (network : HttpRequest → Reply) (depth : Nat) (patient : Bool) (step : Step) :
    desk.Advances (perform network depth patient step) := by
  induction depth generalizing patient step with
  | zero => exact trades_pure _ rfl
  | succ depth ih => exact advances_take network ih patient step

/-! ## All that can be reached -/

/-- The state in which some steps leave a host. -/
def leave (network : HttpRequest → Reply) (steps : List Step) (w : HostState) : HostState :=
  steps.foldl (fun w step => ((perform network depthLimit true step).run { w with events := [] }).2) w

theorem leads_leave (network : HttpRequest → Reply) (steps : List Step) (w : HostState) :
    desk.Leads w 0 (leave network steps w) 0 := by
  induction steps generalizing w with
  | nil => exact .refl w 0
  | cons step rest ih =>
    have hstart : desk.Leads w 0 { w with events := [] } 0 := Untouched.leads ⟨rfl, rfl, rfl⟩
    exact (hstart.trans (advances_perform network depthLimit true step _)).trans (ih _)

end Colloquy.Scenario
