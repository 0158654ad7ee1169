import Colloquy.Proofs.Provider.Stopping
import Colloquy.Proofs.Scenario.Ended
import Colloquy.Proofs.Scenario.Reach
import Colloquy.Proofs.Service.Stops

/-!
# Being answered after a cancel

In a host, whoever is told to stop is so by the session of the response, and hears of it when the provider looks next. So a response
whose session was cancelled before it is answered comes to its end at once, and nothing is changed by it; and one that is cancelled
by a listener that hears a piece of text comes to its end there, as the listeners leave the host.
-/

namespace Colloquy.Scenario

open Service Desk

/-- Whether a host has told a response to stop. -/
def toldToStop (p : Pending Backend) (w : HostState) : Bool :=
  (w.service.directory.get? p.session).any (·.isStopped p.generation)

/-- What becomes of a host, with its listeners, by pieces of text of a response. -/
def heardOf (again : Taker) (p : Pending Backend) (w : HostState) (texts : List String) : HostState :=
  afterHearing (fun text w => ((takeDelta (host again) p text).run w).2) w texts

section Stage

variable (again : Taker) (network : HttpRequest → Reply) (p : Pending Backend)

theorem stage_halts (patient : Bool) : (stage again network patient p).Halts (toldToStop p) where
  isStopped _ := rfl
  wait ms w hs := by
    have hrun : ((stage again network patient p).wait ms).run w =
        StateT.run (if toldToStop p w then pure .stopped else
          if patient ∨ ms = 0 then pure (.passed ()) else pure .unfinished : Play (Waiting Unit)) w := rfl
    rw [hrun, if_pos hs]
    rfl
  exchange request w hs := by
    have hrun : ((stage again network patient p).exchange request).run w =
        StateT.run (if toldToStop p w then pure .stopped else
          if patient then pure (.passed (network request)) else pure .unfinished : Play (Waiting Reply)) w := rfl
    rw [hrun, if_pos hs]
    rfl

/-- A patient host waits for all that there is to wait for. -/
theorem stage_serves : (stage again network true p).Serves network id (toldToStop p)
    fun text w => ((takeDelta (host again) p text).run w).2 where
  toHalts := stage_halts again network p true
  emit text w := rfl
  passes ms w hs := by
    have hrun : ((stage again network true p).wait ms).run w =
        StateT.run (if toldToStop p w then pure .stopped else pure (.passed ()) : Play (Waiting Unit)) w := rfl
    rw [hrun, if_neg (Bool.not_eq_true _ ▸ hs)]
    exact ⟨w, rfl, rfl⟩
  answers request w hs := by
    have hrun : ((stage again network true p).exchange request).run w =
        StateT.run (if toldToStop p w then pure .stopped else pure (.passed (network request)) : Play (Waiting Reply)) w := rfl
    rw [hrun, if_neg (Bool.not_eq_true _ ▸ hs)]
    exact ⟨w, rfl, rfl⟩

end Stage

variable {again : Taker} {network : HttpRequest → Reply} {p : Pending Backend} {provider : Provider} {w : HostState}

theorem run_act (hprovider : p.provider = .builtIn provider) (patient : Bool) (w : HostState) :
    (act again network patient p).run w = ((provider.perform p.request).run (stage again network patient p)).run w := by
  rw [act, hprovider]

/-- A response whose provider ends well is answered well, and settled without an error. -/
theorem run_respond_of_ok {patient : Bool} {v : HostState} (hact : (act again network patient p).run w = (.finished (.ok ()), v)) :
    (respond again network patient p).run w = (.ok, ((settle (host again) p none).run v).2) := by
  rw [respond, StateT.run_bind, Service.respond, StateT.run_bind, hact]
  rfl

/-- Nothing else comes of that if its generation has ended by then. -/
theorem run_respond_of_act {patient : Bool} {v : HostState} (hact : (act again network patient p).run w = (.finished (.ok ()), v))
    (hd : (v.service.directory.sessions.map Session.id).Nodup)
    (ho : (v.session (.listed p.session)).owns p.generation = false) : (respond again network patient p).run w = (.ok, v) := by
  rw [run_respond_of_ok hact, run_settle_of_not_owns again hd ho]

/-! ## A cancel before -/

/-- A response that was told to stop, and whose generation has ended, is answered at once, and changes nothing. -/
theorem run_respond_of_toldToStop (hprovider : p.provider = .builtIn provider)
    (hd : (w.service.directory.sessions.map Session.id).Nodup)
    (ho : (w.session (.listed p.session)).owns p.generation = false) (hs : toldToStop p w = true) (patient : Bool) :
    (respond again network patient p).run w = (.ok, w) := by
  have hdropped := run_takeDelta_of_not_owns again hd ho
  have hkeeps (text : String) : toldToStop p (((stage again network patient p).emit text).run w).2 = true := by
    change toldToStop p ((takeDelta (host again) p text).run w).2 = true
    rw [hdropped]
    exact hs
  obtain ⟨v, hrun, hv⟩ := (stage_halts again network p patient).run_of_haltsSoon (provider.perform_heeds p.request).1 hs hkeeps
  obtain rfl : v = w := by
    rcases hv with rfl | ⟨text, rfl⟩
    · rfl
    · exact congrArg Prod.snd (hdropped text)
  exact run_respond_of_act ((run_act hprovider patient v).trans hrun) hd ho

/-- A response in somebody's hands whose generation has ended is answered at once, and changes nothing: it was a cancel that has ended
the generation, and it told it to stop. -/
theorem run_respond_of_outstanding (hprovider : p.provider = .builtIn provider) {d : Docket Backend} (hr : d.IsReached)
    (hservice : d.service = w.service) (hp : p ∈ d.outstanding) (hd : (w.service.directory.sessions.map Session.id).Nodup)
    (ho : (w.session (.listed p.session)).owns p.generation = false) (patient : Bool) :
    (respond again network patient p).run w = (.ok, w) := by
  have hlisted := hr.isRecord.listed p (hr.isBalanced.mem_issued hp)
  obtain ⟨s, hs⟩ := Option.isSome_iff_exists.mp hlisted
  have hhas := hr.owns_or_isStopped hp hs
  rw [hservice] at hs
  have hended : s.owns p.generation = false := by rwa [HostState.session, Directory.session_of_get? hs] at ho
  refine run_respond_of_toldToStop hprovider hd ho ?_ patient
  rw [toldToStop, hs]
  exact hhas.resolve_left (by simp [hended])

/-- A response that was started, and whose session was cancelled then, is still in somebody's hands, but its generation has ended,
whatever the listeners did in return. -/
theorem exists_outstanding_of_cancelled (ha : ∀ patient step, desk.Advances (again patient step)) {held : Multiset (Pending Backend)}
    {d : Docket Backend} (hd : desk.Accounts w held d) {key : SessionKey} {backend : Option Backend} {context : Option Json}
    {w' : HostState} (hstart : (startResponse (host again) key backend context).run w = (.ok p, w')) :
    ∃ f : Docket Backend, f.IsReached ∧
      f.service = ((cancelSession (host again) (.listed p.session)).run w').2.service ∧ p ∈ f.outstanding ∧
      (((cancelSession (host again) (.listed p.session)).run w').2.session (.listed p.session)).owns p.generation = false := by
  have hstarts : desk.Leads w 0 w' {p} := by
    have h := trades_startResponse (host_keeps ha) key backend context w
    rwa [TradesFrom, hstart] at h
  obtain ⟨e, -, he⟩ := hstarts d held (by rwa [zero_add])
  have hmem {v : HostState} {f : Docket Backend} (hf : desk.Accounts v ({p} + held) f) : p ∈ f.outstanding := by
    rw [hf.outstanding]
    simp
  obtain ⟨s, hs, -, hbegins⟩ := he.reached.isRecord.exists_beginsWith (he.reached.isBalanced.mem_issued (hmem he))
  have hsession : e.service.directory.session? (.listed p.session) = some s := hs
  -- the cancel itself, and what listeners do when they are told
  have hrun : (cancelSession (host again) (.listed p.session)).run w' = (deliver (host again) (.listed p.session) s.cancel.2).run
      { w' with service.directory := w'.service.directory.put (.listed p.session) s.cancel.1 } := by
    have hfound : w'.service.directory.session? (.listed p.session) = some s := by
      rw [← hsession, he.service]
      rfl
    rw [cancelSession, run_operate, hfound]
    rfl
  obtain ⟨e', hmoves, hservice, hout⟩ := Docket.leads_moved (.listed p.session) .cancel rfl (zero_add e.outstanding).symm rfl
  have hcancelled : desk.Accounts { w' with service.directory := w'.service.directory.put (.listed p.session) s.cancel.1 }
      ({p} + held) e' := by
    refine ⟨he.reached.trans hmoves, he.inOrder, ?_, ?_⟩
    · rw [hservice, Directory.moved, Directory.change_of_some hsession, he.service]
      rfl
    · rw [hout, zero_add, he.outstanding]
      rfl
  obtain ⟨f, hleads, hf⟩ := ((advances_deliver (host_keeps ha) (.listed p.session) s.cancel.2).frame {p}) _ e' held hcancelled
  have hget : e'.service.directory.get? p.session = some (s.take (.cancel : Move Backend)).session := by
    rw [hservice, Docket.get?_moved, if_pos rfl, hs]
    rfl
  obtain ⟨moves, hafter⟩ := hleads.exists_run hget
  have hfinal : f.service = ((cancelSession (host again) (.listed p.session)).run w').2.service := by
    rw [hrun]
    exact hf.service
  have hended : (s.take (.cancel : Move Backend)).session.owns p.generation = false := by
    rw [Session.owns, Session.isActive_take_cancel]
    rfl
  have hle : p.generation ≤ (s.take (.cancel : Move Backend)).session.generation := by
    rw [(s.takes (.cancel : Move Backend)).generation_eq.1]
    exact Nat.le_add_right_of_le hbegins.generation
  refine ⟨f, hf.reached, hfinal, hmem hf, ?_⟩
  rw [HostState.session, ← hfinal, Directory.session_of_get? hafter]
  exact Session.not_owns_run hle hended moves

/-- A cancel of an idle session changes nothing. -/
theorem run_cancelSession_of_idle (hd : (w.service.directory.sessions.map Session.id).Nodup) {key : SessionKey}
    (ha : (w.session key).isActive = false) : (cancelSession (host again) key).run w = ((), w) := by
  have hinert (s : Session) (hs : w.service.directory.session? key = some s) : s.cancel = (s, []) := by
    have hidle : s.isActive = false := by rwa [HostState.session, Directory.session, hs] at ha
    simp [Session.cancel, hidle]
  cases key with
  | null =>
    have hnull : w.service.directory.session? .null = some w.service.directory.null := rfl
    rw [cancelSession, run_operate, hnull, Option.elim_some, hinert _ rfl]
    rfl
  | listed id => exact run_operate_of_inert again hd hinert

/-- A cancel of the service is one of the current session. -/
theorem run_cancel (again : Taker) (w : HostState) :
    (cancel (host again)).run w = (cancelSession (host again) w.service.directory.currentKey).run w := by
  have hstate : (host again).state.run w = pure (w.service, w) := rfl
  rw [cancel, StateT.run_bind, hstate, pure_bind]

/-! ## A cancel with a piece of text -/

/-- Of some pieces of text of a response, its listeners tell it to stop with the `n`th that they hear, and not before, and then its
generation has ended. -/
structure StoppedWith (again : Taker) (p : Pending Backend) (w : HostState) (texts : List String) (n : Nat) : Prop where
  goes : ∀ i < n, toldToStop p (heardOf again p w (texts.take i)) = false
  stops : toldToStop p (heardOf again p w (texts.take n)) = true
  ended : ((heardOf again p w (texts.take n)).session (.listed p.session)).owns p.generation = false

/-- A response that its listeners stop with its `n`th piece of text is answered well, with just these `n` pieces: nothing comes after
what the listeners made of the last one. -/
theorem run_respond_of_stoppedWith (hprovider : p.provider = .builtIn provider) {n : Nat} (hn : 0 < n)
    (hle : n ≤ ((provider.perform p.request).texts network).length)
    (hs : StoppedWith again p w ((provider.perform p.request).texts network) n)
    (hd : ((heardOf again p w (((provider.perform p.request).texts network).take n)).service.directory.sessions.map
      Session.id).Nodup) :
    (respond again network true p).run w = (.ok, heardOf again p w (((provider.perform p.request).texts network).take n)) := by
  obtain ⟨hend, hview⟩ := (stage_serves again network p).run_of_stopped_after (provider.perform_heeds p.request).2 hn hle
    hs.goes hs.stops
  exact run_respond_of_act ((run_act hprovider true w).trans (Prod.ext hend hview)) hd hs.ended

end Colloquy.Scenario
