import Colloquy.Proofs.Scenario.Sessions
import Colloquy.Proofs.Service.Refusal

/-!
# Sending in a host

When no listener of a host is set to take a step, what the service does is all that happens to it. So a send of this host fails
just when it should, and then leaves nothing behind (`send_fails_cleanly`).
-/

namespace Colloquy

variable {π : Type}

namespace Scenario

/-- What is seen of a host. What its listeners and scripts were told is all that it noted, but for the contexts that it was asked
for; it is quiet while no listener is set to take a step. -/
def outlook (w : HostState) : Outlook Backend (List Event) where
  service := w.service
  told := w.events.filter fun
    | .contextAsked _ => false
    | _ => true
  isQuiet := w.hooks = []

/-- Hooks for which an event does not count: none is due, and all go on waiting as they were. -/
theorem count_of_unheard {kind : EventKind} {session : Option SessionLabel} {hooks : List Hook}
    (hu : ∀ h ∈ hooks, h.hears kind session = false) :
    hooks.filter (fun h => h.hears kind session && decide (h.seen + 1 = h.nth)) = [] ∧
      (hooks.filter fun h => !(h.hears kind session && decide (h.seen + 1 = h.nth))).map
        (fun h => if h.hears kind session then { h with seen := h.seen + 1 } else h) = hooks := by
  have hkept : (hooks.filter fun h => !(h.hears kind session && decide (h.seen + 1 = h.nth))) = hooks :=
    List.filter_eq_self.mpr fun h hh => by simp [hu h hh]
  refine ⟨List.filter_eq_nil_iff.mpr fun h hh => by simp [hu h hh], ?_⟩
  rw [hkept]
  exact (List.map_congr_left fun h hh => by simp [hu h hh]).trans (List.map_id' hooks)

/-- An event that counts for nobody leaves all hooks as they are. -/
theorem countHooks_of_unheard {w : HostState} {kind : EventKind} {session : Option SessionLabel}
    (hu : ∀ h ∈ w.hooks, h.hears kind session = false) : w.countHooks kind session = ([], w) := by
  obtain ⟨hdue, hwaiting⟩ := count_of_unheard hu
  simp only [HostState.countHooks, hdue, hwaiting]

/-- Nobody takes a step when an event is noted that counts for nobody. -/
theorem run_hear_of_unheard (again : Taker) {w : HostState} {kind : EventKind} {session : Option SessionLabel}
    (hu : ∀ h ∈ w.hooks, h.hears kind session = false) (event : Event) :
    (hear again kind session event).run w = ((), w.note event) := by
  have hrun : (hear again kind session event).run w =
      (runHooks again ((w.note event).countHooks kind session).1).run ((w.note event).countHooks kind session).2 := rfl
  rw [hrun, countHooks_of_unheard (w := w.note event) hu]
  rfl

/-- Nobody takes a step when an event is noted in a quiet host. -/
theorem run_hear_of_quiet (again : Taker) {w : HostState} (hq : w.hooks = []) (kind : EventKind)
    (session : Option SessionLabel) (event : Event) : (hear again kind session event).run w = ((), w.note event) :=
  run_hear_of_unheard again (fun _ hh => absurd hh (hq ▸ List.not_mem_nil)) event

theorem outlook_hear (again : Taker) {w : HostState} (hq : w.hooks = []) (kind : EventKind)
    (session : Option SessionLabel) (event : Event) :
    ∃ told, outlook ((hear again kind session event).run w).2 = { outlook w with told } := by
  rw [run_hear_of_quiet again hq]
  exact ⟨_, rfl⟩

theorem outlook_announce (again : Taker) {w : HostState} (hq : w.hooks = []) (a : Announcement) :
    ∃ told, outlook ((announce again a).run w).2 = { outlook w with told } := by
  cases a with
  | sessionCreated id => exact outlook_hear again (w := (w.watch (.listed id)).2) hq _ _ _
  | sessionSelected key => exact outlook_hear again hq _ _ _
  | registered name => exact outlook_hear again hq _ _ _
  | unregistered id => exact outlook_hear again hq _ _ _
  | assistantSelected id => exact outlook_hear again hq _ _ _
  | session key notice =>
    have hread : ∃ kind l event, (announce again (.session key notice)).run w =
        (if w.watched.contains key then hear again kind l event else pure () : Play Unit).run w := by
      cases notice <;> exact ⟨_, _, _, rfl⟩
    obtain ⟨kind, l, event, hrun⟩ := hread
    rw [hrun]
    split
    · exact outlook_hear again hq kind l event
    · exact ⟨_, rfl⟩

theorem outlook_nextContext (w : HostState) : outlook w.nextContext.2 = outlook w := by
  unfold HostState.nextContext
  split <;> rfl

/-- A host shows what it does. -/
theorem host_isSeen (again : Taker) : (host again).IsSeen outlook where
  state _ := rfl
  setState _ _ := rfl
  announce a _ hq := outlook_announce again hq a
  newId _ := rfl
  newStamp _ := rfl
  context := outlook_nextContext
  newId_setState _ _ := rfl

end Scenario

open Scenario

/-- How a send fails, in two parts, for every host and every state to which changes of its service have led.
1. In a host whose listeners leave the service alone, and which draws for a new session an identifier that is not in use, a send
   fails just when there is no assistant or the current session is active, and then leaves nothing behind but the selection of an
   assistant, healed, and in the latter case one question for a context.
2. So does a send of a host at any time when no listener is set to take a step, whatever it, its listeners and its scripts have
   done before. -/
theorem send_fails_cleanly :
    (∀ (W τ : Type) (host : Host π (StateM W)) (view : W → Outlook π τ), host.IsSeen view →
      ∀ w, (view w).service.IsReached → (view w).isQuiet →
        ((view w).service.directory.currentKey = .null →
          (view w).service.directory.get? (host.newId.run w).1 = none) →
        Service.SendsCleanly host view w) ∧
    ∀ (network : HttpRequest → Reply) (contexts : Option (List (Option Json))) (steps : List Step) (again : Taker),
      (leave network steps { contexts }).hooks = [] →
      ((leave network steps { contexts }).service.directory.currentKey = .null →
        (leave network steps { contexts }).service.directory.get?
          (HostState.uuidOf (leave network steps { contexts }).drawn) = none) →
      Service.SendsCleanly (host again) outlook (leave network steps { contexts }) := by
  refine ⟨?_, ?_⟩
  · intro W τ host view h w hr hq hfresh
    exact Service.sendsCleanly h hr hq hfresh
  · intro network contexts steps again hq hfresh
    obtain ⟨d, hd, hservice, -⟩ := exists_docket_leave network contexts steps
    exact Service.sendsCleanly (host_isSeen again) ⟨d, hd, hservice⟩ hq hfresh

/-- A roster of one assistant, which has not been selected yet. -/
def echoRoster : Roster Backend :=
  { entries := [⟨"echo", "Echo", default, 0⟩] }

/-- A docket whose only session is current and active. -/
def busyDocket : Docket Backend :=
  Docket.moved { service := { roster := echoRoster, directory := { Directory.add {} .nil with current := some .nil } } }
    (.listed .nil) (.start (some default) none default default) 0

/-- A host of the service of this docket, with one context prepared. -/
def busyHost : HostState :=
  { service := busyDocket.service, contexts := some [none] }

theorem busyDocket_isReached : busyDocket.IsReached := by
  have hroster : Docket.IsReached ({ service := { roster := echoRoster } } : Docket Backend) :=
    (Docket.Changes.replaces echoRoster).leads
  have hsession := hroster.trans (Docket.Changes.adds .nil).leads
  have hselected := hsession.trans (Docket.Changes.selects (some .nil) _ rfl).leads
  exact Docket.IsReached.moved hselected (.listed .nil) (.start (some default) none default default) (zero_add 0).symm rfl

/-- A busy host does not send its draft, and only heals the selection of its assistant; a new host does not send it either. -/
theorem busyHost_does_not_send :
    ((Service.send (host fun _ _ => pure .ok)).run busyHost).1 =
        .error (.session "A response is already being generated for this session") ∧
      outlook ((Service.send (host fun _ _ => pure .ok)).run busyHost).2 =
        { outlook busyHost with
          service := { busyDocket.service with roster := { echoRoster with selected := some "echo" } } } ∧
      ((Service.send (host fun _ _ => pure .ok)).run (leave (fun _ => .unreachable) [] {})).1 =
        .error (.config "Can't provide chat response: No assistant selected") := by
  obtain ⟨hany, hleft⟩ := send_fails_cleanly (π := Backend)
  have hbusy := hany _ _ _ _ (host_isSeen fun _ _ => pure .ok) busyHost ⟨_, busyDocket_isReached, rfl⟩ rfl nofun
  have hnew := hleft (fun _ => .unreachable) none [] (fun _ _ => pure .ok) rfl fun _ => rfl
  have hfails := (hbusy.fails_iff _).mpr (.inr ⟨List.cons_ne_nil _ _, ⟨_, rfl, rfl⟩, rfl⟩)
  exact ⟨hfails, hbusy.unseen _ hfails, (hnew.fails_iff _).mpr (.inl ⟨rfl, rfl⟩)⟩

end Colloquy
