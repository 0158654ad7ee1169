import Colloquy.Proofs.Scenario.Sending
import Colloquy.Proofs.Service.Sent

/-!
# Drafts in a host

A host notes what it is told, and by that its listeners know the service: what it holds beside the service, with all that it has
seen, tells of an operation what the operation does and in which order it is announced. So a draft that is sent goes where it
belongs, and is seen to (`sent_draft_moves_once`).
-/

namespace Colloquy

variable {π : Type}

namespace Scenario

/-- What a host holds beside its service, with what it has seen; which numbers it has drawn does not count. -/
def HostState.aside (w : HostState) : HostState :=
  { w with service := {}, drawn := 0 }

/-- What is heard of a host is all that it holds beside its service. It is quiet while no listener is set to take a step. -/
def hearing (w : HostState) : Outlook Backend HostState :=
  ⟨w.service, w.aside, w.hooks = []⟩

/-- How a quiet host takes note: as it does of every announcement, with nobody to take a step. -/
def takeNote (t : HostState) : Note Backend → HostState
  | .announced a service => ((announce (fun _ _ => pure .ok) a).run { t with service }).2.aside
  | .asked _ => t.nextContext.2

/-- What a quiet host makes of an event does not depend on who would take steps, nor on the numbers that it has drawn. -/
theorem aside_hear (again again' : Taker) {w v : HostState} (hq : w.hooks = []) (hv : v.hooks = [])
    (haside : w.aside = v.aside) (kind : EventKind) (session : Option SessionLabel) (event : Event) :
    ((hear again kind session event).run w).2.aside = ((hear again' kind session event).run v).2.aside := by
  rw [run_hear_of_quiet again hq, run_hear_of_quiet again' hv]
  exact congrArg (HostState.note · event) haside

theorem aside_announce (again : Taker) {w : HostState} (hq : w.hooks = []) (a : Announcement) :
    ((announce again a).run w).2.aside = takeNote w.aside (.announced a w.service) := by
  let v : HostState := { w.aside with service := w.service }
  have hquiet : v.hooks = [] := hq
  cases a with
  | sessionCreated id =>
    exact aside_hear again _ (w := (w.watch (.listed id)).2) (v := (v.watch (.listed id)).2) hq hquiet rfl _ _ _
  | sessionSelected key => exact aside_hear again _ hq hquiet rfl _ _ _
  | registered name => exact aside_hear again _ hq hquiet rfl _ _ _
  | unregistered id => exact aside_hear again _ hq hquiet rfl _ _ _
  | assistantSelected id => exact aside_hear again _ hq hquiet rfl _ _ _
  | session key notice =>
    have hread : ∃ kind l event, ∀ again : Taker,
        (announce again (.session key notice)).run w =
          (if w.watched.contains key then hear again kind l event else pure () : Play Unit).run w ∧
        (announce again (.session key notice)).run v =
          (if w.watched.contains key then hear again kind l event else pure () : Play Unit).run v := by
      cases notice <;> exact ⟨_, _, _, fun _ => ⟨rfl, rfl⟩⟩
    obtain ⟨kind, l, event, hrun⟩ := hread
    have hnoted : takeNote w.aside (.announced (.session key notice) w.service) =
        ((announce (fun _ _ => pure .ok) (.session key notice)).run v).2.aside := rfl
    rw [hnoted, (hrun again).1, (hrun _).2]
    split
    · exact aside_hear again _ hq hquiet rfl kind l event
    · rfl

theorem hearing_announce (again : Taker) {w : HostState} (hq : w.hooks = []) (a : Announcement) :
    hearing ((announce again a).run w).2 =
      { hearing w with told := takeNote (hearing w).told (.announced a (hearing w).service) } := by
  obtain ⟨told, hseen⟩ := outlook_announce again hq a
  have hservice : ((announce again a).run w).2.service = w.service := congrArg Outlook.service hseen
  have hquiet : (((announce again a).run w).2.hooks = []) = (w.hooks = []) := congrArg Outlook.isQuiet hseen
  rw [hearing, aside_announce again hq, hservice, hquiet]
  rfl

theorem hearing_nextContext (w : HostState) :
    hearing w.nextContext.2 = { hearing w with told := takeNote (hearing w).told (.asked w.nextContext.1) } := by
  obtain ⟨service, holdsService, underWay, contexts⟩ := w
  cases contexts with
  | none => rfl
  | some contexts => cases contexts <;> rfl

/-- A host shows what it does and hears. -/
theorem host_isHeard (again : Taker) : (host again).IsHeard hearing takeNote where
  state _ := rfl
  setState _ _ := rfl
  announce a _ hq := hearing_announce again hq a
  newId _ := rfl
  newStamp _ := rfl
  context := hearing_nextContext
  newId_setState _ _ := rfl

end Scenario

open Scenario

/-- A send that succeeds moves the draft once, to the right place, in two parts, for every host and every state to which changes of
its service have led.
1. In a host whose listeners leave the service alone, and which draws for a new session an identifier that is not in use, the draft
   of the session that was current is in the request and in the history of the session that is current then, after all that was
   said before, and is no draft any more; nothing else has changed, and what was noted of it is noted in order (`Outlook.Sends`).
   Who is to answer is the assistant that the service says is selected, before and after.
2. So it is with a send of a host at any time when no listener is set to take a step, whatever it, its listeners and its scripts
   have done before. -/
theorem sent_draft_moves_once :
    (∀ (W τ : Type) (host : Host π (StateM W)) (view : W → Outlook π τ) (note : τ → Note π → τ), host.IsHeard view note →
      ∀ w, (view w).service.IsReached → (view w).isQuiet →
        ((view w).service.directory.currentKey = .null →
          (view w).service.directory.get? (host.newId.run w).1 = none) →
        ∀ p, ((Service.send host).run w).1 = .ok p → ∃ context user assistant a,
          (view w).Sends note (host.newId.run w).1 context user assistant p (view ((Service.send host).run w).2) ∧
          ((Service.selected host).run w).1 = some a ∧
          ((Service.selected host).run ((Service.send host).run w).2).1 = some a ∧
          (view ((Service.send host).run w).2).service.roster.provider? a = some p.provider) ∧
    ∀ (network : HttpRequest → Reply) (contexts : Option (List (Option Json))) (steps : List Step) (again : Taker),
      (leave network steps { contexts }).hooks = [] →
      ((leave network steps { contexts }).service.directory.currentKey = .null →
        (leave network steps { contexts }).service.directory.get?
          (HostState.uuidOf (leave network steps { contexts }).drawn) = none) →
      ∀ p, ((Service.send (host again)).run (leave network steps { contexts })).1 = .ok p →
        ∃ context user assistant, (hearing (leave network steps { contexts })).Sends takeNote
          (HostState.uuidOf (leave network steps { contexts }).drawn) context user assistant p
          (hearing ((Service.send (host again)).run (leave network steps { contexts })).2) := by
  refine ⟨?_, ?_⟩
  · intro W τ host view note h w hr hq hfresh p hp
    obtain ⟨context, user, assistant, hsends⟩ := Service.sends h hr hq hfresh hp
    obtain ⟨hbefore, hroster⟩ := hsends.provider
    obtain ⟨a, ha, hprovider⟩ := Option.bind_eq_some_iff.mp hbefore
    refine ⟨context, user, assistant, a, hsends, ?_, ?_, ?_⟩
    · rw [Service.run_selected_fst h, ha]
    · rw [Service.run_selected_fst h, hroster, Roster.selection_heal, ha]
    · rw [hroster]
      exact hprovider
  · intro network contexts steps again hq hfresh p hp
    obtain ⟨d, hd, hservice, -⟩ := exists_docket_leave network contexts steps
    exact Service.sends (host_isHeard again) ⟨d, hd, hservice⟩ hq hfresh hp

/-- A host with one assistant and a draft, which has no session yet. -/
@[irreducible] def drafted : HostState :=
  leave (fun _ => .unreachable) [.register "echo" "Echo" (.builtIn (.echo 0)), .setPrompt "Hi"] { contexts := some [none] }

/-- The draft goes through a new session: it is what the request says, and the history begins with it. -/
theorem draft_through_new_session :
    ∃ p, ((Service.send (host fun _ _ => pure .ok)).run drafted).1 = .ok p ∧ p.request.prompt = "Hi" ∧
      p.request.history = [] ∧
      ((Service.send (host fun _ _ => pure .ok)).run drafted).2.service.directory.null.prompt = "" ∧
      ((Service.send (host fun _ _ => pure .ok)).run drafted).2.service.directory.currentSession.history.map
        Message.content = ["Hi", ""] := by
  have hquiet : drafted.hooks.isEmpty = true := by decide +kernel
  have hkey : drafted.service.directory.currentKey = .null := by decide +kernel
  have hfresh : drafted.service.directory.get? (HostState.uuidOf drafted.drawn) = none := by decide +kernel
  have hbefore : drafted.service.directory.currentSession = Session.null.setPrompt "Hi" := by decide +kernel
  have hsent : ((Service.send (host fun _ _ => pure .ok)).run drafted).1.toOption.isSome = true := by decide +kernel
  obtain ⟨p, hp⟩ : ∃ p, ((Service.send (host fun _ _ => pure .ok)).run drafted).1 = .ok p := by
    cases hresult : ((Service.send (host fun _ _ => pure .ok)).run drafted).1 with
    | error e => rw [hresult] at hsent; cases hsent
    | ok p => exact ⟨p, rfl⟩
  have hmoves := (sent_draft_moves_once (π := Backend)).2 (fun _ => .unreachable) (some [none])
    [.register "echo" "Echo" (.builtIn (.echo 0)), .setPrompt "Hi"] (fun _ _ => pure .ok)
  rw [← drafted] at hmoves
  obtain ⟨context, user, assistant, hsends⟩ := hmoves (List.isEmpty_iff.mp hquiet) (fun _ => hfresh) p hp
  obtain ⟨hopened, -⟩ := hsends.opens hkey
  refine ⟨p, hp, ?_, ?_, ?_, ?_⟩
  · rw [hsends.request]
    exact congrArg Session.prompt hbefore
  · rw [hsends.request]
    exact congrArg Session.history hbefore
  · exact congrArg (·.null.prompt) hopened
  · refine (congrArg (List.map Message.content) hsends.history).trans ?_
    rw [hearing, hbefore]
    rfl

/-- What is seen of it, the latest first: when the session is made its draft is still elsewhere, and when it is selected it has it. -/
example :
    let placeholder := Message.new ⟨HostState.uuidOf 2, default⟩ .assistant ""
    ((Service.send (host fun _ _ => pure .ok)).run drafted).2.events =
      [.response (.nth 0) (some 1) placeholder true, .active (.nth 0) true true (some placeholder), .contextAsked true,
        .sessionSelected (.nth 0) "Hi" (some (.nth 0)), .created (.nth 0) "" (some .null)] := by
  decide +kernel

end Colloquy
