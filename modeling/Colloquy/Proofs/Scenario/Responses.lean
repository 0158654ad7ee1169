import Colloquy.Proofs.Scenario.Sessions
import Colloquy.Proofs.Service.Balance

/-!
# The responses of a service

Two things hold of the responses that the sessions of a service hand out, whatever is done to the service and by whom. Each was
asked what the history of its session begins with, then and ever after (`requests_stay_prefixes`). And a session is active just
as long as the response of its current generation is in somebody's hands, and not cancelled (`active_iff_outstanding`).
-/

namespace Colloquy

variable {π : Type}

open Scenario

/-- The requests that were issued, in three parts, for all moves in any order and for every service.
1. What a session asked with the response of generation `g` is what its history begins with, after all that was done since: the
   `2 * (g - 1)` messages before the prompt, and then the prompt, as the content of the next message.
2. In a service this holds of every response that any of its sessions ever handed out, whether it is still outstanding or not.
3. So it does of every response that a host keeps, whatever the host, its listeners and its scripts have done. -/
theorem requests_stay_prefixes :
    (∀ (id : Uuid) (moves : List (Move π)), ∀ p ∈ (Session.new id).handedOut moves,
      p.request.history = ((Session.new id).run moves).history.take (2 * (p.generation - 1)) ∧
      ((Session.new id).run moves).history[2 * (p.generation - 1)]?.map Message.content = some p.request.prompt) ∧
    (∀ d : Docket π, d.IsReached → ∀ p ∈ d.issued,
      ∃ s, d.service.directory.get? p.session = some s ∧ s.BeginsWith p) ∧
    ∀ (network : HttpRequest → Reply) (contexts : Option (List (Option Json))) (steps : List Step),
      ∀ e ∈ (leave network steps { contexts }).pendings,
        ∃ s, (leave network steps { contexts }).service.directory.get? e.2.session = some s ∧ s.BeginsWith e.2 := by
  have hissued {π : Type} {d : Docket π} (hd : d.IsReached) {p : Pending π} (hp : p ∈ d.issued) :
      ∃ s, d.service.directory.get? p.session = some s ∧ s.BeginsWith p := by
    obtain ⟨s, hs, -, hbegins⟩ := hd.isRecord.exists_beginsWith hp
    exact ⟨s, hs, hbegins⟩
  refine ⟨?_, fun d hd p hp => hissued hd hp, ?_⟩
  · intro id moves p hp
    have h := Session.beginsWith_run id moves p hp
    exact ⟨h.history, h.prompt⟩
  · intro network contexts steps e he
    obtain ⟨d, hd, hservice, hkept⟩ := exists_docket_leave network contexts steps
    rw [← hservice]
    refine hissued hd (hd.isBalanced.mem_issued ?_)
    rw [hkept]
    exact Multiset.mem_coe.mpr (List.mem_map_of_mem he)

/-- A session with two generations, the first of which failed after the second had been asked. -/
def askedTwice : List (Move Unit) :=
  [.setPrompt "One?", .start (some ()) none default default, .delta 1 "One.", .cancel, .setPrompt "Two?",
    .start (some ()) none default default, .delta 1 "late", .finish 1 (.error (.api .missingBody)), .delta 2 "Two."]

/-- What the second generation was asked still stands at the beginning of the history. -/
theorem askedTwice_begins_with_request :
    ∃ p ∈ (Session.new .nil).handedOut askedTwice, p.generation = 2 ∧ p.request.prompt = "Two?" ∧
      p.request.history = ((Session.new .nil).run askedTwice).history.take 2 ∧
      ((Session.new .nil).run askedTwice).history[2]?.map Message.content = some "Two?" := by
  refine ⟨_, .tail _ (.head _), rfl, rfl, ?_⟩
  exact requests_stay_prefixes.1 .nil askedTwice _ (.tail _ (.head _))

/-- Who keeps a session active, in four parts.
1. Whatever was done to a service, in whatever order, a session is active just if the response of its current generation is
   outstanding, that is, neither answered to its end nor dropped, and no cancel has ended this generation. A response is
   outstanding from the moment at which its generation begins, also while observers are being told of that. The null session,
   which has no responses, is never active.
2. The generation of a response that is no longer outstanding is not the active one, and its session starts the next response
   that it is asked for, unless a newer generation is active in it.
3. A host, whatever it, its listeners and its scripts do, leaves the service as such changes lead to it, and the responses that it
   keeps then are the outstanding ones.
4. At any other time, within whatever steps of listeners and scripts, a response that is being answered is outstanding, until it
   has been answered or is dropped. -/
theorem active_iff_outstanding :
    (∀ d : Docket π, d.IsReached → d.service.directory.null.isActive = false ∧
      ∀ s ∈ d.service.directory.sessions, s.isActive = true ↔ ∃ p ∈ d.outstanding, p.session = s.id ∧
        p.generation = s.generation ∧ (p.session, p.generation) ∉ d.cancelled) ∧
    (∀ d : Docket π, d.IsReached → ∀ p ∈ d.issued, p ∉ d.outstanding →
      ∃ s, d.service.directory.get? p.session = some s ∧ s.owns p.generation = false ∧
        ∀ (provider : π) (context : Option Json) (user assistant : Stamp),
          (∃ r, s.start (some provider) context user assistant = .ok r) ∨
            s.isActive = true ∧ p.generation < s.generation) ∧
    (∀ (network : HttpRequest → Reply) (contexts : Option (List (Option Json))) (steps : List Step),
      ∃ d : Docket Backend, d.IsReached ∧ d.service = (leave network steps { contexts }).service ∧
        d.outstanding = ((leave network steps { contexts }).pendings.map Prod.snd : List (Pending Backend))) ∧
    ∀ (network : HttpRequest → Reply) (depth : Nat) (patient : Bool) (p : Pending Backend),
      (∀ acts, desk.Trades {p} (follow (perform network depth) patient p acts) fun _ => {p}) ∧
      (desk.Trades {p} (respond (perform network depth) network patient p) fun _ => 0) ∧
      desk.Trades {p} (Service.settle (host (perform network depth)) p none) fun _ => 0 := by
  refine ⟨?_, ?_, exists_docket_leave, ?_⟩
  · intro d hd
    exact ⟨hd.isRecord.null.2, hd.isBalanced.active⟩
  · intro d hd p hp hout
    obtain ⟨s, hs, hnull, hbegins⟩ := hd.isRecord.exists_beginsWith hp
    have ho := hd.isBalanced.owns_eq_false hp hout hs
    refine ⟨s, hs, ho, ?_⟩
    intro provider context user assistant
    cases ha : s.isActive with
    | false => exact .inl (Session.exists_start hnull ha provider context user assistant)
    | true =>
      have hne : s.generation ≠ p.generation := fun he => by simp [Session.owns, ha, he] at ho
      exact .inr ⟨rfl, Nat.lt_of_le_of_ne hbegins.generation hne.symm⟩
  · intro network depth patient p
    have ha := advances_perform network depth
    refine ⟨?_, trades_respond ha network patient p, Service.trades_settle (host_keeps ha) p none⟩
    intro acts
    exact (advances_follow ha patient p acts).frame {p}

/-- The first response of a session, to an empty draft. -/
def overtakenPending : Pending Unit :=
  ⟨.nil, 1, (), "", [], none⟩

/-- The second response of that session. -/
def overtakingPending : Pending Unit :=
  ⟨.nil, 2, (), "", [.new default .user "", .new default .assistant ""], none⟩

/-- A docket with one session, of which the first response was cancelled and, after the second had begun, dropped. -/
def overtakenDocket : Docket Unit :=
  let start : Move Unit := .start (some ()) none default default
  let started := Docket.moved { service.directory := .add {} .nil } (.listed .nil) start 0
  let restarted := (started.moved (.listed .nil) .cancel started.outstanding).moved (.listed .nil) start started.outstanding
  restarted.moved (.listed .nil) (.drop 1) {overtakingPending}

theorem overtakenDocket_isReached : overtakenDocket.IsReached := by
  have hnew : Docket.IsReached ({ service.directory := .add {} .nil } : Docket Unit) := (Docket.Changes.adds .nil).leads
  have hstarted := hnew.moved (.listed .nil) (.start (some ()) none default default) (zero_add 0).symm rfl
  have hcancelled := hstarted.moved (.listed .nil) .cancel (zero_add _).symm rfl
  have hrestarted := hcancelled.moved (.listed .nil) (.start (some ()) none default default) (zero_add _).symm rfl
  have hboth : _ = ({overtakenPending} + {overtakingPending} : Multiset (Pending Unit)) := Multiset.add_comm _ _
  exact hrestarted.moved (.listed .nil) (.drop 1) hboth ⟨_, rfl, rfl, rfl⟩

/-- The session stays active for the second response, and the first one has no say in it. -/
theorem overtakenDocket_active_by_second :
    (∃ p ∈ overtakenDocket.outstanding, p.session = .nil ∧ p.generation = 2 ∧
        (p.session, p.generation) ∉ overtakenDocket.cancelled) ∧
      ∃ s, overtakenDocket.service.directory.get? .nil = some s ∧ s.owns 1 = false ∧ s.isActive = true := by
  have hd := overtakenDocket_isReached
  have hout : overtakenPending ∉ overtakenDocket.outstanding := fun h =>
    absurd (congrArg Pending.generation (Multiset.mem_singleton.mp h)) (by decide)
  obtain ⟨hactive, hspent, -⟩ := active_iff_outstanding (π := Unit)
  obtain ⟨s, hs, ho, -⟩ := hspent _ hd overtakenPending (.head _) hout
  have ha : s.isActive = true := by
    cases hs
    rfl
  have hopen := ((hactive _ hd).2 s (Directory.mem_of_get? hs)).mp ha
  cases hs
  exact ⟨hopen, _, rfl, ho, rfl⟩

end Colloquy
