import Colloquy.Proofs.Session.Directory
import Colloquy.Proofs.Session.Requests
import Colloquy.Scenario.Play

/-!
# Generations that have ended

A generation ends when it is cancelled, answered to its end, or dropped, and only then can the next one begin. Whoever has its
response may go on with it: it may emit text, and be answered or dropped, and all that changes nothing. In a host, nothing at all
changes by it, and no listener is called.
-/

namespace Colloquy

variable {π : Type}

open Session in
/-- A generation that was started is the active one until it has ended. -/
theorem Session.owns_eq_false_iff (id : Uuid) (moves : List (Move π)) {p : Pending π} (hp : p ∈ (new id).handedOut moves) :
    ((new id).run moves).owns p.generation = false ↔ hasEnded p.generation ((new id).carriedOut moves) = true := by
  have h := ToldBy.run id moves
  have hmem := List.mem_map_of_mem (f := Pending.generation) hp
  rw [map_generation_handedOut, List.mem_range'_1, h.generation] at hmem
  rw [h.ended p.generation (by omega) (by omega)]
  simp

namespace Scenario

/-- An operation reads the session of a key, puts it back, and tells the observers. -/
theorem run_operate (again : Taker) (w : HostState) (key : SessionKey) (operation : Session → Session × List Notice) :
    (Service.operate (host again) key operation).run w =
      (w.service.directory.session? key).elim ((), w) fun s =>
        (Service.deliver (host again) key (operation s).2).run
          { w with service.directory := w.service.directory.put key (operation s).1 } := by
  have hstate : (host again).state.run w = pure (w.service, w) := rfl
  rw [Service.operate, StateT.run_bind, hstate, pure_bind]
  dsimp only
  cases w.service.directory.session? key <;> rfl

/-- An operation that would leave the session of a key as it is leaves the whole host as it is. -/
theorem run_operate_of_inert (again : Taker) {w : HostState} {id : Uuid} {operation : Session → Session × List Notice}
    (hd : (w.service.directory.sessions.map Session.id).Nodup)
    (ho : ∀ s, w.service.directory.session? (.listed id) = some s → operation s = (s, [])) :
    (Service.operate (host again) (.listed id) operation).run w = ((), w) := by
  rw [run_operate]
  cases hs : w.service.directory.session? (.listed id) with
  | none => rfl
  | some s =>
    rw [Option.elim_some, ho s hs, Directory.put_of_get? hd hs]
    rfl

section Inert

variable (again : Taker) {w : HostState} {p : Pending Backend}
  (hd : (w.service.directory.sessions.map Session.id).Nodup) (ho : (w.session (.listed p.session)).owns p.generation = false)

include hd ho

theorem run_takeDelta_of_not_owns (text : String) : (Service.takeDelta (host again) p text).run w = ((), w) := by
  refine run_operate_of_inert again hd fun s hs => ?_
  rw [HostState.session, Directory.session, hs, Option.getD_some] at ho
  simp [Session.applyDelta, ho]

theorem run_settle_of_not_owns (error : Option Error) : (Service.settle (host again) p error).run w = ((), w) := by
  refine run_operate_of_inert again hd fun s hs => ?_
  rw [HostState.session, Directory.session, hs, Option.getD_some] at ho
  simp [Session.settle, ho]

end Inert

/-- Answering a response gives what its provider gives. -/
theorem run_respond {W : Type} (host : Host π (StateM W)) (answer : Pending π → StateM W Outcome) (p : Pending π) (w : W) :
    ∃ error, (Service.respond host answer p).run w =
      (((answer p).run w).1, ((Service.settle host p error).run ((answer p).run w).2).2) := by
  rw [Service.respond, StateT.run_bind]
  generalize (answer p).run w = r
  obtain ⟨outcome, v⟩ := r
  cases outcome with
  | finished result =>
    cases result with
    | ok u => exact ⟨none, rfl⟩
    | error e => exact ⟨some e, rfl⟩
  | brokeDown => exact ⟨none, rfl⟩
  | unfinished => exact ⟨none, rfl⟩

end Scenario

open Scenario

/-- What becomes of a generation that has ended, in five parts, for all moves in any order and for every host.
1. A generation is no longer the active one just when it was cancelled, answered to its end, or dropped since its start.
2. When a later generation was started, it has ended.
3. From then on, whatever else is done, every further act of its own (a piece of text, an end with success or with any error, a
   drop) leaves the session as it is, with nothing to tell the observers, though another generation may be active.
4. In a host whose sessions have identifiers of their own, such an act changes nothing whatever: no other session, nothing that
   the host holds or has seen, and no listener is called, whatever the listeners would do.
5. Answering a response gives the result of its provider; if the generation has ended by then, nothing else comes of its end. -/
theorem ended_generation_is_inert :
    (∀ (id : Uuid) (moves : List (Move π)), ∀ p ∈ (Session.new id).handedOut moves,
      (((Session.new id).run moves).owns p.generation = false ↔
        hasEnded p.generation ((Session.new id).carriedOut moves) = true) ∧
      (p.generation < ((Session.new id).run moves).generation →
        hasEnded p.generation ((Session.new id).carriedOut moves) = true) ∧
      (hasEnded p.generation ((Session.new id).carriedOut moves) = true →
        ∀ (later : List (Move π)) (m : Move π), m.isBy p.generation = true →
          ((Session.new id).run (moves ++ later)).take m = { session := (Session.new id).run (moves ++ later) })) ∧
    (∀ (again : Taker) (w : HostState) (p : Pending Backend),
      (w.service.directory.sessions.map Session.id).Nodup → (w.session (.listed p.session)).owns p.generation = false →
        (∀ text, (Service.takeDelta (host again) p text).run w = ((), w)) ∧
        ∀ error, (Service.settle (host again) p error).run w = ((), w)) ∧
    ∀ (again : Taker) (answer : Pending Backend → Play Outcome) (w : HostState) (p : Pending Backend),
      ((Service.respond (host again) answer p).run w).1 = ((answer p).run w).1 ∧
      ((((answer p).run w).2.service.directory.sessions.map Session.id).Nodup →
        (((answer p).run w).2.session (.listed p.session)).owns p.generation = false →
          (Service.respond (host again) answer p).run w = (answer p).run w) := by
  refine ⟨?_, ?_, ?_⟩
  · intro id moves p hp
    have hiff := Session.owns_eq_false_iff id moves hp
    refine ⟨hiff, ?_, ?_⟩
    · intro hlt
      have hne : ((Session.new id).run moves).generation ≠ p.generation := by omega
      exact hiff.mp (by simp [Session.owns, hne])
    · intro he later m hm
      have hle := (Session.beginsWith_run id moves p hp).generation
      rw [Session.run_append]
      exact Session.take_of_not_owns (Session.not_owns_run hle (hiff.mpr he) later) hm
  · intro again w p hd ho
    exact ⟨run_takeDelta_of_not_owns again hd ho, run_settle_of_not_owns again hd ho⟩
  · intro again answer w p
    obtain ⟨error, hrun⟩ := run_respond (host again) answer p w
    rw [hrun]
    refine ⟨rfl, ?_⟩
    intro hd ho
    rw [run_settle_of_not_owns again hd ho]
    rfl

/-- A session in which a generation was cancelled and another one has begun. -/
def cancelledAndRestarted : List (Move Backend) :=
  [.start (some default) none default default, .delta 1 "One", .cancel, .start (some default) none default default,
    .delta 2 "Two"]

/-- A host of this session. -/
def hostOfRestarted : HostState :=
  { service.directory.sessions := [(Session.new .nil).run cancelledAndRestarted] }

/-- The response of the generation that was cancelled. -/
def cancelledPending : Pending Backend :=
  ⟨.nil, 1, default, ⟨"", [], none⟩⟩

/-- The cancelled generation fails while the other one is active, and nothing comes of it, in the session or in its host. -/
theorem cancelled_generation_fails_unheard :
    hasEnded 1 ((Session.new .nil).carriedOut cancelledAndRestarted) = true ∧
      ((Session.new .nil).run cancelledAndRestarted).owns 2 = true ∧
      ((Session.new .nil).run cancelledAndRestarted).take (.finish 1 (.error (.api .missingBody)) : Move Backend) =
        { session := (Session.new .nil).run cancelledAndRestarted } ∧
      (Service.settle (host fun _ _ => pure .ok) cancelledPending (some (.api .missingBody))).run hostOfRestarted =
        ((), hostOfRestarted) := by
  have hended : hasEnded 1 ((Session.new .nil).carriedOut cancelledAndRestarted) = true := rfl
  obtain ⟨hsession, hhost, -⟩ := ended_generation_is_inert (π := Backend)
  have h := (hsession .nil cancelledAndRestarted cancelledPending (.head _)).2.2 hended
  have hnodup : (hostOfRestarted.service.directory.sessions.map Session.id).Nodup := List.nodup_singleton _
  exact ⟨hended, rfl, h [] (.finish 1 (.error (.api .missingBody))) rfl, (hhost _ hostOfRestarted cancelledPending hnodup rfl).2 _⟩

end Colloquy
