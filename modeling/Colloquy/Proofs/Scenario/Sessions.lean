import Colloquy.Proofs.Scenario.Reach
import Colloquy.Proofs.Session.Shape

/-!
# The sessions of a service

Every session that a service lists, whatever was done to the service and by whom, is a new session that has taken some moves:
what holds of all those holds of it. The main statement is `session_shape`.
-/

namespace Colloquy

variable {π : Type}

/-- A session that has been new and has taken moves since. -/
def Session.IsPlayed (π : Type) (s : Session) : Prop :=
  ∃ (id : Uuid) (moves : List (Move π)), s = (Session.new id).run moves

theorem Session.IsPlayed.take {s : Session} (h : s.IsPlayed π) (m : Move π) : (s.take m).session.IsPlayed π := by
  obtain ⟨id, moves, rfl⟩ := h
  exact ⟨id, moves ++ [m], (run_concat _ _ _).symm⟩

/-- A change keeps that all listed sessions have been played. -/
theorem Docket.Changes.isPlayed {d e : Docket π} (h : d.Changes e)
    (hs : ∀ x ∈ d.service.directory.sessions, x.IsPlayed π) : ∀ x ∈ e.service.directory.sessions, x.IsPlayed π := by
  cases h with
  | replaces roster => exact hs
  | moves key m spent rest _ _ =>
    intro x hx
    rcases Directory.mem_sessions_change hx with ⟨hx, -⟩ | ⟨s, -, hget, rfl⟩
    · exact hs x hx
    · exact (hs s (Directory.mem_of_get? hget)).take m
  | adds id =>
    intro x hx
    rcases List.mem_append.mp hx with hx | hx
    · exact hs x hx
    · exact ⟨id, [], List.mem_singleton.mp hx⟩
  | selects target directory hd =>
    obtain rfl := Directory.select_eq hd
    exact hs

/-- Every session that is listed has been played. -/
theorem Docket.IsReached.isPlayed {d : Docket π} (h : d.IsReached) : ∀ s ∈ d.service.directory.sessions, s.IsPlayed π :=
  h.keeps (fun _ _ => Docket.Changes.isPlayed) fun _ hs => absurd hs List.not_mem_nil

/-- Whatever a host does, with listeners and scripts that use the service in return, changes lead to the state in which it leaves
the service, and the responses that it keeps are those that are outstanding then. -/
theorem Scenario.exists_docket_leave (network : HttpRequest → Reply) (contexts : Option (List (Option Json)))
    (steps : List Step) : ∃ d : Docket Backend, d.IsReached ∧
      d.service = (leave network steps { contexts }).service ∧
      d.outstanding = ((leave network steps { contexts }).pendings.map Prod.snd : List (Pending Backend)) := by
  have hstart : desk.Accounts { contexts } (0 + 0) {} :=
    ⟨.refl _, ⟨List.nodup_nil, fun _ hn => absurd hn List.not_mem_nil⟩, rfl, rfl⟩
  obtain ⟨d, -, hd⟩ := leads_leave network steps { contexts } {} 0 hstart
  exact ⟨d, hd.reached, hd.service, by rw [hd.outstanding, add_zero, add_zero]; rfl⟩

/-- Whatever a host does, with listeners and scripts that use the service in return, the listed sessions have been played. -/
theorem Scenario.isPlayed_of_mem_sessions (network : HttpRequest → Reply) (contexts : Option (List (Option Json)))
    (steps : List Step) :
    ∀ s ∈ (leave network steps { contexts }).service.directory.sessions, s.IsPlayed Backend := by
  obtain ⟨d, hd, hs, -⟩ := exists_docket_leave network contexts steps
  rw [← hs]
  exact hd.isPlayed

/-- The shape of every session, in six parts, for all moves in any order and for the sessions of every service.
1. There are two messages for each generation, the user's at even positions and the assistant's at odd ones; an error marks
   none of the user's.
2. The number of the latest generation is the number of starts that succeeded.
3. The newest message of an active session is the one that the latest start put there, and no error marks it.
4. A response that was handed out can still change the history just when its generation is the latest and the session is active.
5. So no two of them can.
6. A session of a service, whatever its host does in whatever listener, is as moves have left it. -/
theorem session_shape :
    (∀ (id : Uuid) (moves : List (Move π)),
      ((Session.new id).run moves).Shape ∧
      ((Session.new id).run moves).generation = (stamps ((Session.new id).carriedOut moves)).length ∧
      (((Session.new id).run moves).isActive = true → ∃ m stamp, ((Session.new id).run moves).last? = some m ∧
        (stamps ((Session.new id).carriedOut moves)).getLast? = some stamp ∧
        m.id = stamp.id ∧ m.timestamp = stamp.time ∧ m.role = .assistant ∧ m.error = none) ∧
      (∀ p ∈ (Session.new id).handedOut moves, ((Session.new id).run moves).CanBeChangedBy p ↔
        ((Session.new id).run moves).isActive = true ∧ p.generation = ((Session.new id).run moves).generation) ∧
      ((Session.new id).handedOut moves).Pairwise fun p q =>
        ¬(((Session.new id).run moves).CanBeChangedBy p ∧ ((Session.new id).run moves).CanBeChangedBy q)) ∧
    ∀ (network : HttpRequest → Reply) (contexts : Option (List (Option Json))) (steps : List Scenario.Step),
      ∀ s ∈ (Scenario.leave network steps { contexts }).service.directory.sessions, s.IsPlayed Scenario.Backend := by
  refine ⟨fun id moves => ?_, Scenario.isPlayed_of_mem_sessions⟩
  have hshape := Session.shape_run id moves
  have htold := Session.ToldBy.run id moves
  have hnumbers := Session.map_generation_handedOut id moves
  have hle : ∀ p ∈ (Session.new id).handedOut moves, p.generation ≤ ((Session.new id).run moves).generation := by
    intro p hp
    have hmem := List.mem_map_of_mem (f := Pending.generation) hp
    rw [hnumbers, List.mem_range'_1] at hmem
    omega
  have hcan := fun p hp => Session.canBeChangedBy_iff hshape (hle p hp)
  have hincreasing : ((Session.new id).handedOut moves).Pairwise fun p q => p.generation < q.generation := by
    rw [← List.pairwise_map (f := Pending.generation), hnumbers]
    exact List.pairwise_lt_range'
  refine ⟨hshape, htold.generation, htold.last, hcan, hincreasing.imp_of_mem fun {p q} hp hq hlt hboth => ?_⟩
  have hp' := ((hcan p hp).mp hboth.1).2
  have hq' := ((hcan q hq).mp hboth.2).2
  omega

/-- A session that was cancelled and started again. -/
def restarted : List (Move Unit) :=
  [.start (some ()) none default ⟨.ofNat 1, default⟩, .delta 1 "One", .cancel,
    .start (some ()) none default ⟨.ofNat 2, default⟩]

/-- The newest message of the session is that of the second start, and no error marks it. -/
theorem restarted_session_last :
    ((Session.new .nil).run restarted).isActive = true ∧
      ∃ m, ((Session.new .nil).run restarted).last? = some m ∧ m.id = .ofNat 2 ∧ m.error = none := by
  obtain ⟨-, -, hlast, -, -⟩ := session_shape.1 .nil restarted
  obtain ⟨m, stamp, hm, hstamp, hid, -, -, he⟩ := hlast rfl
  refine ⟨rfl, m, hm, ?_, he⟩
  cases hstamp
  exact hid

end Colloquy
