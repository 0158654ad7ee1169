import Colloquy.Proofs.Scenario.Drafts
import Colloquy.Proofs.Service.Observers

/-!
# Observed sessions

What the observers of a session hear is settled by the moves of the session (`observers_hear_the_accounts`): in the session, in every
host whose listeners leave the service alone, and so in the host that plays scenarios.
-/

namespace Colloquy

variable {π : Type}

/-- A start that fails leaves the session as it is, and nobody hears of it. -/
theorem Session.take_of_failed_start {s : Session} {m : Move π} (hm : m.isStart = true) (hf : (s.take m).started = none) :
    s.take m = { session := s } := by
  cases m with
  | start provider context user assistant =>
    cases hstart : s.start provider context user assistant with
    | error e => simp only [take, hstart]
    | ok r => simp [take, hstart] at hf
  | _ => cases hm

/-- A cancel of an idle session leaves it as it is, and nobody hears of it. -/
theorem Session.take_cancel_of_idle {s : Session} (ha : s.isActive = false) :
    s.take (.cancel : Move π) = { session := s } := by
  simp [take, cancel, ha]

open Scenario

/-- What the observers of a session hear if they leave it alone, in three parts, for all moves in any order.
1. For every generation they hear what the log tells of it (`account`), one generation after the other, and nothing else: that the
   session is active; the message without a text, and again with each piece that is put to it; and when the generation has ended,
   in whatever way, that the session is idle, and the message once more, which is marked just if it was an error that ended it. So
   they hear by turns that it is active and that it is idle, and the last of this is how it is.
2. Whatever they hear of a move is true of the session as the move leaves it. A start that fails, a cancel of an idle session, and
   what a generation does that is not the active one change nothing, and nobody hears of them.
3. In every host whose listeners leave the service alone, whatever moves of whatever sessions it makes, the observers of a session
   hear just this of the moves of this session, in this order, and find the service as it is told when they hear it. -/
theorem observers_hear_the_accounts :
    (∀ (id : Uuid) (moves : List (Move π)),
      (Session.new id).heard moves = accounts ((Session.new id).carriedOut moves) ∧
      ((Session.new id).heard moves).filterMap Notice.value? =
        turnsOfActivity ((Session.new id).run moves).changesOfActivity ∧
      (0 < ((Session.new id).run moves).generation →
        (((Session.new id).heard moves).filterMap Notice.value?).getLast? = some ((Session.new id).run moves).isActive)) ∧
    (∀ (s : Session) (m : Move π),
      (∀ n ∈ (s.take m).notices, n.Holds (s.take m).session) ∧
      (m.isStart = true → (s.take m).started = none → s.take m = { session := s }) ∧
      (s.isActive = false → s.take (.cancel : Move π) = { session := s }) ∧
      ∀ g, s.owns g = false → m.isBy g = true → s.take m = { session := s }) ∧
    ∀ (W τ : Type) (host : Host π (StateM W)) (view : W → Outlook π τ) (note : τ → Note π → τ), host.IsHeard view note →
      ∀ (w : W) (id : Uuid), (view w).isQuiet → (view w).service.directory.null.isNull = true →
        (view w).service.directory.get? id = some (.new id) →
        ∀ all : List (Uuid × Move π), ∃ moves notes,
          (Service.movesOf id all).Forall₂ Move.IsLike moves ∧
          (view ((Service.moveAll host all).run w).2).told = notes.foldl note (view w).told ∧
          (view ((Service.moveAll host all).run w).2).service.directory.get? id = some ((Session.new id).run moves) ∧
          Service.noticesOf id notes = accounts ((Session.new id).carriedOut moves) ∧
          ∀ n service, .announced (.session (.listed id) n) service ∈ notes →
            ∃ s, service.directory.get? id = some s ∧ n.Holds s := by
  refine ⟨?_, ?_, ?_⟩
  · intro id moves
    have hvalues := Session.values_heard id moves
    refine ⟨Session.heard_eq_accounts id moves, hvalues, fun hpos => ?_⟩
    rw [hvalues, Session.changesOfActivity]
    cases ha : ((Session.new id).run moves).isActive with
    | true =>
      have hodd : (2 * ((Session.new id).run moves).generation - 1) % 2 = 1 := by omega
      rw [if_pos rfl, getLast?_turnsOfActivity (by omega), decide_eq_true hodd]
    | false =>
      have heven : (2 * ((Session.new id).run moves).generation - 0) % 2 ≠ 1 := by omega
      rw [if_neg Bool.false_ne_true, getLast?_turnsOfActivity (by omega), decide_eq_false heven]
  · intro s m
    exact ⟨(s.takes m).holds, Session.take_of_failed_start, Session.take_cancel_of_idle,
      fun _ hg hm => Session.take_of_not_owns hg hm⟩
  · intro W τ host view note h w id hq hnull hs all
    obtain ⟨moves, d, notes, hmoves, hdoes, hget, hheard, hholds⟩ := Service.exists_does_moveAll h all hq hnull hs
    have hafter := hdoes.2
    refine ⟨moves, notes, hmoves, ?_, ?_, ?_, hholds⟩
    · rw [hafter]
      rfl
    · rw [hafter]
      exact hget
    · rw [hheard, Session.heard_eq_accounts]

/-- A host with one session, which is listened to. -/
def oneSession : HostState :=
  { service.directory.sessions := [.new .nil], watched := [.listed .nil] }

/-- A response that is cancelled after one piece of text, goes on talking, and fails. -/
def cutShort : List (Uuid × Move Backend) :=
  [(.nil, .start (some default) none default default), (.nil, .delta 1 "One"), (.nil, .cancel), (.nil, .delta 1 "late"),
    (.nil, .finish 1 (.error (.api .missingBody)))]

/-- What comes after the cancel is not heard of. -/
theorem cutShort_heard :
    ∃ notes, (hearing ((Service.moveAll (host fun _ _ => pure .ok) cutShort).run oneSession).2).told =
        notes.foldl takeNote (hearing oneSession).told ∧
      (Service.noticesOf .nil notes).filterMap Notice.value? = [true, false] ∧
      ((Service.noticesOf .nil notes).filterMap Notice.message?).map (fun m => (m.content, m.error)) =
        [("", none), ("One", none), ("One", none)] := by
  obtain ⟨moves, notes, hmoves, htold, -, hheard, -⟩ := observers_hear_the_accounts.2.2 _ _ _ _ _
    (host_isHeard fun _ _ => pure .ok) oneSession .nil rfl rfl rfl cutShort
  refine ⟨notes, htold, ?_⟩
  have hlike : List.Forall₂ Move.IsLike
      [.start (some default) none default default, .delta 1 "One", .cancel, .delta 1 "late",
        .finish 1 (.error (.api .missingBody))] moves := hmoves
  rcases hlike with _ | ⟨⟨user, assistant, rfl⟩, _ | ⟨⟨_, _, rfl⟩, _ | ⟨⟨_, _, rfl⟩, _ | ⟨⟨_, _, rfl⟩, _ | ⟨⟨_, _, rfl⟩, ⟨⟩⟩⟩⟩⟩⟩
  rw [hheard]
  constructor <;> rfl

end Colloquy
