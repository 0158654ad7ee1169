import Colloquy.Proofs.Session.Shape

/-!
# What a response was asked

A request holds the history as it was when its generation began, and the draft, which then became the next message. No move
takes a message out of the history or changes one, but for the message that the active generation fills, so that the history
of a session begins for ever with what each of its responses was asked (`beginsWith_run`).
-/

namespace Colloquy

variable {π : Type}

namespace Session

/-- The history begins with what a response was asked: the messages before the prompt, two for each earlier generation, and then
the prompt. -/
structure BeginsWith (s : Session) (p : Pending π) : Prop where
  numbered : 0 < p.generation
  generation : p.generation ≤ s.generation
  history : p.request.history = s.history.take (2 * (p.generation - 1))
  prompt : s.history[2 * (p.generation - 1)]?.map Message.content = some p.request.prompt

/-- The messages that no generation can change any more: all, but the newest one while a generation fills it. -/
def finished (s : Session) : List Message :=
  if s.isActive then s.history.dropLast else s.history

theorem finished_prefix (s : Session) : s.finished <+: s.history := by
  unfold finished
  split
  · exact List.dropLast_prefix _
  · exact List.prefix_refl _

/-- Every move keeps the messages that are finished. -/
theorem Takes.finished_prefix {s : Session} {m : Move π} {turn : Turn π} (ht : Takes s m turn) :
    s.finished <+: turn.session.history := by
  have hlast (ha : s.isActive = true) (change : Message → Message) :
      s.finished <+: s.history.modify (s.history.length - 1) change := by
    rw [finished, if_pos ha, List.dropLast_eq_take, List.modify_eq_take_drop]
    exact List.prefix_append _ _
  cases ht with
  | begins provider context user assistant _ _ => exact s.finished_prefix.trans (List.prefix_append _ _)
  | speaks text ha => exact hlast ha _
  | settled m error _ ha => exact hlast ha _
  | cancelled ha => exact hlast ha _
  | rests m t _ _ _ hh _ _ => exact hh ▸ s.finished_prefix

theorem Takes.take_history {s : Session} {m : Move π} {turn : Turn π} (ht : Takes s m turn) {n : Nat}
    (hn : n ≤ s.finished.length) : turn.session.history.take n = s.history.take n := by
  obtain ⟨a, ha⟩ := ht.finished_prefix
  obtain ⟨b, hb⟩ := s.finished_prefix
  rw [← ha, ← hb, List.take_append_of_le_length hn, List.take_append_of_le_length hn]

theorem Takes.getElem?_history {s : Session} {m : Move π} {turn : Turn π} (ht : Takes s m turn) {n : Nat}
    (hn : n < s.finished.length) : turn.session.history[n]? = s.history[n]? := by
  have h := congrArg (fun l : List Message => l[n]?) (ht.take_history hn)
  simpa [List.getElem?_take] using h

/-- All messages but the newest are finished, two for each generation. -/
theorem le_length_finished {s : Session} (h : s.history.length = 2 * s.generation) :
    2 * s.generation - 1 ≤ s.finished.length := by
  unfold finished
  split
  · rw [List.length_dropLast, h]
  · omega

/-- A move leaves at the beginning of the history what the responses so far were asked. -/
theorem BeginsWith.take {s : Session} {p : Pending π} (hp : s.BeginsWith p) (h : s.history.length = 2 * s.generation)
    (m : Move π) : (s.take m).session.BeginsWith p := by
  have ht := s.takes m
  have hfinished := le_length_finished h
  have hpos := hp.numbered
  have hle := hp.generation
  refine ⟨hpos, ?_, ?_, ?_⟩
  · rw [ht.generation_eq.1]
    omega
  · rw [hp.history, ht.take_history (by omega)]
  · rw [ht.getElem?_history (by omega), hp.prompt]

/-- A response that a move starts is asked the history so far and the draft, which is then the next message. -/
theorem Takes.beginsWith {s : Session} {m : Move π} {turn : Turn π} (ht : Takes s m turn)
    (h : s.history.length = 2 * s.generation) {p : Pending π} (hp : turn.started = some p) : turn.session.BeginsWith p := by
  cases ht with
  | begins provider context user assistant _ _ =>
    obtain rfl := Option.some.inj hp
    refine ⟨Nat.succ_pos _, Nat.le_refl _, ?_, ?_⟩
    · rw [Nat.add_sub_cancel, ← h]
      exact List.take_left.symm
    · rw [Nat.add_sub_cancel, ← h, begun, List.getElem?_append_right (Nat.le_refl _), Nat.sub_self]
      rfl
  | _ => cases hp

/-- The history of a session that was played begins with what each of its responses was asked. -/
theorem beginsWith_run (id : Uuid) (moves : List (Move π)) :
    ∀ p ∈ (new id).handedOut moves, ((new id).run moves).BeginsWith p := by
  induction moves using List.reverseRecOn with
  | nil => exact fun _ hp => absurd hp List.not_mem_nil
  | append_singleton moves m ih =>
    have hlen := (shape_run id moves).length
    intro p hp
    rw [handedOut_concat, List.mem_append, Option.mem_toList] at hp
    rw [run_concat]
    rcases hp with hp | hp
    · exact (ih p hp).take hlen m
    · exact (takes _ m).beginsWith hlen hp

end Session

end Colloquy
