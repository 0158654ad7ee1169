import Colloquy.Proofs.Session.Notices

/-!
# Sessions that are alike

No session looks at its identifier, nor at the identifiers and times of its messages. So two sessions that differ in nothing else
stay so under the same moves, whatever stamps these put on new messages, and tell their observers the same (`Session.run_alike`).
-/

namespace Colloquy

variable {π : Type}

/-- The message without its stamp. -/
def Message.unstamped (m : Message) : Message :=
  { m with id := default, timestamp := default }

/-- The notice without the stamp of its message. -/
def Notice.unstamped : Notice → Notice
  | .active value => .active value
  | .response m => .response m.unstamped

/-- The session without its identifier, and without the stamps of its messages. -/
def Session.unstamped (s : Session) : Session :=
  { s with id := default, history := s.history.map Message.unstamped }

/-- The move with other stamps, if it is a start. -/
def Move.stamped (user assistant : Stamp) : Move π → Move π
  | .start provider context _ _ => .start provider context user assistant
  | m => m

/-- A host may choose the stamps of a start. -/
def Move.IsLike (m m' : Move π) : Prop :=
  ∃ user assistant, m' = m.stamped user assistant

theorem Move.IsLike.of_isStart {m : Move π} (hm : m.isStart = false) : m.IsLike m := by
  refine ⟨default, default, ?_⟩
  cases m with
  | start provider context user assistant => cases hm
  | _ => rfl

/-- A move is without its stamps what any move like it is. -/
theorem Move.IsLike.stamped_eq {m m' : Move π} (h : m.IsLike m') (user assistant : Stamp) :
    m'.stamped user assistant = m.stamped user assistant := by
  obtain ⟨user', assistant', rfl⟩ := h
  cases m <;> rfl

namespace Session

variable (s : Session)

theorem unstamped_last? : s.unstamped.last? = s.last?.map Message.unstamped :=
  List.getLast?_map

theorem unstamped_lastNotice : s.unstamped.lastNotice = s.lastNotice.map Notice.unstamped := by
  rw [lastNotice, lastNotice, unstamped_last?]
  cases s.last? <;> rfl

theorem unstamped_amendLast (change : Message → Message) (hc : ∀ m, (change m).unstamped = change m.unstamped) :
    (s.amendLast change).unstamped = s.unstamped.amendLast change := by
  rw [amendLast, amendLast, unstamped_last?]
  cases s.last? with
  | none => rfl
  | some m => simp [unstamped, hc]

theorem unstamped_start (provider : Option π) (context : Option Json) (user assistant : Stamp) :
    (s.take (.start provider context user assistant)).session.unstamped =
        (s.unstamped.take (.start provider context default default)).session ∧
      (s.take (.start provider context user assistant)).notices.map Notice.unstamped =
        (s.unstamped.take (.start provider context default default)).notices := by
  have hnew (stamp : Stamp) (role : Role) (content : String) :
      (Message.new stamp role content).unstamped = .new default role content := rfl
  cases hn : s.isNull <;> cases provider <;> cases ha : s.isActive <;>
    simp [take, start, unstamped, hn, ha, hnew, Notice.unstamped]

theorem unstamped_applyDelta (g : Nat) (text : String) :
    (s.applyDelta g text).1.unstamped = (s.unstamped.applyDelta g text).1 ∧
      (s.applyDelta g text).2.map Notice.unstamped = (s.unstamped.applyDelta g text).2 := by
  have howns : s.unstamped.owns g = s.owns g := rfl
  have hamend := s.unstamped_amendLast (fun m => { m with content := m.content ++ text }) fun _ => rfl
  rw [applyDelta, applyDelta, howns]
  split
  · dsimp only
    rw [← hamend, unstamped_lastNotice]
    exact ⟨rfl, rfl⟩
  · exact ⟨rfl, rfl⟩

theorem unstamped_settle (g : Nat) (error : Option Error) :
    (s.settle g error).1.unstamped = (s.unstamped.settle g error).1 ∧
      (s.settle g error).2.map Notice.unstamped = (s.unstamped.settle g error).2 := by
  have howns : s.unstamped.owns g = s.owns g := rfl
  have hidle : ({ s with isActive := false } : Session).unstamped = { s.unstamped with isActive := false } := rfl
  rw [settle, settle, howns]
  split
  · cases error with
    | none =>
      dsimp only
      rw [← hidle, unstamped_lastNotice]
      exact ⟨rfl, rfl⟩
    | some e =>
      have hamend := unstamped_amendLast { s with isActive := false }
        (fun m => { m with error := some e.message }) fun _ => rfl
      dsimp only
      rw [← hidle, ← hamend, List.map_cons, unstamped_lastNotice]
      exact ⟨rfl, rfl⟩
  · exact ⟨rfl, rfl⟩

theorem unstamped_cancel :
    s.cancel.1.unstamped = s.unstamped.cancel.1 ∧ s.cancel.2.map Notice.unstamped = s.unstamped.cancel.2 := by
  have hactive : s.unstamped.isActive = s.isActive := rfl
  have hended : ({ s.stop s.generation with isActive := false } : Session).unstamped =
      { s.unstamped.stop s.unstamped.generation with isActive := false } := rfl
  rw [cancel, cancel, hactive]
  split
  · dsimp only
    rw [← hended, unstamped_lastNotice]
    exact ⟨rfl, rfl⟩
  · exact ⟨rfl, rfl⟩

/-- A move does to the session without stamps what it does to the session. -/
theorem unstamped_take (m : Move π) :
    (s.take m).session.unstamped = (s.unstamped.take (m.stamped default default)).session ∧
      (s.take m).notices.map Notice.unstamped = (s.unstamped.take (m.stamped default default)).notices := by
  cases m with
  | start provider context user assistant => exact s.unstamped_start provider context user assistant
  | delta g text => exact s.unstamped_applyDelta g text
  | finish g result => exact s.unstamped_settle g (failureOf result)
  | drop g => exact s.unstamped_settle g none
  | cancel => exact s.unstamped_cancel
  | setTitle text =>
    have hnull : s.unstamped.isNull = s.isNull := rfl
    simp only [take, Move.stamped, setTitle, hnull]
    split <;> exact ⟨rfl, rfl⟩
  | setSummary text =>
    have hnull : s.unstamped.isNull = s.isNull := rfl
    simp only [take, Move.stamped, setSummary, hnull]
    split <;> exact ⟨rfl, rfl⟩
  | _ => exact ⟨rfl, rfl⟩

variable {s}

/-- Sessions that are alike stay so under moves that are alike, and tell their observers the same, up to stamps. -/
theorem run_alike {t : Session} (h : s.unstamped = t.unstamped) {moves moves' : List (Move π)}
    (hm : moves.Forall₂ Move.IsLike moves') :
    (s.run moves).unstamped = (t.run moves').unstamped ∧
      (s.heard moves).map Notice.unstamped = (t.heard moves').map Notice.unstamped := by
  induction hm generalizing s t with
  | nil => exact ⟨h, rfl⟩
  | @cons m m' rest rest' hlike _ ih =>
    obtain ⟨hs, hsn⟩ := s.unstamped_take m
    obtain ⟨ht, htn⟩ := t.unstamped_take m'
    rw [← h, hlike.stamped_eq] at ht htn
    obtain ⟨hrun, hheard⟩ := ih (hs.trans ht.symm)
    refine ⟨hrun, ?_⟩
    simp only [heard, turns, List.flatMap_cons, List.map_append] at hheard ⊢
    rw [hsn, htn, hheard]

end Session

end Colloquy
