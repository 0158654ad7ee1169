import Colloquy.Proofs.Session.Notices

/-!
# The null session

The null session has a draft, and remembers where its view was scrolled to. No move gives it anything else, nor does anybody hear of
it (`Session.IsVacant.take`).
-/

namespace Colloquy

variable {π : Type}

/-- What a move makes of a draft that cannot be sent. -/
def Move.redraft (m : Move π) (draft : String) : String :=
  match m with
  | .setPrompt text => text
  | .takePrompt => ""
  | _ => draft

namespace Session

/-- The null session, with whatever draft, scrolled to whatever place. That a generation of it should stop would be no more than a
note, since it has none. -/
def IsVacant (s : Session) : Prop :=
  s = { null with prompt := s.prompt, scrollTop := s.scrollTop, stopped := s.stopped }

theorem null_isVacant : null.IsVacant := rfl

/-- What there is to be shown of the null session in the place of a conversation. -/
structure IsBlank (s : Session) : Prop where
  id : s.id = .nil
  history : s.history = []
  isActive : s.isActive = false
  title : s.title = ""
  summary : s.summary = some ""

namespace IsVacant

variable {s : Session} (h : s.IsVacant)

include h

theorem isNull : s.isNull = true := by rw [h]; rfl

theorem isActive : s.isActive = false := by rw [h]; rfl

theorem isBlank : s.IsBlank := by
  rw [h]
  exact ⟨rfl, rfl, rfl, rfl, rfl⟩

/-- The null session refuses to start, whoever is to answer. -/
theorem start_eq (provider : Option π) (context : Option Json) (user assistant : Stamp) :
    s.start provider context user assistant = .error (.session "Null chat session cannot provide chat responses") := by
  simp [start, h.isNull]

/-- Whether a move writes or takes the draft, or is no more than a note; all others leave the null session as it is. -/
theorem take_cases (m : Move π) :
    s.take m = { session := s } ∨ (∃ text, s.take m = { session := s.setPrompt text }) ∨
      (∃ position, m = .setScrollTop position) ∨ ∃ g, m = .stop g := by
  have howns (g : Nat) : s.owns g = false := by rw [owns, h.isActive, Bool.false_and]
  cases m with
  | setPrompt text => exact .inr (.inl ⟨text, rfl⟩)
  | takePrompt => exact .inr (.inl ⟨"", rfl⟩)
  | setScrollTop position => exact .inr (.inr (.inl ⟨position, rfl⟩))
  | stop g => exact .inr (.inr (.inr ⟨g, rfl⟩))
  | _ =>
    simp [take, h.start_eq, applyDelta, settle, howns, cancel, h.isActive, setTitle, setSummary, h.isNull]

/-- No move makes anything else of the null session, starts anything in it, or is heard of. -/
theorem take (m : Move π) : (s.take m).session.IsVacant ∧ (s.take m).started = none ∧ (s.take m).notices = [] := by
  rcases h.take_cases m with hm | ⟨text, hm⟩ | ⟨position, rfl⟩ | ⟨g, rfl⟩
  · rw [hm]
    exact ⟨h, rfl, rfl⟩
  · rw [hm, h]
    exact ⟨rfl, rfl, rfl⟩
  · rw [h]
    exact ⟨rfl, rfl, rfl⟩
  · rw [h]
    exact ⟨rfl, rfl, rfl⟩

/-- Its draft is changed by nothing but being written or taken. -/
theorem prompt_take (m : Move π) :
    (s.take m).session.prompt = m.redraft s.prompt := by
  have howns (g : Nat) : s.owns g = false := by rw [owns, h.isActive, Bool.false_and]
  cases m <;> simp [Session.take, h.start_eq, applyDelta, settle, howns, cancel, h.isActive, setTitle, setSummary, h.isNull,
    stop, setPrompt, setScrollTop, Move.redraft]

end IsVacant

end Session

end Colloquy
