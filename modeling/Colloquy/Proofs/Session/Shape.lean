import Colloquy.Proofs.Session.Transcript

/-!
# The shape of a session

Every start that succeeds puts two messages into the history, one of the user and one of the assistant, and nothing else
puts one there or takes one out. The newest message is the one that the active generation fills, so that changing the newest
message is changing the right one. Of all responses that were handed out only that of the active generation can still change
the history, now or at any later time.
-/

namespace Colloquy

variable {π : Type}

namespace Session

/-- The messages of the user are at even positions, those of the assistant at odd ones, two for each generation; an error
marks none of the user, and not the newest one of an active session. -/
structure Shape (s : Session) : Prop where
  length : s.history.length = 2 * s.generation
  role : ∀ i m, s.history[i]? = some m → m.role = if i % 2 = 0 then .user else .assistant
  user : ∀ m ∈ s.history, m.role = .user → m.error = none
  active : s.isActive = true → ∃ m, s.last? = some m ∧ m.role = .assistant ∧ m.error = none

/-- Whether a response can change the history of a session by what it does, now or at any later time. -/
def CanBeChangedBy (s : Session) (p : Pending π) : Prop :=
  ∃ (later : List (Move π)) (m : Move π), m.isBy p.generation = true ∧
    ((s.run later).take m).session.history ≠ (s.run later).history

/-- At even positions there are messages of the user without an error. -/
def UsersAtEven (s : Session) : Prop :=
  ∀ i m, s.history[2 * i]? = some m → m.role = .user ∧ m.error = none

/-- The newest of an even number of messages is at an odd position. -/
theorem UsersAtEven.of_modify {s t : Session} (hu : s.UsersAtEven) {n : Nat} (hlen : s.history.length = 2 * n) (hn : 0 < n)
    {change : Message → Message} (hh : t.history = s.history.modify (s.history.length - 1) change) : t.UsersAtEven := by
  intro i m hm
  have hodd : s.history.length - 1 ≠ 2 * i := by omega
  rw [hh, List.getElem?_modify_ne change _ hodd] at hm
  exact hu i m hm

theorem Takes.usersAtEven {s : Session} {m : Move π} {turn : Turn π} (ht : Takes s m turn) {n : Nat}
    (hlen : s.history.length = 2 * n) (hn : s.isActive = true → 0 < n) (hu : s.UsersAtEven) : turn.session.UsersAtEven := by
  cases ht with
  | begins provider context user assistant _ _ =>
    intro i m hm
    rw [begun, List.getElem?_append] at hm
    split at hm
    · exact hu i m hm
    · obtain ⟨k, hk⟩ : ∃ k, 2 * i - s.history.length = 2 * k := ⟨i - n, by omega⟩
      rw [hk] at hm
      cases k with
      | zero =>
        cases hm
        exact ⟨rfl, rfl⟩
      | succ k => simp [Nat.mul_succ] at hm
  | speaks text ha => exact hu.of_modify hlen (hn ha) rfl
  | settled m error _ ha => exact hu.of_modify hlen (hn ha) rfl
  | cancelled ha => exact hu.of_modify hlen (hn ha) rfl
  | rests m t _ _ _ hh _ _ =>
    intro i m hm
    exact hu i m (hh ▸ hm)

theorem usersAtEven_run (id : Uuid) (moves : List (Move π)) : ((new id).run moves).UsersAtEven := by
  induction moves using List.reverseRecOn with
  | nil => exact fun _ _ => nofun
  | append_singleton moves m ih =>
    have h := ToldBy.run id moves
    rw [run_concat]
    exact (takes _ m).usersAtEven h.length h.started ih

/-- The newest message of an active session is the one that its generation was started with, and no error marks it. -/
theorem ToldBy.last {s : Session} {log : List (Move π)} (h : s.ToldBy log) (ha : s.isActive = true) :
    ∃ m stamp, s.last? = some m ∧ (stamps log).getLast? = some stamp ∧ m.id = stamp.id ∧ m.timestamp = stamp.time ∧
      m.role = .assistant ∧ m.error = none := by
  have hpos := h.started ha
  have hgen := h.generation
  obtain ⟨hle, hopen⟩ := h.open_of_active ha
  obtain ⟨i, hi⟩ : ∃ i, (stamps log).length = i + 1 := ⟨(stamps log).length - 1, by omega⟩
  have hlast : s.history.length - 1 = 2 * i + 1 := by
    rw [h.length, hi]
    omega
  obtain ⟨stamp, hstamp⟩ : ∃ stamp, (stamps log)[i]? = some stamp := ⟨_, List.getElem?_eq_getElem (by omega)⟩
  refine ⟨toldMessage log (i + 1) stamp, stamp, ?_, ?_, rfl, rfl, rfl, ?_⟩
  · rw [last?, List.getLast?_eq_getElem?, hlast, h.messages i, hstamp]
    rfl
  · rw [List.getLast?_eq_getElem?, hi]
    exact hstamp
  · rw [toldMessage, ← hi, ← hgen]
    exact failure_of_open hopen

theorem shape_run (id : Uuid) (moves : List (Move π)) : ((new id).run moves).Shape := by
  have h := ToldBy.run id moves
  have hu := usersAtEven_run id moves
  have hrole : ∀ i m, ((new id).run moves).history[i]? = some m → m.role = if i % 2 = 0 then .user else .assistant := by
    intro i m hm
    rcases Nat.mod_two_eq_zero_or_one i with hi | hi
    · obtain ⟨k, rfl⟩ : ∃ k, i = 2 * k := ⟨i / 2, by omega⟩
      rw [if_pos hi]
      exact (hu k m hm).1
    · obtain ⟨k, rfl⟩ : ∃ k, i = 2 * k + 1 := ⟨i / 2, by omega⟩
      rw [if_neg (by omega)]
      rw [h.messages k, Option.map_eq_some_iff] at hm
      obtain ⟨stamp, -, rfl⟩ := hm
      rfl
  refine ⟨h.length.trans (by rw [h.generation]), hrole, fun m hm hr => ?_, fun ha => ?_⟩
  · obtain ⟨i, hi⟩ := List.mem_iff_getElem?.mp hm
    rcases Nat.mod_two_eq_zero_or_one i with h2 | h2
    · obtain ⟨k, rfl⟩ : ∃ k, i = 2 * k := ⟨i / 2, by omega⟩
      exact (hu k m hi).2
    · have hassistant := hrole i m hi
      rw [if_neg (by omega), hr] at hassistant
      cases hassistant
  · obtain ⟨m, _, hm, _, _, _, hr, he⟩ := h.last ha
    exact ⟨m, hm, hr, he⟩

/-! ## Who can still change the history -/

/-- A generation that is not the active one, and not a future one, is never the active one again. -/
theorem Takes.not_owns {s : Session} {m : Move π} {turn : Turn π} (ht : Takes s m turn) {g : Nat} (hg : g ≤ s.generation)
    (ho : s.owns g = false) : g ≤ turn.session.generation ∧ turn.session.owns g = false := by
  cases ht with
  | begins provider context user assistant _ _ =>
    have hne : s.generation + 1 ≠ g := by omega
    exact ⟨Nat.le_succ_of_le hg, by simp [owns, begun, hne]⟩
  | speaks text _ => exact ⟨hg, ho⟩
  | settled m error _ _ => exact ⟨hg, rfl⟩
  | cancelled _ => exact ⟨hg, rfl⟩
  | rests m t _ _ _ _ ha hgen =>
    rw [owns, ha, hgen]
    exact ⟨hg, ho⟩

theorem not_owns_run {s : Session} {g : Nat} (hg : g ≤ s.generation) (ho : s.owns g = false) (moves : List (Move π)) :
    (s.run moves).owns g = false := by
  induction moves generalizing s with
  | nil => exact ho
  | cons m rest ih =>
    obtain ⟨hg', ho'⟩ := (s.takes m).not_owns hg ho
    exact ih hg' ho'

/-- The active generation changes the history by every piece of text that is not empty. -/
theorem history_take_delta_ne {s : Session} (ha : s.isActive = true) {m : Message} (hm : s.last? = some m) :
    (s.take (.delta s.generation "." : Move π)).session.history ≠ s.history := by
  intro h
  have hlast : s.history[s.history.length - 1]? = some m := by rw [← List.getLast?_eq_getElem?]; exact hm
  have ho : s.owns s.generation = true := (owns_iff s _).mpr ⟨ha, rfl⟩
  have hsame := congrArg (fun l : List Message => l[s.history.length - 1]?) h
  simp only [take, applyDelta, ho, if_true, amendLast_eq_withLast, withLast, List.getElem?_modify_eq, hlast] at hsame
  have hlen := congrArg (fun m : Message => m.content.length) (Option.some.inj hsame)
  simp at hlen

/-- A response of some generation so far can change the history just when that generation is the active one. -/
theorem canBeChangedBy_iff {s : Session} (hs : s.Shape) {p : Pending π} (hp : p.generation ≤ s.generation) :
    s.CanBeChangedBy p ↔ s.isActive = true ∧ p.generation = s.generation := by
  constructor
  · rintro ⟨later, m, hm, hne⟩
    cases ho : s.owns p.generation with
    | true =>
      obtain ⟨ha, hg⟩ := (owns_iff s _).mp ho
      exact ⟨ha, hg.symm⟩
    | false => exact absurd ((takes _ m).of_not_owns (not_owns_run hp ho later) hm).1 hne
  · rintro ⟨ha, hg⟩
    obtain ⟨m, hm, -, -⟩ := hs.active ha
    refine ⟨[], .delta s.generation ".", ?_, history_take_delta_ne ha hm⟩
    simp [Move.isBy, Move.piece?, hg]

end Session

end Colloquy
