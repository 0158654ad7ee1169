import Colloquy.Proofs.Service.Hearing
import Colloquy.Proofs.Session.Alike

/-!
# What observers of a service hear

A host that goes through the moves of its sessions, in whatever order it takes them from one session and the other, has each of
them announced as it is made, once the service is in its new state. So the observers of a session hear what the session tells,
as if it were alone.
-/

namespace Colloquy

variable {π W τ : Type}

namespace Service

section

variable {m : Type → Type} [Monad m] (host : Host π m)

/-- Makes a move of the session of a key; gives the response that it starts, if it starts one. -/
def moveOf (key : SessionKey) : Move π → m (Option (Pending π))
  | .start provider context _ _ => do
    let started ← startResponse host key provider context
    return started.toOption
  | other => do
    operate host key fun s => ((s.take other).session, (s.take other).notices)
    return none

/-- Makes moves of listed sessions, one after the other. -/
def moveAll : List (Uuid × Move π) → m Unit
  | [] => pure ()
  | (id, other) :: rest => do
    let _ ← moveOf host (.listed id) other
    moveAll rest

end

/-- What is noted of a session. -/
def noticesOf (id : Uuid) (notes : List (Note π)) : List Notice :=
  notes.filterMap fun
    | .announced (.session (.listed j) n) _ => if j = id then some n else none
    | _ => none

/-- The moves of a session among those of all. -/
def movesOf (id : Uuid) (all : List (Uuid × Move π)) : List (Move π) :=
  (all.filter fun e => e.1 = id).map Prod.snd

theorem movesOf_cons (id j : Uuid) (m : Move π) (rest : List (Uuid × Move π)) :
    movesOf id ((j, m) :: rest) = if j = id then m :: movesOf id rest else movesOf id rest := by
  by_cases hj : j = id <;> simp [movesOf, hj]

theorem noticesOf_append (id : Uuid) (notes more : List (Note π)) :
    noticesOf id (notes ++ more) = noticesOf id notes ++ noticesOf id more :=
  List.filterMap_append

theorem noticesOf_announced (id j : Uuid) (notices : List Notice) (service : Service π) :
    noticesOf id (notices.map fun n => .announced (.session (.listed j) n) service) = if j = id then notices else [] := by
  by_cases hj : j = id <;> simp [noticesOf, List.filterMap_map, hj]

end Service

namespace Outlook

variable {view : W → Outlook π τ} {note : τ → Note π → τ} {w : W} {id : Uuid} {m : Move π}

/-- From a state of the host, a program makes a move of the session of a key, and gives the response that it starts. What the move
tells is announced when it has been made. Nothing is done where there is no such session, or where the move leaves it as it is. -/
def Moves (view : W → Outlook π τ) (note : τ → Note π → τ) (w : W) (x : StateM W (Option (Pending π))) (key : SessionKey)
    (m : Move π) : Prop :=
  (∃ s, (view w).service.directory.session? key = some s ∧
      Does view note w x (s.take m).started ((view w).service.directory.put key (s.take m).session)
        ((s.take m).notices.map fun n => .announced (.session key n) { (view w).service with
          directory := (view w).service.directory.put key (s.take m).session })) ∨
    Does view note w x none (view w).service.directory [] ∧
      ∀ s, (view w).service.directory.session? key = some s → s.take m = { session := s }

/-- From a state of the host, a program makes a move of the session of an identifier, if there is one. What the move tells is
announced when it has been made; no other session is changed. -/
def Makes (view : W → Outlook π τ) (note : τ → Note π → τ) (w : W) (x : StateM W (Option (Pending π))) (id : Uuid)
    (m : Move π) : Prop :=
  ∃ started d, Does view note w x started d (((view w).service.directory.get? id).toList.flatMap fun s =>
      (s.take m).notices.map fun n => .announced (.session (.listed id) n) { (view w).service with directory := d }) ∧
    d.null = (view w).service.directory.null ∧
    ∀ j, d.get? j = if id = j then ((view w).service.directory.get? j).map fun s => (s.take m).session
      else (view w).service.directory.get? j

theorem Moves.makes {x : StateM W (Option (Pending π))} (hx : Moves view note w x (.listed id) m) : Makes view note w x id m := by
  rcases hx with ⟨s, hs, hx⟩ | ⟨hx, hrest⟩
  · have hid : (s.take m).session.id = id := (s.takes m).same.1.trans (Directory.id_of_get? hs)
    rw [Directory.session?_listed] at hs
    refine ⟨(s.take m).started, (view w).service.directory.put (.listed id) (s.take m).session, ?_, rfl, fun j => ?_⟩
    · rw [hs, Option.toList_some, List.flatMap_singleton]
      exact hx
    · rw [Directory.get?_put hid]
      split
      next hj => rw [← hj, hs]; rfl
      next => rfl
  · rw [Directory.session?_listed] at hrest
    cases hs : (view w).service.directory.get? id with
    | none =>
      refine ⟨none, (view w).service.directory, by rw [hs]; exact hx, rfl, fun j => ?_⟩
      split
      next hj => rw [← hj, hs]; rfl
      next => rfl
    | some s =>
      have htake := hrest s hs
      refine ⟨none, (view w).service.directory, ?_, rfl, fun j => ?_⟩
      · rw [hs, Option.toList_some, List.flatMap_singleton, htake]
        exact hx
      · split
        next hj => rw [← hj, hs, Option.map_some, htake]
        next => rfl

end Outlook

namespace Service

open Outlook

section Operations

variable {host : Host π (StateM W)} {view : W → Outlook π τ} {note : τ → Note π → τ} (h : host.IsHeard view note) {w : W}

include h

theorem does_startResponse_of_error {key : SessionKey} {provider : Option π} {context : Option Json} {e : Error}
    (he : ∀ user assistant, ((view w).service.directory.session key).start provider context user assistant = .error e) :
    Does view note w (startResponse host key provider context) (.error e) (view w).service.directory [] := by
  have hstamped : view (stamped host w) = view w := (h.newStamp _).trans (h.newStamp w)
  rw [Does, run_startResponse_of_error h.isSeen he]
  exact ⟨rfl, hstamped⟩

/-- An operation that is a move, for a key with or without a session. -/
theorem moves_operate (hq : (view w).isQuiet) (key : SessionKey) {m : Move π} (hm : ∀ s : Session, (s.take m).started = none) :
    Moves view note w (do
      operate host key fun s => ((s.take m).session, (s.take m).notices)
      return none) key m := by
  cases hs : (view w).service.directory.session? key with
  | none =>
    refine .inr ⟨?_, fun s hs' => absurd (hs.symm.trans hs') nofun⟩
    have hnothing : Does view note w (operate host key fun s => ((s.take m).session, (s.take m).notices)) ()
        (view w).service.directory [] := by
      refine does_state_bind h ?_
      dsimp only
      rw [hs]
      exact does_pure () rfl
    exact hnothing.bind fun v _ hv => does_pure none (by rw [hv]; rfl)
  | some s =>
    refine .inl ⟨s, hs, ?_⟩
    rw [hm, ← List.append_nil (List.map _ _)]
    exact (does_operate h hq hs _).bind fun v _ hv => does_pure none (by rw [hv]; rfl)

/-- A start that is asked for, with the stamps that the host draws. -/
theorem exists_moves_start (hq : (view w).isQuiet) (hnull : (view w).service.directory.null.isNull = true) (key : SessionKey)
    (provider : Option π) (context : Option Json) :
    ∃ user assistant, Moves view note w (do
      let started ← startResponse host key provider context
      return started.toOption) key (.start provider context user assistant) := by
  rcases ((view w).service.directory.session key).start_cases provider context with ⟨e, he⟩ | ⟨hn, ha, p, rfl⟩
  · refine ⟨default, default, .inr ⟨(does_startResponse_of_error h he).bind fun v _ hv => does_pure _ (by rw [hv]; rfl), ?_⟩⟩
    intro s hs
    rw [Directory.session, hs, Option.getD_some] at he
    simp only [Session.take, he]
  · cases hs : (view w).service.directory.session? key with
    | none =>
      -- where no session is found the null session is asked, which starts nothing
      rw [Directory.session, hs, Option.getD_none, hnull] at hn
      cases hn
    | some s =>
      rw [Directory.session, hs, Option.getD_some] at hn ha
      obtain ⟨user, assistant, hdoes⟩ := does_startResponse h hq hs hn ha p context
      refine ⟨user, assistant, .inl ⟨s, hs, ?_⟩⟩
      simp only [Session.take, Session.start_of_idle hn ha]
      exact hdoes.bind fun v _ hv => does_pure _ (by rw [hv]; rfl)

/-- A move that is asked for is made, with the stamps that the host draws. -/
theorem exists_moves (hq : (view w).isQuiet) (hnull : (view w).service.directory.null.isNull = true) (key : SessionKey)
    (m : Move π) : ∃ m', m.IsLike m' ∧ Moves view note w (moveOf host key m) key m' := by
  cases m with
  | start provider context user assistant =>
    obtain ⟨user', assistant', hmoves⟩ := exists_moves_start h hq hnull key provider context
    exact ⟨_, ⟨user', assistant', rfl⟩, hmoves⟩
  | _ => exact ⟨_, .of_isStart rfl, moves_operate h hq key fun _ => rfl⟩

theorem exists_makes (hq : (view w).isQuiet) (hnull : (view w).service.directory.null.isNull = true) (id : Uuid)
    (m : Move π) : ∃ m', m.IsLike m' ∧ Makes view note w (moveOf host (.listed id) m) id m' := by
  obtain ⟨m', hlike, hmoves⟩ := exists_moves h hq hnull (.listed id) m
  exact ⟨m', hlike, hmoves.makes⟩

/-- Whatever moves are made, of whatever sessions, the observers of a session hear what this session tells by its own moves, and
each notice is true when they hear it. -/
theorem exists_does_moveAll (all : List (Uuid × Move π)) (hq : (view w).isQuiet)
    (hnull : (view w).service.directory.null.isNull = true) {id : Uuid} {s : Session}
    (hs : (view w).service.directory.get? id = some s) :
    ∃ moves d notes, (movesOf id all).Forall₂ Move.IsLike moves ∧ Does view note w (moveAll host all) () d notes ∧
      d.get? id = some (s.run moves) ∧ noticesOf id notes = s.heard moves ∧
      ∀ n service, .announced (.session (.listed id) n) service ∈ notes →
        ∃ t, service.directory.get? id = some t ∧ n.Holds t := by
  induction all generalizing w s with
  | nil => exact ⟨[], _, [], .nil, does_pure () rfl, hs, rfl, fun _ _ hn => absurd hn List.not_mem_nil⟩
  | cons e rest ih =>
    obtain ⟨j, m⟩ := e
    obtain ⟨m', hlike, _, d, hdoes, hkept, hget⟩ := exists_makes h hq hnull j m
    have hview := hdoes.2
    have hnull' : (view ((moveOf host (.listed j) m).run w).2).service.directory.null.isNull = true := by
      rw [hview, noting_directory, hkept, hnull]
    by_cases hj : j = id
    · subst hj
      have hs' : (view ((moveOf host (.listed j) m).run w).2).service.directory.get? j = some (s.take m').session := by
        rw [hview, noting_directory, hget, if_pos rfl, hs, Option.map_some]
      obtain ⟨moves, e, notes, hmoves, hrest, hlast, hheard, hholds⟩ := ih (by rw [hview]; exact hq) hnull' hs'
      rw [hs, Option.toList_some, List.flatMap_singleton] at hdoes
      refine ⟨m' :: moves, e, _ ++ notes, ?_, hdoes.bind fun v hv _ => by subst hv; exact hrest, hlast, ?_, ?_⟩
      · rw [movesOf_cons, if_pos rfl]
        exact .cons hlike hmoves
      · rw [noticesOf_append, noticesOf_announced, if_pos rfl, hheard]
        rfl
      · intro n service hn
        rcases List.mem_append.mp hn with hn | hn
        · obtain ⟨n', hn', heq⟩ := List.mem_map.mp hn
          cases heq
          exact ⟨_, by rw [hget, if_pos rfl, hs, Option.map_some], (s.takes m').holds n hn'⟩
        · exact hholds n service hn
    · have hs' : (view ((moveOf host (.listed j) m).run w).2).service.directory.get? id = some s := by
        rw [hview, noting_directory, hget, if_neg hj, hs]
      obtain ⟨moves, e, notes, hmoves, hrest, hlast, hheard, hholds⟩ := ih (by rw [hview]; exact hq) hnull' hs'
      refine ⟨moves, e, _ ++ notes, ?_, hdoes.bind fun v hv _ => by subst hv; exact hrest, hlast, ?_, ?_⟩
      · rw [movesOf_cons, if_neg hj]
        exact hmoves
      · rw [noticesOf_append, hheard]
        cases (view w).service.directory.get? j with
        | none => rfl
        | some x => rw [Option.toList_some, List.flatMap_singleton, noticesOf_announced, if_neg hj, List.nil_append]
      · intro n service hn
        rcases List.mem_append.mp hn with hn | hn
        · obtain ⟨x, -, hx⟩ := List.mem_flatMap.mp hn
          obtain ⟨n', -, heq⟩ := List.mem_map.mp hx
          cases heq
          exact absurd rfl hj
        · exact hholds n service hn

end Operations

end Service

end Colloquy
