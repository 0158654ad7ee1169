import Mathlib.Data.List.Nodup
import Colloquy.Session.Directory

/-!
# Sessions in their places

A session is found under its identifier. Changing the session of one key changes what is found under that key and nothing
else, as long as the session keeps its identifier; a new session is found only where none was.
-/

namespace Colloquy.Directory

variable {d : Directory} {id : Uuid} {s : Session}

theorem id_of_get? (h : d.get? id = some s) : s.id = id := by
  simpa using List.find?_some h

theorem mem_of_get? (h : d.get? id = some s) : s ∈ d.sessions :=
  List.mem_of_find?_eq_some h

@[simp] theorem session?_listed (d : Directory) (id : Uuid) : d.session? (.listed id) = d.get? id := rfl

theorem session_of_get? (h : d.get? id = some s) : d.session (.listed id) = s := by
  rw [session, session?_listed, h, Option.getD_some]

theorem get?_add (d : Directory) (new id : Uuid) :
    (d.add new).get? id = (d.get? id).or (if new = id then some (.new new) else none) := by
  rw [get?, add, List.find?_append, get?]
  by_cases h : new = id <;> simp [Session.new, h]

/-- Where no session has the identifier of a change, nothing is changed. -/
theorem change_of_none {key : SessionKey} (h : d.session? key = none) (f : Session → Session) : d.change key f = d := by
  rw [change, h]

theorem change_of_some {key : SessionKey} (h : d.session? key = some s) (f : Session → Session) :
    d.change key f = d.put key (f s) := by
  rw [change, h]

/-- A session that is put where there is none is lost. -/
theorem put_of_none {key : SessionKey} (h : d.session? key = none) (x : Session) : d.put key x = d := by
  cases key with
  | null => cases h
  | listed id =>
    have hother : ∀ s ∈ d.sessions, (if s.id = id then x else s) = s := fun s hs =>
      if_neg fun hid => by simpa [hid] using List.find?_eq_none.mp h s hs
    rw [put, List.map_congr_left hother, List.map_id']

theorem null_change (d : Directory) (id : Uuid) (f : Session → Session) : (d.change (.listed id) f).null = d.null := by
  rw [change]
  split <;> rfl

/-- Putting a session in a place changes what is found there only. -/
theorem get?_put (hs : s.id = id) (d : Directory) (j : Uuid) :
    (d.put (.listed id) s).get? j = if id = j then (d.get? j).map fun _ => s else d.get? j := by
  have hkeeps : (fun x : Session => decide ((if x.id = id then s else x).id = j)) = fun x => decide (x.id = j) := by
    funext x
    split
    next h => rw [hs, h]
    next => rfl
  rw [get?, put, List.find?_map, Function.comp_def, hkeeps, ← get?]
  split
  next h =>
    subst h
    refine Option.map_congr fun x hx => ?_
    rw [if_pos (id_of_get? hx)]
  next h =>
    have hne : ∀ x ∈ d.get? j, (if x.id = id then s else x) = x := fun x hx =>
      if_neg fun hid => h (by rw [← hid, id_of_get? hx])
    cases hx : d.get? j with
    | none => rfl
    | some x => rw [Option.map_some, hne x hx]

/-- Changing the session of a key changes what is found under this key only. -/
theorem get?_change {f : Session → Session} (hf : ∀ s, (f s).id = s.id) (d : Directory) (key : SessionKey) (id : Uuid) :
    (d.change key f).get? id = if key = .listed id then (d.get? id).map f else d.get? id := by
  cases key with
  | null => simp [change, session?, put, get?]
  | listed j =>
    cases hs : d.get? j with
    | none =>
      have hnone : d.session? (.listed j) = none := hs
      rw [change_of_none hnone]
      split
      next h =>
        cases h
        rw [hs]
        rfl
      next => rfl
    | some s =>
      have hsome : d.session? (.listed j) = some s := hs
      have hid : (f s).id = j := (hf s).trans (id_of_get? hs)
      rw [change_of_some hsome, get?_put hid]
      by_cases hj : j = id
      · subst hj
        rw [if_pos rfl, if_pos rfl, hs]
        rfl
      · rw [if_neg hj, if_neg fun h => hj (SessionKey.listed.inj h)]

/-- A session after a change is the changed one, or one that was there with another key. -/
theorem mem_sessions_change {key : SessionKey} {f : Session → Session} {x : Session} (h : x ∈ (d.change key f).sessions) :
    (x ∈ d.sessions ∧ key ≠ .listed x.id) ∨ ∃ s, key = .listed s.id ∧ d.get? s.id = some s ∧ x = f s := by
  cases key with
  | null => exact .inl ⟨h, nofun⟩
  | listed id =>
    cases hs : d.session? (.listed id) with
    | none =>
      rw [change_of_none hs] at h
      refine .inl ⟨h, fun he => ?_⟩
      cases he
      simpa using List.find?_eq_none.mp hs x h
    | some s =>
      obtain rfl : s.id = id := id_of_get? hs
      rw [change_of_some hs] at h
      obtain ⟨y, hy, rfl⟩ := List.mem_map.mp h
      split
      next => exact .inr ⟨s, rfl, hs, rfl⟩
      next hne => exact .inl ⟨hy, fun he => hne (SessionKey.listed.inj he).symm⟩

/-- Putting a session where it already is changes nothing, if no other session has its identifier. -/
theorem put_of_get? (hd : (d.sessions.map Session.id).Nodup) (h : d.get? id = some s) : d.put (.listed id) s = d := by
  have hmap : d.sessions.map (fun x => if x.id = id then s else x) = d.sessions.map fun x => x := by
    refine List.map_congr_left fun x hx => ?_
    split
    next hid => exact (List.inj_on_of_nodup_map hd hx (mem_of_get? h) (hid.trans (id_of_get? h).symm)).symm
    next => rfl
  rw [put, hmap, List.map_id']

/-- A selection leaves the sessions as they are. -/
theorem select_eq {target : Option Uuid} {directory : Directory} (h : d.select target = .ok directory) :
    directory = { d with current := target } := by
  unfold select at h
  split at h
  · cases h
    rfl
  · split at h <;> cases h
    rfl

end Colloquy.Directory
