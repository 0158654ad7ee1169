import Colloquy.Assistant.Roster

/-!
# Who is listed, and who is selected

The identifiers of a roster in their order (`Roster.ids`) settle who can be found. The selection is the one that was remembered if
it is listed, and else the first that is (`Roster.selection_eq`).
-/

namespace Colloquy.Roster

variable {π : Type}

/-- The identifiers that are listed, in their order. -/
def ids (r : Roster π) : List String :=
  r.entries.map (·.id)

/-- Whom to select: the one that is remembered if it is listed, else the first that is. -/
def choose (remembered : Option String) (ids : List String) : Option String :=
  match remembered with
  | some id => if id ∈ ids then some id else ids.head?
  | none => ids.head?

variable {r : Roster π} {id : String}

theorem isSome_find?_iff : (r.find? id).isSome = true ↔ id ∈ r.ids := by
  simp [find?, ids]

theorem find?_eq_none_iff : r.find? id = none ↔ id ∉ r.ids := by
  rw [← isSome_find?_iff, Option.not_isSome_iff_eq_none]

theorem mem_of_find? {e : RosterEntry π} (h : r.find? id = some e) : e ∈ r.entries ∧ e.id = id :=
  ⟨List.mem_of_find?_eq_some h, by simpa using List.find?_some h⟩

theorem provider?_eq_none_iff : r.provider? id = none ↔ id ∉ r.ids := by
  rw [provider?, Option.map_eq_none_iff, find?_eq_none_iff]

/-! ## The selection -/

theorem choose_eq_none_iff {remembered : Option String} {ids : List String} : choose remembered ids = none ↔ ids = [] := by
  cases remembered with
  | none => exact List.head?_eq_none_iff
  | some id =>
    by_cases hid : id ∈ ids
    · simp [choose, hid, List.ne_nil_of_mem hid]
    · simp [choose, hid]

theorem mem_of_choose {remembered : Option String} {ids : List String} (h : choose remembered ids = some id) : id ∈ ids := by
  unfold choose at h
  split at h
  · split at h
    next hmem => exact Option.some.inj h ▸ hmem
    next => exact List.mem_of_mem_head? h
  · exact List.mem_of_mem_head? h

/-- Once somebody is chosen, the choice stands as long as the identifier is listed. -/
theorem choose_of_mem {ids : List String} (h : id ∈ ids) : choose (some id) ids = some id :=
  if_pos h

theorem choose_of_not_mem {remembered : Option String} {ids : List String} (h : ∀ id, remembered = some id → id ∉ ids) :
    choose remembered ids = ids.head? := by
  cases remembered with
  | none => rfl
  | some id => exact if_neg (h id rfl)

theorem selection_eq (r : Roster π) : r.selection = choose r.selected r.ids := by
  unfold selection choose
  cases hs : r.selected with
  | none => simp [ids]
  | some id =>
    rw [Option.bind_some]
    cases hf : r.find? id with
    | none =>
      have hmem : id ∉ r.ids := find?_eq_none_iff.mp hf
      simp only [if_neg hmem]
      simp [ids]
    | some e =>
      have hmem : id ∈ r.ids := isSome_find?_iff.mp (Option.isSome_of_eq_some hf)
      simp only [if_pos hmem, (mem_of_find? hf).2]

/-- Whoever is selected is listed. -/
theorem isSome_find?_of_selection (h : r.selection = some id) : (r.find? id).isSome = true := by
  rw [selection_eq] at h
  exact isSome_find?_iff.mpr (mem_of_choose h)

/-- A selection that was healed is read again as it was. -/
theorem selection_heal (r : Roster π) : r.heal.selection = r.selection := by
  have hheal : r.heal.selection = choose r.selection r.ids := selection_eq r.heal
  rw [hheal]
  cases hs : r.selection with
  | none =>
    rw [selection_eq] at hs
    rw [choose_eq_none_iff.mp hs]
    rfl
  | some id => exact choose_of_mem (isSome_find?_iff.mp (isSome_find?_of_selection hs))

theorem selectedProvider?_heal (r : Roster π) : r.heal.selectedProvider? = r.selectedProvider? := by
  rw [selectedProvider?, selection_heal]
  rfl

/-- Somebody is selected just if there is somebody. -/
theorem selectedProvider?_eq_none_iff (r : Roster π) : r.selectedProvider? = none ↔ r.entries = [] := by
  have hids : r.ids = [] ↔ r.entries = [] := List.map_eq_nil_iff
  rw [← hids, selectedProvider?]
  cases hs : r.selection with
  | none =>
    rw [selection_eq, choose_eq_none_iff] at hs
    simp [hs]
  | some id =>
    have hmem := isSome_find?_iff.mp (isSome_find?_of_selection hs)
    rw [Option.bind_some, provider?_eq_none_iff]
    simp [hmem, List.ne_nil_of_mem hmem]

end Colloquy.Roster
