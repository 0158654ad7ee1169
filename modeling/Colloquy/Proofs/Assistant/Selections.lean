import Colloquy.Proofs.Assistant.Registrations

/-!
# What is remembered of selections

The selection of a roster is settled by its calls: the last of them that stored one, by selecting it or by reading it, and who is
listed now (`selected_after`). Once it was read it stays, for as long as nobody removes it or selects another one
(`due_stays`).
-/

namespace Colloquy.Roster

variable {π : Type}

/-- Whether the call reads the selection. -/
def Call.isRead : Call π → Bool
  | .selected | .selectedProvider => true
  | _ => false

/-- What is remembered after some calls, of which the latest comes first: what was selected, if it was listed then, or what was
read. -/
def rememberedOf : List (Call π) → Option String
  | [] => none
  | .select id :: before => if id ∈ (after before.reverse).ids then some id else rememberedOf before
  | .selected :: before => choose (rememberedOf before) (after before.reverse).ids
  | .selectedProvider :: before => choose (rememberedOf before) (after before.reverse).ids
  | _ :: before => rememberedOf before

/-- What is remembered after some calls. -/
def remembered (calls : List (Call π)) : Option String :=
  rememberedOf calls.reverse

/-- Whom a read gives after some calls. -/
def due (calls : List (Call π)) : Option String :=
  choose (remembered calls) (after calls).ids

variable {calls : List (Call π)} {id : String}

theorem remembered_concat (calls : List (Call π)) (c : Call π) :
    remembered (calls ++ [c]) = match c with
      | .select id => if id ∈ (after calls).ids then some id else remembered calls
      | .selected | .selectedProvider => due calls
      | _ => remembered calls := by
  rw [remembered, List.reverse_concat]
  cases c <;> simp [rememberedOf, remembered, due]

theorem selected_after (calls : List (Call π)) : (after calls).selected = remembered calls := by
  induction calls using List.reverseRecOn with
  | nil => rfl
  | append_singleton calls c ih =>
    have hremoval (id : String) (token : Option Nat) :
        ((after calls).removal id token).roster.selected = (after calls).selected := by
      obtain ⟨entries, hentries⟩ := (after calls).exists_entries_removal id token
      rw [hentries]
    have hread : (after calls).selection = due calls := by rw [selection_eq, ih, due]
    rw [after_concat, remembered_concat]
    cases c with
    | register id displayName provider => exact ih
    | unregister id => exact (hremoval id none).trans ih
    | deregister handle => exact (hremoval handle.id (some handle.token)).trans ih
    | select id =>
      rw [serve_select]
      dsimp only
      split
      · rfl
      · exact ih
    | selected => exact hread
    | selectedProvider => exact hread

theorem selection_after (calls : List (Call π)) : (after calls).selection = due calls := by
  rw [selection_eq, selected_after, due]

/-- Who is remembered and listed remains so after a call that neither removes the identifier nor selects another one. -/
theorem kept_concat (hid : remembered calls = some id) (hmem : id ∈ (after calls).ids) {c : Call π}
    (hkept : .unregistered id ∉ ((after calls).serve c).announced)
    (hother : ∀ id', .assistantSelected id' ∈ ((after calls).serve c).announced → id' = id) :
    remembered (calls ++ [c]) = some id ∧ id ∈ (after (calls ++ [c])).ids := by
  have hdue : due calls = some id := by rw [due, hid, choose_of_mem hmem]
  have hremoved (hc : c.isRegister = false) : id ∈ (after (calls ++ [c])).ids := by
    obtain ⟨e, he, rfl⟩ := List.mem_map.mp hmem
    rw [after_concat, ids, (isOrderly_after calls).entries_serve hc]
    refine List.mem_map_of_mem (List.mem_filter.mpr ⟨he, ?_⟩)
    cases hends : c.ends e.id e.token with
    | false => rfl
    | true =>
      obtain ⟨done, -, hannounced, hdone⟩ := served_after_of_removes calls (Call.removes?_of_ends hends hc)
      rw [hannounced, hdone.mpr ⟨e, he, hends⟩] at hkept
      exact absurd List.mem_cons_self hkept
  rw [remembered_concat]
  cases c with
  | register id' displayName provider =>
    refine ⟨hid, ?_⟩
    rw [after_concat, ids_register]
    split
    · exact hmem
    · exact List.mem_append_left _ hmem
  | unregister id' => exact ⟨hid, hremoved rfl⟩
  | deregister handle => exact ⟨hid, hremoved rfl⟩
  | select id' =>
    refine ⟨?_, hremoved rfl⟩
    rw [serve_select] at hother
    by_cases hid' : id' ∈ (after calls).ids
    · rw [if_pos hid'] at hother
      obtain rfl := hother id' List.mem_cons_self
      exact if_pos hid'
    · exact (if_neg hid').trans hid
  | selected => exact ⟨hdue, hremoved rfl⟩
  | selectedProvider => exact ⟨hdue, hremoved rfl⟩

/-- Who was read once is read again, unless the identifier was removed or another one was selected in the meantime. -/
theorem due_stays {read : Call π} (hread : read.isRead = true) (hdue : due calls = some id) (between : List (Call π))
    (hkept : .unregistered id ∉ (after (calls ++ [read])).announcedOf between)
    (hother : ∀ id', .assistantSelected id' ∈ (after (calls ++ [read])).announcedOf between → id' = id) :
    due (calls ++ read :: between) = some id := by
  have hboth : remembered (calls ++ [read] ++ between) = some id ∧ id ∈ (after (calls ++ [read] ++ between)).ids := by
    induction between using List.reverseRecOn with
    | nil =>
      have hmem := mem_of_choose hdue
      rw [List.append_nil, remembered_concat, after_concat]
      cases read with
      | selected => exact ⟨hdue, hmem⟩
      | selectedProvider => exact ⟨hdue, hmem⟩
      | _ => cases hread
    | append_singleton between c ih =>
      rw [announcedOf_append, ← run_append, announcedOf_cons] at hkept hother
      simp only [List.mem_append, not_or] at hkept hother
      obtain ⟨hid, hmem⟩ := ih hkept.1 fun id' h => hother id' (.inl h)
      rw [← List.append_assoc]
      exact kept_concat hid hmem hkept.2.1 fun id' h => hother id' (.inr (.inl h))
  rw [List.append_cons, due, hboth.1, choose_of_mem hboth.2]

end Colloquy.Roster
