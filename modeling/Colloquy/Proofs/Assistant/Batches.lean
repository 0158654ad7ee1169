import Mathlib.Data.List.Induction
import Colloquy.Proofs.Assistant.Registrations
import Colloquy.Provider.Basic

/-!
# Batches of registrations

A batch registers assistants one after the other, and an identifier may occur in it more than once. Of each identifier the last
registration stands, in the place that the identifier had, or else in the order in which the new ones first occur
(`Roster.isTakenIn_after`).
-/

namespace Colloquy.Roster

variable {π : Type}

/-- The calls that register a batch. -/
def registering (wrap : Provider → π) (batch : List ConfiguredProvider) : List (Call π) :=
  batch.map fun c => .register c.id c.displayName (wrap c.provider)

/-- The handles of a batch whose first registration has a given number. -/
def handlesFrom (number : Nat) (batch : List ConfiguredProvider) : List Registration :=
  batch.mapIdx fun i c => ⟨c.id, number + i⟩

/-- No later registration of a batch is one of the same identifier. -/
def IsLast (batch : List ConfiguredProvider) (i : Nat) (id : String) : Prop :=
  ∀ j d, i < j → batch[j]? = some d → d.id ≠ id

/-- What a roster is when it has taken in a batch, after any calls. Every identifier of the batch keeps its place or comes in the order in
which the new ones first occur, and has the name and the provider of its last registration; all others are as they were, and so is what
was selected. A handle of the batch removes an assistant just if it is that of the last registration of its identifier, and an older
handle just if it did so before and its identifier is not in the batch. -/
structure IsTakenIn (wrap : Provider → π) (batch : List ConfiguredProvider) (calls : List (Call π)) : Prop where
  ids : (after (calls ++ registering wrap batch)).ids =
    (after calls).ids ++ ((batch.map (·.id)).filter (· ∉ (after calls).ids)).eraseDups
  distinct : (after (calls ++ registering wrap batch)).ids.Nodup
  latest : ∀ i c, batch[i]? = some c → IsLast batch i c.id →
    (after (calls ++ registering wrap batch)).find? c.id =
      some ⟨c.id, c.displayName, wrap c.provider, registrations calls + i⟩
  others : ∀ id, id ∉ batch.map (·.id) → (after (calls ++ registering wrap batch)).find? id = (after calls).find? id
  selected : (after (calls ++ registering wrap batch)).selected = (after calls).selected
  handles : ∀ i c, batch[i]? = some c →
    (((after (calls ++ registering wrap batch)).serve (.deregister ⟨c.id, registrations calls + i⟩)).answer = .removed true ↔
      IsLast batch i c.id)
  older : ∀ handle : Registration, handle.token < registrations calls →
    (((after (calls ++ registering wrap batch)).serve (.deregister handle)).answer = .removed true ↔
      ((after calls).serve (.deregister handle)).answer = .removed true ∧ handle.id ∉ batch.map (·.id))

variable {wrap : Provider → π} {batch : List ConfiguredProvider} {calls : List (Call π)}

theorem registering_concat (c : ConfiguredProvider) :
    registering wrap (batch ++ [c]) = registering wrap batch ++ [.register c.id c.displayName (wrap c.provider)] := by
  rw [registering, List.map_append]
  rfl

theorem registrations_registering (calls : List (Call π)) (batch : List ConfiguredProvider) :
    registrations (calls ++ registering wrap batch) = registrations calls + batch.length := by
  induction batch using List.reverseRecOn with
  | nil => rw [registering, List.map_nil, List.append_nil, List.length_nil, Nat.add_zero]
  | append_singleton batch c ih =>
    rw [registering_concat, ← List.append_assoc, registrations, List.countP_append, List.length_append, ← Nat.add_assoc, ← ih]
    rfl

/-- Every registration of a batch is answered with its handle. -/
theorem answers_registering (calls : List (Call π)) (batch : List ConfiguredProvider) :
    (serveAll (after calls) (registering wrap batch)).map (fun s => s.2.answer) =
      (handlesFrom (registrations calls) batch).map .handle := by
  induction batch using List.reverseRecOn with
  | nil => rfl
  | append_singleton batch c ih =>
    have hnumber : ((after calls).run (registering wrap batch)).nextToken = registrations calls + batch.length := by
      rw [← run_append, nextToken_after, registrations_registering]
    have hanswer : (((after calls).run (registering wrap batch)).serve (.register c.id c.displayName (wrap c.provider))).answer =
        .handle ⟨c.id, registrations calls + batch.length⟩ := by
      rw [← hnumber]
      rfl
    rw [registering_concat, serveAll_append, List.map_append, ih, handlesFrom, handlesFrom, List.mapIdx_concat, List.map_append,
      serveAll, serveAll, List.map_singleton, List.map_singleton, hanswer]

/-- Every registration of a batch is announced with its name, in their order. -/
theorem announced_registering (r : Roster π) (batch : List ConfiguredProvider) :
    r.announcedOf (registering wrap batch) = batch.map fun c => .registered c.displayName := by
  induction batch generalizing r with
  | nil => rfl
  | cons c rest ih =>
    have hfirst : registering wrap (c :: rest) = .register c.id c.displayName (wrap c.provider) :: registering wrap rest := rfl
    rw [hfirst, announcedOf_cons, ih]
    rfl

/-! ## What is listed -/

theorem ids_registering (calls : List (Call π)) (batch : List ConfiguredProvider) :
    (after (calls ++ registering wrap batch)).ids =
      (after calls).ids ++ ((batch.map (·.id)).filter (· ∉ (after calls).ids)).eraseDups := by
  induction batch using List.reverseRecOn with
  | nil => rw [registering, List.map_nil, List.append_nil, List.map_nil, List.filter_nil, List.eraseDups_nil, List.append_nil]
  | append_singleton batch c ih =>
    rw [registering_concat, ← List.append_assoc, after_concat, ids_register, ih, List.map_append, List.filter_append,
      List.eraseDups_append, List.map_singleton]
    by_cases hold : c.id ∈ (after calls).ids
    · rw [if_pos (List.mem_append_left _ hold), List.filter_cons_of_neg (by simpa using hold)]
      simp [List.removeAll]
    · rw [List.filter_cons_of_pos (by simpa using hold), List.filter_nil]
      generalize hfresh : (batch.map (·.id)).filter (· ∉ (after calls).ids) = fresh
      by_cases hnew : c.id ∈ fresh
      · have hremoved : [c.id].removeAll fresh = [] := by simp [List.removeAll, hnew]
        rw [if_pos (List.mem_append_right _ (List.mem_eraseDups.mpr hnew)), hremoved, List.eraseDups_nil, List.append_nil]
      · have hnot : c.id ∉ (after calls).ids ++ fresh.eraseDups := by
          rw [List.mem_append, List.mem_eraseDups]
          exact not_or.mpr ⟨hold, hnew⟩
        have hremoved : [c.id].removeAll fresh = [c.id] := by simp [List.removeAll, hnew]
        rw [if_neg hnot, hremoved, List.append_assoc]
        rfl

theorem selected_registering (calls : List (Call π)) (batch : List ConfiguredProvider) :
    (after (calls ++ registering wrap batch)).selected = (after calls).selected := by
  induction batch using List.reverseRecOn with
  | nil => rw [registering, List.map_nil, List.append_nil]
  | append_singleton batch c ih =>
    rw [registering_concat, ← List.append_assoc, after_concat]
    exact ih

/-- What is not in the batch is found as before. -/
theorem find?_registering_of_not_mem {id : String} (hid : id ∉ batch.map (·.id)) :
    (after (calls ++ registering wrap batch)).find? id = (after calls).find? id := by
  induction batch using List.reverseRecOn with
  | nil => rw [registering, List.map_nil, List.append_nil]
  | append_singleton batch c ih =>
    rw [List.map_append, List.mem_append] at hid
    obtain ⟨hbefore, hc⟩ := not_or.mp hid
    rw [registering_concat, ← List.append_assoc, find?_register, if_neg (by simpa using hc), ih hbefore]

/-- The last registration of an identifier is found. -/
theorem find?_registering_of_isLast (wrap : Provider → π) (calls : List (Call π)) {i : Nat} {c : ConfiguredProvider}
    (hc : batch[i]? = some c) (hlast : IsLast batch i c.id) :
    (after (calls ++ registering wrap batch)).find? c.id =
      some ⟨c.id, c.displayName, wrap c.provider, registrations calls + i⟩ := by
  induction batch using List.reverseRecOn with
  | nil => cases hc
  | append_singleton batch d ih =>
    rw [registering_concat, ← List.append_assoc, find?_register]
    have hi : i < (batch ++ [d]).length := (List.getElem?_eq_some_iff.mp hc).1
    rw [List.length_append, List.length_singleton] at hi
    rcases Nat.lt_succ_iff_lt_or_eq.mp hi with hlt | rfl
    · rw [List.getElem?_append_left hlt] at hc
      have hd : d.id ≠ c.id := hlast batch.length d hlt List.getElem?_concat_length
      rw [if_neg (Ne.symm hd)]
      refine ih hc ?_
      intro j e hj he
      refine hlast j e hj ?_
      rw [List.getElem?_append_left (List.getElem?_eq_some_iff.mp he).1]
      exact he
    · rw [List.getElem?_concat_length] at hc
      obtain rfl := Option.some.inj hc
      rw [if_pos rfl, registrations_registering]

/-- Of every identifier of a batch there is a last registration. -/
theorem exists_isLast {i : Nat} {c : ConfiguredProvider} (hc : batch[i]? = some c) :
    ∃ k d, i ≤ k ∧ batch[k]? = some d ∧ d.id = c.id ∧ IsLast batch k d.id := by
  induction batch using List.reverseRecOn with
  | nil => cases hc
  | append_singleton batch e ih =>
    have hi : i < (batch ++ [e]).length := (List.getElem?_eq_some_iff.mp hc).1
    rw [List.length_append, List.length_singleton] at hi
    have hend : IsLast (batch ++ [e]) batch.length e.id := by
      intro j d hj hd
      have hlt : j < (batch ++ [e]).length := (List.getElem?_eq_some_iff.mp hd).1
      rw [List.length_append, List.length_singleton] at hlt
      omega
    by_cases he : e.id = c.id
    · exact ⟨batch.length, e, by omega, List.getElem?_concat_length, he, hend⟩
    · rcases Nat.lt_succ_iff_lt_or_eq.mp hi with hlt | rfl
      · rw [List.getElem?_append_left hlt] at hc
        obtain ⟨k, d, hk, hd, hid, hlast⟩ := ih hc
        have hkl : k < batch.length := (List.getElem?_eq_some_iff.mp hd).1
        refine ⟨k, d, hk, by rw [List.getElem?_append_left hkl, hd], hid, ?_⟩
        intro j x hj hx
        rw [List.getElem?_append] at hx
        split at hx
        · exact hlast j x hj hx
        · obtain rfl := List.mem_singleton.mp (List.mem_of_getElem? hx)
          rw [hid]
          exact he
      · rw [List.getElem?_concat_length] at hc
        exact absurd (congrArg ConfiguredProvider.id (Option.some.inj hc)) he

/-! ## Handles -/

/-- A handle removes an assistant just if its own registration is the one that is found. -/
theorem deregister_after_iff_find? (calls : List (Call π)) (handle : Registration) :
    ((after calls).serve (.deregister handle)).answer = .removed true ↔
      ∃ e, (after calls).find? handle.id = some e ∧ e.token = handle.token := by
  rw [deregister_after_iff]
  constructor
  · rintro ⟨displayName, provider, hstands⟩
    exact ⟨⟨handle.id, displayName, provider, handle.token⟩, find?_after_eq_some_iff.mpr ⟨rfl, hstands⟩, rfl⟩
  · rintro ⟨e, hfound, htoken⟩
    obtain ⟨hid, hstands⟩ := find?_after_eq_some_iff.mp hfound
    rw [hid, htoken] at hstands
    exact ⟨e.displayName, e.provider, hstands⟩

/-- Every roster takes in every batch. -/
theorem isTakenIn_after (wrap : Provider → π) (batch : List ConfiguredProvider) (calls : List (Call π)) :
    IsTakenIn wrap batch calls := by
  have hlater {id : String} (hmem : id ∈ batch.map (·.id)) : ∃ k d, batch[k]? = some d ∧ d.id = id ∧ IsLast batch k d.id := by
    obtain ⟨c, hc, rfl⟩ := List.mem_map.mp hmem
    obtain ⟨i, hi⟩ := List.mem_iff_getElem?.mp hc
    obtain ⟨k, d, -, hd, hid, hlast⟩ := exists_isLast hi
    exact ⟨k, d, hd, hid, hlast⟩
  refine ⟨ids_registering calls batch, (isOrderly_after _).distinct, fun i c hc hlast => find?_registering_of_isLast wrap calls hc hlast,
    fun id hid => find?_registering_of_not_mem hid, selected_registering calls batch, ?_, ?_⟩
  · intro i c hc
    rw [deregister_after_iff_find?]
    constructor
    · rintro ⟨e, hfound, htoken⟩
      obtain ⟨k, d, -, hd, hid, hlast⟩ := exists_isLast hc
      have hlatest := find?_registering_of_isLast wrap calls hd hlast
      rw [hid, hfound] at hlatest
      obtain rfl := Option.some.inj hlatest
      obtain rfl : k = i := Nat.add_left_cancel htoken
      exact hid ▸ hlast
    · intro hlast
      exact ⟨_, find?_registering_of_isLast wrap calls hc hlast, rfl⟩
  · intro handle hgiven
    rw [deregister_after_iff_find?, deregister_after_iff_find?]
    by_cases hmem : handle.id ∈ batch.map (·.id)
    · obtain ⟨k, d, hd, hid, hlast⟩ := hlater hmem
      constructor
      · rintro ⟨e, hfound, htoken⟩
        have hlatest := find?_registering_of_isLast wrap calls hd hlast
        rw [hid, hfound] at hlatest
        obtain rfl := Option.some.inj hlatest
        simp only at htoken
        omega
      · rintro ⟨-, hnot⟩
        exact absurd hmem hnot
    · rw [find?_registering_of_not_mem hmem]
      exact ⟨fun h => ⟨h, hmem⟩, And.left⟩

end Colloquy.Roster
