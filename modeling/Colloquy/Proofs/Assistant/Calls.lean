import Mathlib.Data.List.Induction
import Mathlib.Data.List.Nodup
import Colloquy.Proofs.Assistant.Roster
import Colloquy.Service.Basic

/-!
# Calls of a roster

Whatever is done to a roster is a sequence of calls, each of which finds it as the one before left it. A registration goes by its
number among all registrations, and is found in the calls alone: it is the one of its number, and no later call has ended it, by
another registration of its identifier, by removing whoever has the identifier, or by its own handle (`Roster.Stands`). The
entries of a roster are the registrations that stand (`mem_entries_after`).
-/

namespace Colloquy.Roster

variable {π : Type}

/-- What is asked of a roster. -/
inductive Call (π : Type) where
  | register (id displayName : String) (provider : π)
  | unregister (id : String)
  /-- Through the handle of a registration, or any copy of it. -/
  | deregister (handle : Registration)
  | select (id : String)
  | selected
  | selectedProvider

/-- What is answered. -/
inductive Answer (π : Type) where
  | handle (registration : Registration)
  | removed (done : Bool)
  | selected (result : Except Error Unit)
  | selection (id : Option String)
  | provider (provider : Option π)

/-- What comes of a call: the roster after it, the answer, and what is announced. -/
structure Served (π : Type) where
  roster : Roster π
  answer : Answer π
  announced : List Announcement := []

namespace Call

/-- Whether the call is a registration. -/
def isRegister : Call π → Bool
  | .register .. => true
  | _ => false

/-- The identifier that the call would remove. -/
def removes? : Call π → Option String
  | .unregister id => some id
  | .deregister handle => some handle.id
  | _ => none

/-- Whether the call ends the registration with a number, if its identifier is still its own. -/
def ends (id : String) (number : Nat) : Call π → Bool
  | .register id' _ _ => id' = id
  | .unregister id' => id' = id
  | .deregister handle => handle = ⟨id, number⟩
  | _ => false

/-- A call that ends a registration without making one removes its identifier. -/
theorem removes?_of_ends {c : Call π} {id : String} {number : Nat} (hends : c.ends id number = true) (hc : c.isRegister = false) :
    c.removes? = some id := by
  cases c with
  | register id' displayName provider => cases hc
  | unregister id' => exact congrArg some (of_decide_eq_true hends)
  | deregister handle => exact congrArg (fun h => some h.id) (of_decide_eq_true hends)
  | _ => cases hends

end Call

/-- What comes of removing an assistant. -/
def removal (r : Roster π) (id : String) (token : Option Nat) : Served π :=
  match r.remove? id token with
  | none => ⟨r, .removed false, []⟩
  | some roster => ⟨roster, .removed true, [.unregistered id]⟩

/-- Answers a call. -/
def serve (r : Roster π) : Call π → Served π
  | .register id displayName provider =>
    ⟨(r.register id displayName provider).2, .handle (r.register id displayName provider).1, [.registered displayName]⟩
  | .unregister id => r.removal id none
  | .deregister handle => r.removal handle.id (some handle.token)
  | .select id =>
    match r.select id with
    | .error e => ⟨r, .selected (.error e), []⟩
    | .ok roster => ⟨roster, .selected (.ok ()), [.assistantSelected id]⟩
  | .selected => ⟨r.heal, .selection r.selection, []⟩
  | .selectedProvider => ⟨r.heal, .provider r.selectedProvider?, []⟩

/-- The roster after some calls. -/
def run (r : Roster π) (calls : List (Call π)) : Roster π :=
  calls.foldl (fun r c => (r.serve c).roster) r

/-- What comes of some calls, one by one. -/
def serveAll (r : Roster π) : List (Call π) → List (Call π × Served π)
  | [] => []
  | c :: rest => (c, r.serve c) :: serveAll (r.serve c).roster rest

/-- All that is announced of some calls. -/
def announcedOf (r : Roster π) (calls : List (Call π)) : List Announcement :=
  (r.serveAll calls).flatMap fun s => s.2.announced

/-- A new roster after some calls. -/
abbrev after (calls : List (Call π)) : Roster π :=
  run {} calls

theorem run_append (r : Roster π) (a b : List (Call π)) : r.run (a ++ b) = (r.run a).run b := by
  rw [run, List.foldl_append]
  rfl

theorem after_concat (calls : List (Call π)) (c : Call π) : after (calls ++ [c]) = ((after calls).serve c).roster := by
  rw [after, run_append]
  rfl

theorem serveAll_append (r : Roster π) (a b : List (Call π)) :
    r.serveAll (a ++ b) = r.serveAll a ++ (r.run a).serveAll b := by
  induction a generalizing r with
  | nil => rfl
  | cons c rest ih =>
    rw [List.cons_append, serveAll, ih, serveAll]
    rfl

theorem length_serveAll (r : Roster π) (calls : List (Call π)) : (r.serveAll calls).length = calls.length := by
  induction calls generalizing r with
  | nil => rfl
  | cons c rest ih => exact congrArg (· + 1) (ih _)

theorem announcedOf_cons (r : Roster π) (c : Call π) (rest : List (Call π)) :
    r.announcedOf (c :: rest) = (r.serve c).announced ++ (r.serve c).roster.announcedOf rest := rfl

theorem announcedOf_append (r : Roster π) (a b : List (Call π)) :
    r.announcedOf (a ++ b) = r.announcedOf a ++ (r.run a).announcedOf b := by
  rw [announcedOf, serveAll_append, List.flatMap_append]
  rfl

/-! ## What a call does -/

/-- No identifier is listed twice, and no number of a registration is given twice. -/
structure IsOrderly (r : Roster π) : Prop where
  distinct : r.ids.Nodup
  fresh : ∀ e ∈ r.entries, e.token < r.nextToken

variable {r : Roster π} {id : String}

/-- An entry is the only one with its identifier. -/
theorem IsOrderly.find?_of_mem (h : r.IsOrderly) {e : RosterEntry π} (he : e ∈ r.entries) : r.find? e.id = some e := by
  obtain ⟨found, hfound⟩ := Option.isSome_iff_exists.mp (isSome_find?_iff.mpr (List.mem_map_of_mem he))
  obtain ⟨hmem, hid⟩ := mem_of_find? hfound
  rw [hfound, List.inj_on_of_nodup_map h.distinct hmem he hid]

/-- To remove an assistant takes away the entry that is meant, and says and announces whether there was one. -/
theorem IsOrderly.removal_eq (h : r.IsOrderly) (id : String) (token : Option Nat) {isMeant : RosterEntry π → Bool}
    (hmeant : ∀ e, isMeant e = decide (e.id = id ∧ token.all (· = e.token))) :
    r.removal id token = ⟨{ r with entries := r.entries.filter fun e => !isMeant e }, .removed (r.entries.any isMeant),
      if r.entries.any isMeant then [.unregistered id] else []⟩ := by
  have hnobody (hno : ∀ e ∈ r.entries, isMeant e = false) :
      r.entries.filter (fun e => !isMeant e) = r.entries ∧ r.entries.any isMeant = false :=
    ⟨List.filter_eq_self.mpr fun e he => by rw [hno e he]; rfl, List.any_eq_false.mpr fun e he => by rw [hno e he]; simp⟩
  unfold removal remove?
  cases hf : r.find? id with
  | none =>
    have hnot := find?_eq_none_iff.mp hf
    obtain ⟨hkept, hany⟩ := hnobody fun e he => by
      rw [hmeant, decide_eq_false]
      exact fun hid => hnot (hid.1 ▸ List.mem_map_of_mem he)
    rw [hkept, hany]
    rfl
  | some found =>
    obtain ⟨hmem, hid⟩ := mem_of_find? hf
    have honly (e : RosterEntry π) (he : e ∈ r.entries) (heid : e.id = id) : e = found := by
      have hsame := h.find?_of_mem he
      rw [heid, hf] at hsame
      exact (Option.some.inj hsame).symm
    by_cases ht : token.all (· = found.token)
    · have hfilter : r.entries.filter (fun e => decide (e.id ≠ id)) = r.entries.filter fun e => !isMeant e := by
        refine List.filter_congr fun e he => ?_
        rw [hmeant]
        by_cases heid : e.id = id
        · rw [honly e he heid]
          simp [hid, ht]
        · simp [heid]
      have hany : r.entries.any isMeant = true :=
        List.any_eq_true.mpr ⟨found, hmem, by rw [hmeant]; simp [hid, ht]⟩
      simp only [ht, if_true, hany, hfilter]
    · obtain ⟨hkept, hany⟩ := hnobody fun e he => by
        rw [hmeant, decide_eq_false]
        rintro ⟨heid, hetoken⟩
        exact ht (honly e he heid ▸ hetoken)
      simp only [ht, hkept, hany]
      rfl

/-- To select succeeds just if there is such an assistant. -/
theorem serve_select (r : Roster π) (id : String) :
    r.serve (.select id) = if id ∈ r.ids then ⟨{ r with selected := some id }, .selected (.ok ()), [.assistantSelected id]⟩
      else ⟨r, .selected (.error (.config ("Unknown assistant: " ++ id))), []⟩ := by
  rw [serve, select]
  by_cases hid : id ∈ r.ids
  · rw [if_pos hid, if_pos (isSome_find?_iff.mpr hid)]
  · rw [if_neg hid, if_neg (mt isSome_find?_iff.mp hid)]

/-- A call that can remove an assistant removes the registration that it ends. -/
theorem IsOrderly.serve_of_removes (h : r.IsOrderly) {c : Call π} (hc : c.removes? = some id) :
    r.serve c = ⟨{ r with entries := r.entries.filter fun e => !c.ends e.id e.token },
      .removed (r.entries.any fun e => c.ends e.id e.token),
      if r.entries.any fun e => c.ends e.id e.token then [.unregistered id] else []⟩ := by
  cases c with
  | unregister id' =>
    obtain rfl := Option.some.inj hc
    exact h.removal_eq id' none fun e => by simp [Call.ends, eq_comm]
  | deregister handle =>
    obtain rfl := Option.some.inj hc
    obtain ⟨id', token⟩ := handle
    exact h.removal_eq id' (some token) fun e => by simp [Call.ends, eq_comm]
  | _ => cases hc

/-- A call that registers nobody takes away the registration that it ends, if there is one, and changes no other entry. -/
theorem IsOrderly.entries_serve (h : r.IsOrderly) {c : Call π} (hc : c.isRegister = false) :
    (r.serve c).roster.entries = r.entries.filter fun e => !c.ends e.id e.token := by
  have hall (hends : ∀ e : RosterEntry π, c.ends e.id e.token = false) :
      (r.entries.filter fun e => !c.ends e.id e.token) = r.entries :=
    List.filter_eq_self.mpr fun e _ => by rw [hends]; rfl
  cases c with
  | register id displayName provider => cases hc
  | unregister id' => rw [h.serve_of_removes rfl]
  | deregister handle => rw [h.serve_of_removes rfl]
  | select id' =>
    rw [hall fun _ => rfl, serve_select]
    split <;> rfl
  | selected => rw [hall fun _ => rfl]; rfl
  | selectedProvider => rw [hall fun _ => rfl]; rfl

/-- To remove an assistant changes nothing but the entries. -/
theorem exists_entries_removal (r : Roster π) (id : String) (token : Option Nat) :
    ∃ entries, (r.removal id token).roster = { r with entries } := by
  unfold removal remove?
  cases r.find? id with
  | none => exact ⟨_, rfl⟩
  | some e =>
    by_cases ht : token.all (· = e.token)
    · exact ⟨r.entries.filter fun e => e.id ≠ id, by simp [ht]⟩
    · exact ⟨r.entries, by simp [ht]⟩

theorem nextToken_serve (r : Roster π) (c : Call π) :
    (r.serve c).roster.nextToken = r.nextToken + if c.isRegister then 1 else 0 := by
  have hremoval (id : String) (token : Option Nat) : (r.removal id token).roster.nextToken = r.nextToken := by
    obtain ⟨entries, hentries⟩ := r.exists_entries_removal id token
    rw [hentries]
  cases c with
  | register id displayName provider => rfl
  | unregister id' => exact hremoval id' none
  | deregister handle => exact hremoval handle.id (some handle.token)
  | select id' =>
    rw [serve_select]
    split <;> rfl
  | selected => rfl
  | selectedProvider => rfl

/-- A registration keeps the place of its identifier, or goes to the end. -/
theorem ids_register (r : Roster π) (id displayName : String) (provider : π) :
    (r.serve (.register id displayName provider)).roster.ids = if id ∈ r.ids then r.ids else r.ids ++ [id] := by
  by_cases hid : id ∈ r.ids
  · rw [if_pos hid]
    simp only [serve, register, ids, isSome_find?_iff.mpr hid, if_true, List.map_map]
    refine List.map_congr_left fun e _ => ?_
    by_cases heid : e.id = id <;> simp [heid]
  · have hnone : (r.find? id).isSome = false := by simpa using mt isSome_find?_iff.mp hid
    rw [if_neg hid]
    simp [serve, register, ids, hnone]

/-- The entries after a registration are those of other identifiers, and the one that it makes. -/
theorem mem_entries_register {id displayName : String} {provider : π} {e : RosterEntry π} :
    e ∈ (r.serve (.register id displayName provider)).roster.entries ↔
      (e ∈ r.entries ∧ e.id ≠ id) ∨ e = ⟨id, displayName, provider, r.nextToken⟩ := by
  by_cases hid : id ∈ r.ids
  · simp only [serve, register, isSome_find?_iff.mpr hid, if_true, List.mem_map]
    constructor
    · rintro ⟨e', he', rfl⟩
      by_cases heid : e'.id = id
      · exact .inr (if_pos heid)
      · rw [if_neg heid]
        exact .inl ⟨he', heid⟩
    · rintro (⟨he, heid⟩ | rfl)
      · exact ⟨e, he, if_neg heid⟩
      · obtain ⟨e', he', heid⟩ := List.mem_map.mp hid
        exact ⟨e', he', if_pos heid⟩
  · have hnone : (r.find? id).isSome = false := by simpa using mt isSome_find?_iff.mp hid
    have hother : e ∈ r.entries → e.id ≠ id := fun he heid => hid (heid ▸ List.mem_map_of_mem he)
    simp only [serve, register, hnone, List.mem_append, List.mem_singleton, Bool.false_eq_true, if_false]
    exact or_congr_left ⟨fun he => ⟨he, hother he⟩, And.left⟩

/-- After a call an entry is one that the call has not ended, or the one that it makes. -/
theorem IsOrderly.mem_entries_serve (h : r.IsOrderly) {c : Call π} {e : RosterEntry π} :
    e ∈ (r.serve c).roster.entries ↔ (e ∈ r.entries ∧ c.ends e.id e.token = false) ∨
      (c = .register e.id e.displayName e.provider ∧ e.token = r.nextToken) := by
  cases hc : c.isRegister with
  | true =>
    cases c with
    | register id displayName provider =>
      obtain ⟨id', displayName', provider', token⟩ := e
      rw [mem_entries_register]
      simp [Call.ends, eq_comm, and_assoc]
    | _ => cases hc
  | false =>
    have hnot : c ≠ .register e.id e.displayName e.provider := fun heq => by rw [heq] at hc; cases hc
    rw [h.entries_serve hc]
    simp [hnot]

theorem IsOrderly.serve (h : r.IsOrderly) (c : Call π) : (r.serve c).roster.IsOrderly := by
  constructor
  · cases hc : c.isRegister with
    | true =>
      cases c with
      | register id displayName provider =>
        rw [ids_register]
        split
        · exact h.distinct
        next hid => exact List.nodup_append.mpr ⟨h.distinct, List.nodup_singleton id, by simpa using fun a ha (heq : a = id) => hid (heq ▸ ha)⟩
      | _ => cases hc
    | false =>
      rw [ids, h.entries_serve hc]
      exact h.distinct.sublist (List.filter_sublist.map _)
  · intro e he
    rw [nextToken_serve]
    rcases h.mem_entries_serve.mp he with ⟨hold, -⟩ | ⟨rfl, hnew⟩
    · exact Nat.lt_of_lt_of_le (h.fresh e hold) (Nat.le_add_right _ _)
    · rw [hnew]
      exact Nat.lt_succ_self _

theorem isOrderly_after (calls : List (Call π)) : (after calls).IsOrderly := by
  induction calls using List.reverseRecOn with
  | nil => exact ⟨List.nodup_nil, fun _ he => absurd he List.not_mem_nil⟩
  | append_singleton calls c ih =>
    rw [after_concat]
    exact ih.serve c

/-! ## The registrations that stand -/

/-- The number of registrations among some calls. -/
def registrations (calls : List (Call π)) : Nat :=
  calls.countP Call.isRegister

/-- Among some calls there is a registration of this number, and none of the calls after it has ended it. -/
def Stands (calls : List (Call π)) (number : Nat) (id displayName : String) (provider : π) : Prop :=
  ∃ before later, calls = before ++ .register id displayName provider :: later ∧ registrations before = number ∧
    ∀ c ∈ later, c.ends id number = false

theorem nextToken_after (calls : List (Call π)) : (after calls).nextToken = registrations calls := by
  induction calls using List.reverseRecOn with
  | nil => rfl
  | append_singleton calls c ih =>
    rw [after_concat, nextToken_serve, ih, registrations, registrations, List.countP_append, List.countP_singleton]

variable {calls : List (Call π)} {number : Nat} {displayName : String} {provider : π}

/-- One call more: a registration goes on to stand if the call does not end it, and the call may be the registration itself. -/
theorem stands_concat (c : Call π) :
    Stands (calls ++ [c]) number id displayName provider ↔
      (Stands calls number id displayName provider ∧ c.ends id number = false) ∨
      (c = .register id displayName provider ∧ number = registrations calls) := by
  constructor
  · rintro ⟨before, later, hcalls, hnumber, hlater⟩
    rcases List.eq_nil_or_concat later with rfl | ⟨later, last, rfl⟩
    · obtain ⟨rfl, hc⟩ := List.append_inj' hcalls rfl
      exact .inr ⟨List.singleton_inj.mp hc, hnumber.symm⟩
    · have hsplit : calls ++ [c] = (before ++ .register id displayName provider :: later) ++ [last] := by simpa using hcalls
      obtain ⟨rfl, hc⟩ := List.append_inj' hsplit rfl
      obtain rfl := List.singleton_inj.mp hc
      exact .inl ⟨⟨before, later, rfl, hnumber, fun x hx => hlater x (by simp [hx])⟩, hlater c (by simp)⟩
  · rintro (⟨⟨before, later, rfl, hnumber, hlater⟩, hc⟩ | ⟨rfl, rfl⟩)
    · refine ⟨before, later ++ [c], by simp, hnumber, fun x hx => ?_⟩
      rcases List.mem_append.mp hx with hx | hx
      · exact hlater x hx
      · exact List.mem_singleton.mp hx ▸ hc
    · exact ⟨calls, [], rfl, rfl, fun _ hx => absurd hx List.not_mem_nil⟩

/-- The entries of a roster are the registrations that stand. -/
theorem mem_entries_after {e : RosterEntry π} :
    e ∈ (after calls).entries ↔ Stands calls e.token e.id e.displayName e.provider := by
  induction calls using List.reverseRecOn with
  | nil =>
    refine ⟨fun he => absurd he List.not_mem_nil, ?_⟩
    rintro ⟨before, later, hnil, -⟩
    exact absurd hnil.symm (by simp)
  | append_singleton calls c ih =>
    rw [after_concat, (isOrderly_after calls).mem_entries_serve, stands_concat, ih, nextToken_after]

/-- What has ended a registration has ended it for good. -/
theorem not_stands_of_ended {c : Call π} (hnumber : number < registrations calls) (hc : c.ends id number = true)
    (later : List (Call π)) : ¬Stands (calls ++ c :: later) number id displayName provider := by
  induction later using List.reverseRecOn with
  | nil =>
    rw [stands_concat]
    rintro (⟨-, hends⟩ | ⟨-, heq⟩)
    · rw [hc] at hends
      cases hends
    · omega
  | append_singleton later last ih =>
    rw [← List.cons_append, ← List.append_assoc, stands_concat]
    rintro (⟨hstands, -⟩ | ⟨-, heq⟩)
    · exact ih hstands
    · have hle : registrations calls ≤ registrations (calls ++ c :: later) := by simp [registrations]
      omega

end Colloquy.Roster
