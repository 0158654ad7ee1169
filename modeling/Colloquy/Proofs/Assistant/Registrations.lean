import Colloquy.Proofs.Service.Consultation

/-!
# Handles of registrations

A handle removes the registration that it was given for and no other one: not a later one of the same identifier, nor that one again
once it has ended (`registrations_stand`).
-/

namespace Colloquy

variable {π : Type}

namespace Roster

variable {calls : List (Call π)} {c : Call π} {id : String}

/-- What is found is a registration that stands. -/
theorem find?_after_eq_some_iff {e : RosterEntry π} :
    (after calls).find? id = some e ↔ e.id = id ∧ Stands calls e.token e.id e.displayName e.provider := by
  rw [← mem_entries_after]
  constructor
  · exact fun hf => (mem_of_find? hf).symm
  · rintro ⟨rfl, he⟩
    exact (isOrderly_after calls).find?_of_mem he

theorem provider?_after_eq_some_iff {provider : π} :
    (after calls).provider? id = some provider ↔ ∃ number displayName, Stands calls number id displayName provider := by
  rw [provider?, Option.map_eq_some_iff]
  constructor
  · rintro ⟨e, he, rfl⟩
    obtain ⟨rfl, hstands⟩ := find?_after_eq_some_iff.mp he
    exact ⟨e.token, e.displayName, hstands⟩
  · rintro ⟨number, displayName, hstands⟩
    exact ⟨⟨id, displayName, provider, number⟩, find?_after_eq_some_iff.mpr ⟨rfl, hstands⟩, rfl⟩

/-- A registration is found under its identifier, and all others as before. -/
theorem find?_register (id displayName : String) (provider : π) (id' : String) :
    (after (calls ++ [.register id displayName provider])).find? id' =
      if id' = id then some ⟨id, displayName, provider, registrations calls⟩ else (after calls).find? id' := by
  split
  next heq =>
    subst heq
    rw [find?_after_eq_some_iff, stands_concat]
    exact ⟨rfl, .inr ⟨rfl, rfl⟩⟩
  next hne =>
    refine Option.ext fun e => ?_
    rw [find?_after_eq_some_iff, find?_after_eq_some_iff, stands_concat]
    refine and_congr_right fun hid => ?_
    subst hid
    have hother : Call.register id displayName provider ≠ .register e.id e.displayName e.provider :=
      fun heq => hne (Call.register.inj heq).1.symm
    simp [Call.ends, Ne.symm hne, hother]

/-- What a call that can remove an assistant answers and announces: whether it has ended a registration. -/
theorem served_after_of_removes (calls : List (Call π)) (hc : c.removes? = some id) :
    ∃ done, ((after calls).serve c).answer = .removed done ∧
      ((after calls).serve c).announced = (if done then [.unregistered id] else []) ∧
      (done = true ↔ ∃ e ∈ (after calls).entries, c.ends e.id e.token = true) := by
  rw [(isOrderly_after calls).serve_of_removes hc]
  exact ⟨_, rfl, rfl, List.any_eq_true⟩

/-- A handle removes an assistant just if its own registration stands. -/
theorem deregister_after_iff (handle : Registration) :
    ((after calls).serve (.deregister handle)).answer = .removed true ↔
      ∃ displayName provider, Stands calls handle.token handle.id displayName provider := by
  obtain ⟨done, hanswer, -, hdone⟩ := served_after_of_removes calls (c := .deregister handle) rfl
  rw [hanswer, Answer.removed.injEq, hdone]
  constructor
  · rintro ⟨e, he, hends⟩
    have hhandle : handle = ⟨e.id, e.token⟩ := of_decide_eq_true hends
    rw [hhandle]
    exact ⟨e.displayName, e.provider, mem_entries_after.mp he⟩
  · rintro ⟨displayName, provider, hstands⟩
    exact ⟨⟨handle.id, displayName, provider, handle.token⟩, mem_entries_after.mpr hstands, decide_eq_true rfl⟩

theorem unregister_after_iff (id : String) :
    ((after calls).serve (.unregister id)).answer = .removed true ↔ id ∈ (after calls).ids := by
  obtain ⟨done, hanswer, -, hdone⟩ := served_after_of_removes calls (c := .unregister id) rfl
  rw [hanswer, Answer.removed.injEq, hdone, ids, List.mem_map]
  exact exists_congr fun e => and_congr_right fun _ => ⟨fun hends => (of_decide_eq_true hends).symm, fun hid => decide_eq_true hid.symm⟩

/-- Once a handle was used, it removes nobody any more, nor does any copy of it. -/
theorem deregister_spent {handle : Registration} (hgiven : handle.token < registrations calls) (later : List (Call π)) :
    ((after (calls ++ .deregister handle :: later)).serve (.deregister handle)).answer = .removed false := by
  obtain ⟨done, hanswer, -, -⟩ :=
    served_after_of_removes (calls ++ .deregister handle :: later) (c := .deregister handle) rfl
  cases done with
  | false => exact hanswer
  | true =>
    obtain ⟨displayName, provider, hstands⟩ := (deregister_after_iff handle).mp hanswer
    exact absurd hstands (not_stands_of_ended (c := .deregister handle) hgiven (decide_eq_true rfl) later)

/-- Calls that remove nobody announce no removal, those that register nobody no registration, and only a selection announces one. -/
theorem not_mem_announced (r : Roster π) :
    (c.removes? = none → ∀ id, .unregistered id ∉ (r.serve c).announced) ∧
      (c.isRegister = false → ∀ displayName, .registered displayName ∉ (r.serve c).announced) ∧
      ∀ id, c ≠ .select id → .assistantSelected id ∉ (r.serve c).announced := by
  have hremoval (id : String) (token : Option Nat) :
      (∀ displayName, .registered displayName ∉ (r.removal id token).announced) ∧
        ∀ id', .assistantSelected id' ∉ (r.removal id token).announced := by
    unfold removal
    cases r.remove? id token <;> simp
  cases c with
  | register id displayName provider => simp [serve, Call.isRegister]
  | unregister id =>
    have h := hremoval id none
    exact ⟨by simp [Call.removes?], fun _ => h.1, fun id' _ => h.2 id'⟩
  | deregister handle =>
    have h := hremoval handle.id (some handle.token)
    exact ⟨by simp [Call.removes?], fun _ => h.1, fun id' _ => h.2 id'⟩
  | select id =>
    rw [serve_select]
    split
    · refine ⟨by simp, by simp, fun id' hne hmem => hne ?_⟩
      rw [Announcement.assistantSelected.inj (List.mem_singleton.mp hmem)]
    · simp
  | selected => simp [serve]
  | selectedProvider => simp [serve]

end Roster

open Roster

/-- What a roster is after any calls, in whatever order, through whatever copies of handles.
1. No identifier is listed twice. The entries are the registrations that stand, each with its own name and provider: a registration of
   an identifier stands until another one of that identifier, or until it is removed. A provider is found just for the identifiers
   that are listed.
2. A registration is given a handle with its own number, and is found with its name and provider. It keeps the place of its identifier
   if that is listed, and else comes last; no other entry is changed.
3. Every other call takes away the registration that it ends, if there is one, and leaves all others as they are, in their order. To
   remove an identifier succeeds just if it is listed, and a handle removes an assistant just if its own registration stands; so no
   handle does, nor any copy, once one of them was used.
4. A registration announces its name, once, and no other call announces one. A removal that succeeds announces the identifier, once,
   and no other call announces one.
5. In every host, whatever calls its listeners make while one of these calls is under way, all calls are served in one order, each as
   the one before left the roster: that order settles every answer, what is listed, and what is announced. -/
theorem registrations_stand :
    (∀ calls : List (Call π),
      ((after calls).ids.Nodup ∧
        (∀ e, e ∈ (after calls).entries ↔ Stands calls e.token e.id e.displayName e.provider) ∧
        (∀ id provider, (after calls).provider? id = some provider ↔
          ∃ number displayName, Stands calls number id displayName provider) ∧
        ∀ id, (after calls).provider? id = none ↔ id ∉ (after calls).ids) ∧
      (∀ id displayName provider,
        ((after calls).serve (.register id displayName provider)).answer = .handle ⟨id, registrations calls⟩ ∧
        (after (calls ++ [.register id displayName provider])).ids =
          (if id ∈ (after calls).ids then (after calls).ids else (after calls).ids ++ [id]) ∧
        ∀ id', (after (calls ++ [.register id displayName provider])).find? id' =
          if id' = id then some ⟨id, displayName, provider, registrations calls⟩ else (after calls).find? id') ∧
      ((∀ c : Call π, c.isRegister = false →
          (after (calls ++ [c])).entries = (after calls).entries.filter fun e => !c.ends e.id e.token) ∧
        (∀ id, ((after calls).serve (.unregister id)).answer = .removed true ↔ id ∈ (after calls).ids) ∧
        ∀ handle,
          (((after calls).serve (.deregister handle)).answer = .removed true ↔
            ∃ displayName provider, Stands calls handle.token handle.id displayName provider) ∧
          (handle.token < registrations calls → ∀ later,
            ((after (calls ++ .deregister handle :: later)).serve (.deregister handle)).answer = .removed false)) ∧
      ((∀ id displayName provider,
          ((after calls).serve (.register id displayName provider)).announced = [.registered displayName]) ∧
        (∀ (c : Call π) id, c.removes? = some id → ∃ done, ((after calls).serve c).answer = .removed done ∧
          ((after calls).serve c).announced = if done then [.unregistered id] else []) ∧
        ∀ c : Call π,
          (c.isRegister = false → ∀ displayName, .registered displayName ∉ ((after calls).serve c).announced) ∧
          (c.removes? = none → ∀ id, .unregistered id ∉ ((after calls).serve c).announced))) ∧
    ∀ (W : Type) (host : Host π (StateM W)) (l : Ledger (matter π) W) (may : Call π → Prop), host.Records l may →
      ∀ (w : W) (told : List Announcement), l.Holds w {} told → ∀ calls : List (Call π),
        Service.ServedInOrder host l may w {} told calls := by
  refine ⟨fun calls => ⟨⟨(isOrderly_after calls).distinct, fun _ => mem_entries_after, fun _ _ => provider?_after_eq_some_iff,
    fun _ => provider?_eq_none_iff⟩, ?_, ⟨?_, unregister_after_iff, ?_⟩, ⟨fun _ _ _ => rfl, ?_, ?_⟩⟩, ?_⟩
  · intro id displayName provider
    refine ⟨?_, ?_, find?_register id displayName provider⟩
    · rw [← nextToken_after]
      rfl
    · rw [after_concat]
      exact ids_register _ id displayName provider
  · intro c hc
    rw [after_concat]
    exact (isOrderly_after calls).entries_serve hc
  · exact fun handle => ⟨deregister_after_iff handle, deregister_spent⟩
  · intro c id hc
    obtain ⟨done, hanswer, hannounced, -⟩ := served_after_of_removes calls hc
    exact ⟨done, hanswer, hannounced⟩
  · exact fun c => ⟨(not_mem_announced (after calls)).2.1, (not_mem_announced (after calls)).1⟩
  · exact fun W host l may h w told hw calls => Service.served_askAll h hw calls

/-- Listeners who register an assistant again as soon as it is removed. -/
def reinstating : Announcement → List Announcement → Errand (Call Nat) (Answer Nat)
  | .unregistered id, _ => .ask (.register id "Again" 2) fun _ => .done
  | _, _ => .done

/-- An assistant is registered and removed, and so is what came in its place, before its handle is used. -/
def staleHandle : List (Call Nat) :=
  [.register "a" "Once" 1, .unregister "a", .deregister ⟨"a", 0⟩]

/-- The handle of a registration that has ended removes nobody, though its identifier is listed again. -/
theorem staleHandle_removes_nobody :
    ∃ all, ((askAll (Service.call (Bureau.host (matter Nat) Service.call reinstating 1)) staleHandle).run {}).1.Sublist
        ((serveAll {} all).map fun s => (s.1, s.2.answer)) ∧
      ((askAll (Service.call (Bureau.host (matter Nat) Service.call reinstating 1)) staleHandle).run {}).1.map Prod.snd =
        [.handle ⟨"a", 0⟩, .removed true, .removed false] ∧
      (after all).entries = [⟨"a", "Again", 2, 1⟩] ∧
      announcedOf {} all = [.registered "Once", .unregistered "a", .registered "Again"] := by
  obtain ⟨all, -, -, -, hsub, hafter⟩ := registrations_stand.2 _ _ _ _ (Bureau.roster_records reinstating 1)
    {} [] ⟨trivial, rfl, rfl⟩ staleHandle
  refine ⟨all, hsub, rfl, ?_, ?_⟩
  · have hroster := Service.roster_of_holds hafter
    rw [after, ← hroster]
    decide +kernel
  · have htold := hafter.told
    rw [← List.nil_append (announcedOf {} all), ← htold]
    decide +kernel

end Colloquy
