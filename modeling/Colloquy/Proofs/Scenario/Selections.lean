import Colloquy.Proofs.Assistant.Selections
import Colloquy.Proofs.Scenario.Sending

/-!
# Selections in a host

A roster heals its selection when it is read, whoever reads it, and remembers what it gave (`selection_follows_reads`): so it is in
every host, and in the one that plays scenarios.
-/

namespace Colloquy

variable {π : Type}

open Roster Scenario

namespace Scenario

/-- What an event tells of an announcement of the roster. -/
def Event.ofRoster? : Event → Option Announcement
  | .registered displayName _ => some (.registered displayName)
  | .unregistered id _ => some (.unregistered id)
  | .assistantSelected id => some (.assistantSelected id)
  | _ => none

/-- Where a host has its service, and what it has seen of the roster, while no listener is set to take a step. -/
def rosterLedger : Ledger (matter Backend) HostState :=
  ⟨HostState.service, fun w => w.events.reverse.filterMap Event.ofRoster?, fun w => w.hooks = []⟩

/-- A quiet host only notes what it hears of the roster. -/
theorem holds_hear (again : Taker) {w : HostState} {r : Roster Backend} {told : List Announcement} (hw : rosterLedger.Holds w r told)
    (kind : EventKind) {event : Event} {a : Announcement} (he : event.ofRoster? = some a) :
    rosterLedger.Holds ((hear again kind none event).run w).2 r (told ++ [a]) := by
  rw [run_hear_of_quiet again hw.inOrder]
  refine ⟨hw.inOrder, hw.part, ?_⟩
  have htold : (w.note event).events.reverse.filterMap Event.ofRoster? = w.events.reverse.filterMap Event.ofRoster? ++ [a] := by
    simp [HostState.note, he]
  exact htold.trans (congrArg (· ++ [a]) hw.told)

theorem host_records (again : Taker) : (host again).Records rosterLedger fun _ => False where
  state _ := rfl
  setState _ _ := rfl
  told _ _ := rfl
  keeps _ _ hw := hw
  announce {a} ha {w r told} hw := by
    refine ⟨[], nofun, ?_⟩
    cases a with
    | registered displayName => exact holds_hear again hw .register rfl
    | unregistered id => exact holds_hear again hw .unregister rfl
    | assistantSelected id => exact holds_hear again hw .select rfl
    | _ => cases ha

end Scenario

/-- What a roster gives when its selection is read, after any calls.
1. It gives what is remembered, if that is listed, and else the first that is; so nothing just if nobody is listed. What is remembered
   was selected last, if it was listed then, or read last, whichever came later (`remembered`). The provider that is read is the one
   of the identifier that would be read.
2. A selection of somebody who is listed succeeds and is announced, once. One of somebody else fails; it changes nothing, nor is it
   announced. A read leaves all entries as they are and announces nothing, and no other call announces a selection.
3. Who was read once is read again, whatever happens in between, unless the removal of the identifier or a selection of another one was
   announced.
4. In every host, whatever calls its listeners make while one of these calls is under way, all calls are served in one order, each as
   the one before left the roster. -/
theorem selection_follows_reads :
    (∀ calls : List (Call π),
      (((after calls).serve .selected).answer = .selection (due calls) ∧
        ((after calls).serve .selectedProvider).answer = .provider ((due calls).bind (after calls).provider?) ∧
        (∀ id, remembered calls = some id → id ∈ (after calls).ids → due calls = some id) ∧
        ((∀ id, remembered calls = some id → id ∉ (after calls).ids) → due calls = (after calls).ids.head?) ∧
        (due calls = none ↔ (after calls).ids = []) ∧
        ((due calls).bind (after calls).provider? = none ↔ (after calls).ids = [])) ∧
      ((∀ id, id ∈ (after calls).ids →
          (after calls).serve (.select id) =
            ⟨{ after calls with selected := some id }, .selected (.ok ()), [.assistantSelected id]⟩) ∧
        (∀ id, id ∉ (after calls).ids →
          (after calls).serve (.select id) = ⟨after calls, .selected (.error (.config ("Unknown assistant: " ++ id))), []⟩) ∧
        (∀ read : Call π, read.isRead = true →
          (after (calls ++ [read])).entries = (after calls).entries ∧ ((after calls).serve read).announced = []) ∧
        ∀ (c : Call π) id, .assistantSelected id ∈ ((after calls).serve c).announced → c = .select id) ∧
      ∀ (read : Call π) id, read.isRead = true → due calls = some id → ∀ between,
        .unregistered id ∉ (after (calls ++ [read])).announcedOf between →
        (∀ id', .assistantSelected id' ∈ (after (calls ++ [read])).announcedOf between → id' = id) →
        due (calls ++ read :: between) = some id) ∧
    ∀ (W : Type) (host : Host π (StateM W)) (l : Ledger (matter π) W) (may : Call π → Prop), host.Records l may →
      ∀ (w : W) (told : List Announcement), l.Holds w {} told → ∀ calls : List (Call π),
        Service.ServedInOrder host l may w {} told calls := by
  refine ⟨fun calls => ⟨⟨?_, ?_, ?_, ?_, choose_eq_none_iff, ?_⟩, ⟨?_, ?_, ?_, ?_⟩, ?_⟩, ?_⟩
  · exact congrArg Answer.selection (selection_after calls)
  · exact congrArg (fun id => Answer.provider (Option.bind id (after calls).provider?)) (selection_after calls)
  · intro id hid hmem
    rw [due, hid, choose_of_mem hmem]
  · exact choose_of_not_mem
  · have hnobody : (after calls).ids = [] ↔ (after calls).entries = [] := List.map_eq_nil_iff
    rw [hnobody, ← selectedProvider?_eq_none_iff, selectedProvider?, selection_after]
  · intro id hmem
    rw [serve_select, if_pos hmem]
  · intro id hmem
    rw [serve_select, if_neg hmem]
  · intro read hread
    rw [after_concat]
    cases read with
    | selected => exact ⟨rfl, rfl⟩
    | selectedProvider => exact ⟨rfl, rfl⟩
    | _ => cases hread
  · intro c id hannounced
    by_contra hne
    exact (not_mem_announced (after calls)).2.2 id hne hannounced
  · exact fun read id hread hdue between => due_stays hread hdue between
  · exact fun W host l may h w told hw calls => Service.served_askAll h hw calls

/-- The selection is removed and read, registered again and read, while somebody else is listed first. -/
def removedAndBack : List (Call Backend) :=
  [.register "a" "A" default, .register "b" "B" default, .select "b", .unregister "b", .register "b" "B" default, .selected, .unregister "b",
    .selected, .register "b" "B" default, .selected]

/-- An identifier that was selected is the selection again when it is listed again, but not once somebody else was read. -/
theorem removedAndBack_read :
    ((askAll (Service.call (host fun _ _ => pure .ok)) removedAndBack).run {}).1.filterMap (fun s =>
        match s.2 with
        | .selection id => some id
        | _ => none) = [some "b", some "a", some "a"] ∧
      (((askAll (Service.call (host fun _ _ => pure .ok)) removedAndBack).run {}).2.service.roster.selected = some "a") ∧
      rosterLedger.told ((askAll (Service.call (host fun _ _ => pure .ok)) removedAndBack).run {}).2 = announcedOf {} removedAndBack := by
  obtain ⟨all, -, hquiet, -, -, hafter⟩ := selection_follows_reads.2 _ _ _ _ (host_records fun _ _ => pure .ok) {} []
    ⟨rfl, rfl, rfl⟩ removedAndBack
  have htold := hafter.told
  rw [hquiet fun _ => id, List.nil_append] at htold
  refine ⟨by decide +kernel, by decide +kernel, ?_⟩
  rw [htold]

end Colloquy
