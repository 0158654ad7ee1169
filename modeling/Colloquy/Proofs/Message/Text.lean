import Colloquy.Message
import Colloquy.Proofs.Json.Printing
import Colloquy.Proofs.Json.Slots
import Colloquy.Proofs.Message.Identifiers
import Colloquy.Proofs.Time.Timestamps

/-!
# The text of a message

An object tells a message by fields in any order, among others (`Message.IsTold`), and is read as that message
(`Message.follows_record`). The JSON form of a message whose timestamp RFC 3339 can tell is such an object.
-/

namespace Colloquy

open Json (Follows Exact bind_eq_ok)
open Json.Record (Fills follows_read follows_slot keeps_slot)

namespace Role

theorem lookup_name (r : Role) : named.lookup r.name = some r := by
  cases r <;> rfl

theorem follows_reader (depth : Nat) : Follows (reader depth) fun v r => v = .str r.name := by
  rintro depth' text rest _ r h rfl
  exact Json.follows_choice named depth h ⟨r.name, rfl, lookup_name r⟩

end Role

namespace Message

variable {fs : List (String × Json)} {m : Message} {time : String}

/-- An identifier, in any of the forms in which it is read. -/
def TellsId (v : Json) (id : Uuid) : Prop :=
  ∃ s, v = .str s ∧ Uuid.read s = .ok id

/-- A timestamp, in any of the forms in which it is read. -/
def TellsTime (v : Json) (time : Instant) : Prop :=
  ∃ s, v = .str s ∧ Timestamp.read s = .ok time

theorem follows_uuid : Follows uuid TellsId := by
  rintro depth text rest _ id h ⟨s, rfl, hid⟩
  refine Json.follows_stringAs _ _ h ⟨s, rfl, ?_⟩
  rw [hid]
  rfl

theorem follows_instant : Follows instant TellsTime := by
  rintro depth text rest _ time h ⟨s, rfl, htime⟩
  refine Json.follows_stringAs _ _ h ⟨s, rfl, ?_⟩
  rw [htime]
  rfl

theorem follows_error : Follows (Json.optional Json.string) fun v o => v = .null ∧ o = none ∨ ∃ s, v = .str s ∧ o = some s :=
  Follows.optional Json.follows_string (by simp)

/-- The slots of a message are gathered one by one, whatever the order of the fields. -/
theorem gathers_of_fills {depth : Nat} {s s' : Slots} (hid : Fills "id" TellsId fs s.id s'.id)
    (hrole : Fills "role" (fun v (r : Role) => v = .str r.name) fs s.role s'.role)
    (hcontent : Fills "content" (fun v c => v = .str c) fs s.content s'.content)
    (htime : Fills "timestamp" TellsTime fs s.timestamp s'.timestamp)
    (herror : Fills "error" (fun v o => v = .null ∧ o = none ∨ ∃ e, v = .str e ∧ o = some e) fs s.error s'.error) :
    record.Gathers depth s fs s' := by
  induction fs generalizing s with
  | nil =>
    have hs : s = s' := by
      obtain ⟨sid, srole, scontent, stime, serror⟩ := s
      obtain ⟨sid', srole', scontent', stime', serror'⟩ := s'
      obtain rfl : sid = sid' := hid.eq_of_nil
      obtain rfl : srole = srole' := hrole.eq_of_nil
      obtain rfl : scontent = scontent' := hcontent.eq_of_nil
      obtain rfl : stime = stime' := htime.eq_of_nil
      obtain rfl : serror = serror' := herror.eq_of_nil
      rfl
    rw [hs]
    exact .nil
  | cons f fs ih =>
    obtain ⟨k, v⟩ := f
    by_cases h1 : k = "id"
    · subst h1
      obtain ⟨b, hb, hnone, -, hid⟩ := hid.exists_of_cons
      refine .take rfl (by simp [Json.Field.slot, hnone]) (follows_slot (fun _ => uuid) follows_uuid hb s) ?_
      exact ih hid (hrole.of_cons (by decide)) (hcontent.of_cons (by decide)) (htime.of_cons (by decide)) (herror.of_cons (by decide))
    by_cases h2 : k = "role"
    · subst h2
      obtain ⟨b, hb, hnone, -, hrole⟩ := hrole.exists_of_cons
      refine .take rfl (by simp [Json.Field.slot, hnone]) (follows_slot Role.reader (Role.follows_reader _) hb s) ?_
      exact ih (hid.of_cons (by decide)) hrole (hcontent.of_cons (by decide)) (htime.of_cons (by decide)) (herror.of_cons (by decide))
    by_cases h3 : k = "content"
    · subst h3
      obtain ⟨b, hb, hnone, -, hcontent⟩ := hcontent.exists_of_cons
      refine .take rfl (by simp [Json.Field.slot, hnone]) (follows_slot (fun _ => Json.string) Json.follows_string hb s) ?_
      exact ih (hid.of_cons (by decide)) (hrole.of_cons (by decide)) hcontent (htime.of_cons (by decide)) (herror.of_cons (by decide))
    by_cases h4 : k = "timestamp"
    · subst h4
      obtain ⟨b, hb, hnone, -, htime⟩ := htime.exists_of_cons
      refine .take rfl (by simp [Json.Field.slot, hnone]) (follows_slot (fun _ => instant) follows_instant hb s) ?_
      exact ih (hid.of_cons (by decide)) (hrole.of_cons (by decide)) (hcontent.of_cons (by decide)) htime (herror.of_cons (by decide))
    by_cases h5 : k = "error"
    · subst h5
      obtain ⟨b, hb, hnone, -, herror⟩ := herror.exists_of_cons
      refine .take rfl (by simp [Json.Field.slot, hnone]) (follows_slot (fun _ => Json.optional Json.string) follows_error hb s) ?_
      exact ih (hid.of_cons (by decide)) (hrole.of_cons (by decide)) (hcontent.of_cons (by decide)) (htime.of_cons (by decide)) herror
    · refine .pass ?_ (ih (hid.of_cons h1) (hrole.of_cons h2) (hcontent.of_cons h3) (htime.of_cons h4) (herror.of_cons h5))
      simp [record, Json.Field.slot, Ne.symm h1, Ne.symm h2, Ne.symm h3, Ne.symm h4, Ne.symm h5]

/-- The fields of an object tell a message, whose timestamp has the text `time`, in any order and among fields of other names. -/
structure IsTold (fs : List (String × Json)) (m : Message) (time : String) : Prop where
  id : ∃ s, fs.filter (·.1 = "id") = [("id", .str s)] ∧ Uuid.read s = .ok m.id
  role : fs.filter (·.1 = "role") = [("role", .str m.role.name)]
  content : fs.filter (·.1 = "content") = [("content", .str m.content)]
  timestamp : fs.filter (·.1 = "timestamp") = [("timestamp", .str time)]
  error : Json.HoldsText "error" (.obj fs) m.error

/-- An object that tells a message is read as that message. -/
theorem follows_record (depth : Nat) :
    Follows (record.read (depth + 1)) fun v m => ∃ fs time, v = .obj fs ∧ IsTold fs m time ∧ Timestamp.read time = .ok m.timestamp := by
  rintro depth' text rest _ m hv ⟨fs, time, rfl, htold, htime⟩
  obtain ⟨id, hid, hidread⟩ := htold.id
  obtain ⟨error, herror, hjoin⟩ := Fills.of_holdsText htold.error
  refine follows_read record depth hv ⟨fs, ⟨some m.id, some m.role, some m.content, some m.timestamp, error⟩, rfl, ?_, ?_⟩
  · exact gathers_of_fills (.take hid ⟨id, rfl, hidread⟩) (.take htold.role rfl) (.take htold.content rfl)
      (.take htold.timestamp ⟨time, rfl, htime⟩) herror
  · have hfinish : record.finish ⟨some m.id, some m.role, some m.content, some m.timestamp, error⟩ =
        .ok ⟨m.id, m.role, m.content, m.timestamp, error.join⟩ := rfl
    rw [hfinish, hjoin]

/-! ## The JSON form -/

/-- The fields of the JSON form. -/
def written (m : Message) : List (String × Json) :=
  [("id", .str m.id.toText), ("role", .str m.role.name), ("content", .str m.content),
      ("timestamp", .str (String.ofList (Timestamp.print m.timestamp)))]
    ++ (m.error.map fun e => ("error", Json.str e)).toList

theorem isTold_written (m : Message) : IsTold m.written m (String.ofList (Timestamp.print m.timestamp)) := by
  obtain ⟨id, role, content, timestamp, error⟩ := m
  cases error with
  | none => exact ⟨⟨_, rfl, Uuid.read_toText id⟩, rfl, rfl, rfl, .absent rfl⟩
  | some e => exact ⟨⟨_, rfl, Uuid.read_toText id⟩, rfl, rfl, rfl, .text rfl⟩

/-- The JSON form holds texts only. -/
theorem exact_toJson (m : Message) (depth : Nat) : Exact (depth + 1) m.toJson := by
  refine .obj ?_
  intro f hf
  rcases List.mem_append.mp hf with hf | hf
  · have htexts : f = ("id", .str m.id.toText) ∨ f = ("role", .str m.role.name) ∨ f = ("content", .str m.content) ∨
        f = ("timestamp", .str (String.ofList (Timestamp.print m.timestamp))) := by simpa using hf
    rcases htexts with rfl | rfl | rfl | rfl <;> exact .str _
  · obtain ⟨e, -, rfl⟩ := Option.map_eq_some_iff.mp (Option.mem_toList.mp hf)
    exact .str e

/-- A message whose timestamp RFC 3339 can tell is read as what it was. -/
theorem follows_toJson (depth : Nat) : Follows (record.read (depth + 1)) fun v m => v = m.toJson ∧ m.timestamp.IsCivil := by
  rintro depth' text rest v m hv ⟨rfl, hcivil⟩
  exact follows_record depth hv ⟨m.written, _, rfl, isTold_written m, Timestamp.read_print hcivil⟩

/-! ## What is read -/

/-- The second of the timestamp, if there is one, is one of a day. -/
def Slots.IsOfDay (s : Slots) : Prop :=
  ∀ t ∈ s.timestamp, t.second < Instant.dayLength

theorem second_lt_of_instant {text rest : List Char} {t : Instant} (h : instant text = .ok (t, rest)) : t.second < Instant.dayLength := by
  unfold instant Json.stringAs at h
  split at h
  · obtain ⟨⟨s, later⟩, -, h⟩ := bind_eq_ok.mp h
    cases hread : Timestamp.read s with
    | error e => simp [hread, Except.mapError] at h
    | ok i =>
      simp only [hread, Except.mapError, Except.ok.injEq, Prod.mk.injEq] at h
      rw [← h.1]
      exact Timestamp.second_lt_of_read hread
  · exact absurd h Json.Record.wrongType_ne_ok

theorem keeps_isOfDay : Json.Record.Keeps record.fields Slots.IsOfDay := by
  intro f hf depth s s' text rest hread hs
  simp only [record, List.mem_cons, List.not_mem_nil, or_false] at hf
  rcases hf with rfl | rfl | rfl | rfl | rfl
  · exact keeps_slot (P := Slots.IsOfDay) hread hs fun _ h => h
  · exact keeps_slot (P := Slots.IsOfDay) hread hs fun _ h => h
  · exact keeps_slot (P := Slots.IsOfDay) hread hs fun _ h => h
  · refine keeps_slot (P := Slots.IsOfDay) hread hs fun ht _ t hmem => ?_
    cases hmem
    exact second_lt_of_instant ht
  · exact keeps_slot (P := Slots.IsOfDay) hread hs fun _ h => h

/-- The second of a message that was read is one of a day. -/
theorem second_lt_of_read {depth : Nat} {text rest : List Char} (h : record.read depth text = .ok (m, rest)) :
    m.timestamp.second < Instant.dayLength := by
  obtain ⟨s, hs, hfinish⟩ := Json.Record.exists_slots_of_read keeps_isOfDay nofun h
  obtain ⟨_, -, hfinish⟩ := bind_eq_ok.mp hfinish
  obtain ⟨_, -, hfinish⟩ := bind_eq_ok.mp hfinish
  obtain ⟨_, -, hfinish⟩ := bind_eq_ok.mp hfinish
  obtain ⟨t, htime, hfinish⟩ := bind_eq_ok.mp hfinish
  cases hfinish
  cases hslot : s.timestamp with
  | none => rw [hslot] at htime; cases htime
  | some i =>
    rw [hslot] at htime
    cases htime
    exact hs _ hslot

end Message

end Colloquy
