import Colloquy.Proofs.Json.Values
import Colloquy.Proofs.Message.Lines
import Colloquy.Provider.Conversation
import Colloquy.Provider.Echo

/-!
# The text of a request

A request is read from its text as what it was, but for a context that is `null`: what is read then is a request without a context
(`requests_keep_their_context`), though the vendors are told of a context that is `null` and not of one that is missing.
-/

namespace Colloquy

open Json (Follows Exact IsCanonical)
open Json.Record (follows_read follows_slot gathers_optional)

namespace ChatRequest

variable {r : ChatRequest}

/-- The parts of a request can be told: the timestamps of its history in RFC 3339, and its context without floating-point numbers and
nested no deeper than is left inside a request. -/
structure IsTellable (r : ChatRequest) : Prop where
  history : ∀ m ∈ r.history, m.timestamp.IsCivil
  context : ∀ c ∈ r.context, Exact 126 c

theorem exact_toJson (h : r.IsTellable) : Exact 127 r.toJson := by
  refine .obj ?_
  intro f hf
  rcases List.mem_append.mp hf with hf | hf
  · have hparts : f = ("prompt", .str r.prompt) ∨ f = ("history", .arr (r.history.map Message.toJson)) := by simpa using hf
    rcases hparts with rfl | rfl
    · exact .str _
    · refine .arr ?_
      intro v hv
      obtain ⟨m, -, rfl⟩ := List.mem_map.mp hv
      exact Message.exact_toJson m 124
  · obtain ⟨c, hc, rfl⟩ := Option.map_eq_some_iff.mp (Option.mem_toList.mp hf)
    exact h.context c hc

/-- The slots that the fields of a request fill. A context that is `null` leaves none behind. -/
def filled (r : ChatRequest) : Slots :=
  ⟨some r.prompt, some r.history, r.context.map fun c => if c = .null then none else some c⟩

theorem finish_filled (r : ChatRequest) :
    record.finish r.filled = .ok { r with context := (r.context.filter (· ≠ .null)).map Json.canonical } := by
  have hfinish : record.finish r.filled =
      .ok ⟨r.prompt, r.history, (r.context.map fun c => if c = .null then none else some c).join.map Json.canonical⟩ := rfl
  have hjoin : (r.context.map fun c => if c = .null then none else some c).join = r.context.filter (· ≠ .null) := by
    cases r.context with
    | none => rfl
    | some c => by_cases hc : c = .null <;> simp [hc, Option.filter]
  rw [hfinish, hjoin]

/-- The last field fills the last slot, if it is there. -/
theorem gathers_context (h : r.IsTellable) :
    record.Gathers 126 { r.filled with context := none } (r.context.map fun c => ("context", c)).toList r.filled := by
  have hvalue : Follows (Json.value 126) fun v c => (c = v ∧ Exact 126 v) ∧ v ≠ .null :=
    fun hv hc => Json.follows_value 126 hv hc.1
  have hreader : Follows (Json.optional (Json.value 126))
      fun v o => v = .null ∧ o = none ∨ ∃ c, ((c = v ∧ Exact 126 v) ∧ v ≠ .null) ∧ o = some c :=
    Follows.optional hvalue (by simp)
  rw [← List.append_nil (Option.toList _)]
  show record.Gathers 126 _ ((r.context.map fun c => ("context", id c)).toList ++ []) _
  refine gathers_optional rfl rfl ?_ ?_ .nil
  · intro hnone
    simp only [filled, hnone, Option.map_none]
  · intro c hc
    have hmeaning : c = .null ∧ (if c = .null then none else some c) = none ∨
        ∃ d, ((d = c ∧ Exact 126 c) ∧ c ≠ .null) ∧ (if c = .null then none else some c) = some d := by
      by_cases hnull : c = .null
      · exact .inl ⟨hnull, if_pos hnull⟩
      · exact .inr ⟨c, ⟨⟨rfl, h.context c hc⟩, hnull⟩, if_neg hnull⟩
    refine ⟨_, follows_slot (fun depth => Json.optional (Json.value depth)) hreader hmeaning _, ?_⟩
    simp only [filled, hc, Option.map_some]

/-- A request is read as what it was, a context that is `null` apart. -/
theorem follows_record : Follows (record.read 127)
    fun v s => ∃ r : ChatRequest, r.IsTellable ∧ v = r.toJson ∧
      s = { r with context := (r.context.filter (· ≠ .null)).map Json.canonical } := by
  rintro depth text rest _ _ hv ⟨r, h, rfl, rfl⟩
  have hhistory : List.Forall₂ (fun v (m : Message) => v = m.toJson ∧ m.timestamp.IsCivil) (r.history.map Message.toJson) r.history := by
    rw [List.forall₂_map_left_iff, List.forall₂_same]
    exact fun m hm => ⟨rfl, h.history m hm⟩
  refine follows_read record 126 hv ⟨_, r.filled, rfl, ?_, r.finish_filled⟩
  refine .take rfl rfl (follows_slot (fun _ => Json.string) Json.follows_string rfl _) ?_
  exact .take rfl rfl
    (follows_slot (Json.array Message.record.read) (Follows.array (Message.follows_toJson 124)) ⟨_, rfl, hhistory⟩ _) (gathers_context h)

theorem read_compact (h : r.IsTellable) : Json.read r.toJson.compact = .ok r.toJson :=
  Json.read_compact (exact_toJson h)

/-- Vendors are told of a context that is `null`, and of none that is missing. -/
theorem conversation_null_ne (r : ChatRequest) (takes : Role → Bool) :
    { r with context := some .null }.conversation takes ≠ { r with context := none }.conversation takes := by
  intro heq
  have hlength := congrArg List.length heq
  simp [conversation, contextExchange, nonEmptyHistory] at hlength

/-- The echo provider announces a context that is `null` too. -/
theorem echo_null_ne (r : ChatRequest) (delayMs : Nat) :
    Echo.perform delayMs { r with context := some .null } ≠ Echo.perform delayMs { r with context := none } := by
  simp only [Echo.perform]
  cases r.prompt.toList with
  | nil => exact nofun
  | cons c later => exact nofun

/-- So does the text of a request. -/
theorem compact_null_ne (r : ChatRequest) (h : { r with context := none }.IsTellable) :
    { r with context := some .null }.toJson.compact ≠ { r with context := none }.toJson.compact := by
  intro heq
  have hnull : { r with context := some .null }.IsTellable := ⟨h.history, by rintro _ ⟨⟩; exact .null⟩
  have hread := read_compact hnull
  rw [heq, read_compact h] at hread
  have hlength := congrArg List.length (Json.obj.inj (Except.ok.inj hread))
  simp at hlength

end ChatRequest

open ChatRequest in
/-- A request, with timestamps that RFC 3339 can tell and a context that its text can hold, is read from its text with its prompt, its
history and its context, unless that context is `null`: then the request that is read has none. So it is read as what it was just if its
context is not `null`. Yet its text says whether the context is `null` or missing, and so does what every provider makes of it. -/
theorem requests_keep_their_context (r : ChatRequest) (h : r.IsTellable) (hcanonical : ∀ c ∈ r.context, IsCanonical c) :
    decodeLine (payloadOf record.read) (dataMark ++ r.toJson.compact) =
        .event (.ok { r with context := r.context.filter (· ≠ .null) }) ∧
      (decodeLine (payloadOf record.read) (dataMark ++ r.toJson.compact) = .event (.ok r) ↔ r.context ≠ some .null) ∧
      { r with context := some .null }.toJson.compact ≠ { r with context := none }.toJson.compact ∧
      (∀ takes, { r with context := some .null }.conversation takes ≠ { r with context := none }.conversation takes) ∧
      ∀ delayMs, Echo.perform delayMs { r with context := some .null } ≠ Echo.perform delayMs { r with context := none } := by
  have hcanonical : (r.context.filter (· ≠ .null)).map Json.canonical = r.context.filter (· ≠ .null) := by
    cases hcontext : r.context with
    | none => rfl
    | some c =>
      have hc := Json.canonical_eq_self (hcanonical c hcontext)
      by_cases hnull : c = .null
      · simp [hnull, Option.filter]
      · simp [hnull, Option.filter, hc]
  have hread : decodeLine (payloadOf record.read) (dataMark ++ r.toJson.compact) =
      .event (.ok { r with context := r.context.filter (· ≠ .null) }) :=
    decodeLine_object follows_record (read_compact h) ⟨r, h, rfl, by rw [hcanonical]⟩
  refine ⟨hread, ?_, compact_null_ne r ⟨h.history, nofun⟩, conversation_null_ne r, echo_null_ne r⟩
  rw [hread]
  simp only [DecodedLine.event.injEq, Except.ok.injEq]
  constructor
  · intro heq hnull
    have hcontext := congrArg ChatRequest.context heq
    simp [hnull, Option.filter] at hcontext
  · intro hnull
    have hcontext : r.context.filter (· ≠ .null) = r.context := by
      cases hr : r.context with
      | none => rfl
      | some c =>
        have hc : c ≠ .null := fun hc => hnull (by rw [hr, hc])
        simp [hc, Option.filter]
    rw [hcontext]

/-- The request whose context is `null` is told from the one without, and is read as the one without. -/
theorem nullContext_is_forgotten :
    ChatRequest.toJson ⟨"p", [], some .null⟩ ≠ ChatRequest.toJson ⟨"p", [], none⟩ ∧
      decodeLine (payloadOf ChatRequest.record.read) "data: \x7b\"prompt\":\"p\",\"history\":[],\"context\":null\x7d" =
        .event (.ok ⟨"p", [], none⟩) := by
  have h := requests_keep_their_context ⟨"p", [], some .null⟩ ⟨nofun, by rintro _ ⟨⟩; exact .null⟩ (by rintro _ ⟨⟩; exact .null)
  exact ⟨by decide, h.1⟩

end Colloquy
