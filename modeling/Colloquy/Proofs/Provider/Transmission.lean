import Colloquy.Proofs.Provider.AnthropicEvents
import Colloquy.Proofs.Provider.OpenAiEvents

/-!
# What is sent arrives

Texts that a vendor sends are emitted as they were, whatever characters they hold, whatever lines stand between them, whichever ends
the lines have, and wherever the bytes are cut (`carried_texts_arrive`). OpenAI marks the end, and what follows the mark does not
count; Anthropic only stops, and has to have sent something.
-/

namespace Colloquy

/-- A reply of success whose lines carry texts, up to a mark of the end: these texts, and no error. -/
theorem outcome_marked {α : Type} {dialect : Dialect α} {wire : Wire} (hwire : wire.IsUnderstood dialect.reader dialect.text)
    {body : List UInt8} {ts : List String} (h : Carries wire body ts) {chunks : List (List UInt8)} {withReturn : Bool}
    {later : List UInt8} (hchunks : chunks.flatten = body ++ (Utf8.encode doneLine.toList ++ lineEnd withReturn ++ later)) :
    Network.outcomeOf dialect 200 chunks .complete = (ts, .ok ()) := by
  have hlast (rest : List UInt8) : completeLines (Utf8.encode doneLine.toList ++ lineEnd withReturn ++ rest) =
      doneLine :: completeLines rest := by
    rw [completeLines_encode (by decide) fun _ => by decide, String.ofList_toList]
  have hbytes : Reply.bytes 200 chunks = chunks.flatten := rfl
  rw [Network.outcomeOf, Network.outcome, if_pos (by decide), hbytes, hchunks, h.walk_eq hwire, hlast, Network.walk_done,
    List.append_nil]

/-- A reply of success whose lines carry texts, and nothing else: these texts, and no error unless it is empty. -/
theorem outcome_unmarked {α : Type} {dialect : Dialect α} {wire : Wire} (hwire : wire.IsUnderstood dialect.reader dialect.text)
    {body : List UInt8} {ts : List String} (h : Carries wire body ts) (hbody : body ≠ []) {chunks : List (List UInt8)}
    (hchunks : chunks.flatten = body) : Network.outcomeOf dialect 200 chunks .complete = (ts, .ok ()) := by
  have hbytes : Reply.bytes 200 chunks = chunks.flatten := rfl
  have hbroken : Reply.breaksOff 200 .complete = false := rfl
  have hwalk := @Carries.walk_eq _ _ _ (Network.atEnd body false) _ hwire _ _ h []
  rw [List.append_nil] at hwalk
  have hend : Network.walk dialect.reader dialect.text (Network.atEnd body false) (completeLines []) = ([], .ok ()) := by
    rw [completeLines_eq, List.splitOn_nil, Network.atEnd, if_neg (by decide), if_neg hbody]
    rfl
  rw [Network.outcomeOf, Network.outcome, if_pos (by decide), hbytes, hbroken, hchunks, hwalk, hend, List.append_nil]

/-- Texts that either vendor sends, in a body of lines that is cut into chunks anywhere. For OpenAI the lines are followed by the mark
of the end and by anything at all; for Anthropic by nothing, and there is at least one. A call that nobody stops, with an address
that can be asked for and a key that can be sent, emits these texts, in their order and as they were, and ends without an error. -/
theorem carried_texts_arrive {endpoint : Endpoint} {u : Url} (hu : endpoint.Reaches u) (maxTokens : Nat) (request : ChatRequest)
    {replyTo : Nat → Reply} {chunks : List (List UInt8)} (hreply : replyTo 0 = .answered 200 chunks .complete) {body : List UInt8}
    {ts : List String} :
    (Carries OpenAi.wire body ts → ∀ {withReturn : Bool} {later : List UInt8},
        chunks.flatten = body ++ (Utf8.encode "data: [DONE]".toList ++ lineEnd withReturn ++ later) →
        let call := CallPlan.run {} replyTo ((Provider.openai endpoint).perform request)
        call.1 = .finished (.ok ()) ∧ call.2.pieces = ts.toArray) ∧
      (Carries Anthropic.wire body ts → body ≠ [] → chunks.flatten = body →
        let call := CallPlan.run {} replyTo ((Provider.anthropic endpoint maxTokens).perform request)
        call.1 = .finished (.ok ()) ∧ call.2.pieces = ts.toArray) := by
  constructor
  · intro h withReturn later hchunks call
    have hbearer : HttpRequest.headerHolds ("Bearer " ++ endpoint.apiKey) = true := by
      rw [headerHolds_append, hu.key]
      decide
    have hheaders : (OpenAi.dialect endpoint request).headers.all (fun x => HttpRequest.headerHolds x.2) = true := by
      simp only [OpenAi.dialect, List.all_cons, List.all_nil, hbearer]
      decide
    have hcall := Network.run_perform replyTo (OpenAi.dialect endpoint request) (hu.build hheaders _) hreply (by decide)
    rw [outcome_marked (OpenAi.wire_isUnderstood endpoint request) h hchunks] at hcall
    exact ⟨congrArg Prod.fst hcall, congrArg (·.2.pieces) hcall⟩
  · intro h hbody hchunks call
    have hheaders : (Anthropic.dialect endpoint maxTokens request).headers.all (fun x => HttpRequest.headerHolds x.2) = true := by
      simp only [Anthropic.dialect, List.all_cons, List.all_nil, hu.key]
      decide
    have hcall := Network.run_perform replyTo (Anthropic.dialect endpoint maxTokens request) (hu.build hheaders _) hreply (by decide)
    rw [outcome_unmarked (Anthropic.wire_isUnderstood endpoint maxTokens request) h hbody hchunks] at hcall
    exact ⟨congrArg Prod.fst hcall, congrArg (·.2.pieces) hcall⟩

/-- Two texts, with an event that only gives a role, a line that is no event, and an empty line between them. -/
def openaiScraps : List UInt8 :=
  [eventLine (OpenAi.textPayload "\"\\\r\n") true,
    eventLine "\x7b\"choices\":[\x7b\"delta\":\x7b\"role\":\"assistant\"\x7d\x7d]\x7d".toList false,
    Utf8.encode ": data".toList ++ lineEnd true, [] ++ lineEnd false, eventLine (OpenAi.textPayload "\x00😀") false].flatten

/-- The same texts, with a line that names an event, and a sign of life, between them. -/
def anthropicScraps : List UInt8 :=
  [eventLine (Anthropic.textPayload 0 "\"\\\r\n") true, Utf8.encode "event: ping".toList ++ lineEnd true,
    eventLine "\x7b\"type\":\"ping\"\x7d".toList false, eventLine (Anthropic.textPayload 1 "\x00😀") false].flatten

theorem openaiScraps_carries : Carries OpenAi.wire openaiScraps ["\"\\\r\n", "\x00😀"] := by
  have hrole : OpenAi.IsPayload "\x7b\"choices\":[\x7b\"delta\":\x7b\"role\":\"assistant\"\x7d\x7d]\x7d".toList none := by
    refine ⟨4, .obj [("choices", .arr [.obj [("delta", .obj [("role", .str "assistant")])]])], [none], ?_,
      .mk rfl (.cons (.mk rfl (.absent rfl)) .nil), rfl⟩
    decide +kernel
  unfold openaiScraps
  simp only [List.flatten_cons, List.flatten_nil]
  refine .text rfl true (.idle hrole ?_ ?_ (.other ?_ ?_ true (.other ?_ ?_ false (.text rfl false .nil))))
  · decide +kernel
  · decide +kernel
  · decide +kernel
  · decide +kernel
  · decide +kernel
  · decide +kernel

theorem anthropicScraps_carries : Carries Anthropic.wire anthropicScraps ["\"\\\r\n", "\x00😀"] := by
  have hping : Anthropic.IsPayload "\x7b\"type\":\"ping\"\x7d".toList none := by
    refine ⟨.obj [("type", .str "ping")], ?_, .other rfl (by decide) (by decide)⟩
    decide +kernel
  have hspeaks (index : UInt64) (t : String) : Anthropic.wire.isText t (Anthropic.textPayload index t) := ⟨index, rfl⟩
  unfold anthropicScraps
  simp only [List.flatten_cons, List.flatten_nil]
  refine .text (hspeaks 0 _) true (.other ?_ ?_ true (.idle hping ?_ ?_ (.text (hspeaks 1 _) false .nil)))
  · decide +kernel
  · decide +kernel
  · decide +kernel
  · decide +kernel

/-- Bytes that come one by one. -/
def oneByOne (bytes : List UInt8) : Nat → Reply :=
  fun _ => .answered 200 (bytes.map fun b => [b]) .complete

theorem flatten_oneByOne (bytes : List UInt8) : (bytes.map fun b => [b]).flatten = bytes := by
  rw [← List.flatMap_def, List.flatMap_singleton']

/-- Both texts arrive, byte by byte, and OpenAI's also with a text after the mark of the end. -/
theorem scraps_arrive :
    (Endpoint.mk "key" "model" "http://[::1]/").Reaches ⟨"http".toList, some { host := "[::1]".toList }, ['/'], none, none⟩ ∧
      (CallPlan.run {} (oneByOne (openaiScraps ++ (Utf8.encode "data: [DONE]".toList ++ lineEnd true ++ openaiScraps)))
        ((Provider.openai ⟨"key", "model", "http://[::1]/"⟩).perform default)).2.pieces = #["\"\\\r\n", "\x00😀"] ∧
      (CallPlan.run {} (oneByOne anthropicScraps)
        ((Provider.anthropic ⟨"key", "model", "http://[::1]/"⟩ 1).perform default)).2.pieces = #["\"\\\r\n", "\x00😀"] := by
  have hu : (Endpoint.mk "key" "model" "http://[::1]/").Reaches
      ⟨"http".toList, some { host := "[::1]".toList }, ['/'], none, none⟩ :=
    ⟨by decide +kernel, rfl, .inl rfl, by decide +kernel, by decide +kernel⟩
  have hne : anthropicScraps ≠ [] := by decide +kernel
  refine ⟨hu, ?_, ?_⟩
  · exact ((carried_texts_arrive hu 1 default rfl).1 openaiScraps_carries (flatten_oneByOne _)).2
  · exact ((carried_texts_arrive hu 1 default rfl).2 anthropicScraps_carries hne (flatten_oneByOne _)).2

end Colloquy
