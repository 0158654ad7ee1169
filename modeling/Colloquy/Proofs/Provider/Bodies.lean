import Colloquy.Proofs.Json.Printing
import Colloquy.Proofs.Provider.CutShort
import Colloquy.Proofs.Provider.Outcome

/-!
# Bodies of requests

What a provider sends is a text, and the vendor reads it as JSON: it finds the fields of the request, with every text in them as it was
(`requests_are_told_in_full`). A context is a JSON text inside a JSON text, and is found by reading twice.
-/

namespace Colloquy

open Json (Exact)

namespace Performance

/-- A request may be sent, if what comes back for those before it is such that it comes to this. -/
def Sends (q : HttpRequest) : Performance → Prop
  | .done _ => False
  | .emit _ next => next.Sends q
  | .check next => next.Sends q
  | .wait _ next => next.Sends q
  | .hang => False
  | .exchange request next => q = request ∨ ∃ reply, (next reply).Sends q

variable {p : Performance} {q : HttpRequest}

theorem SendsNothing.not_sends (h : p.SendsNothing) : ¬p.Sends q := by
  induction p with
  | done result => exact id
  | emit text next ih => exact ih h
  | check next ih => exact ih h
  | wait ms next ih => exact ih h
  | hang => exact id
  | exchange request next ih => exact h.elim

/-- What was sent in a call was sent before, or is what the provider may send. -/
theorem sends_of_mem_sent (plan : CallPlan) (replyTo : Nat → Reply) {s : CallState}
    (h : q ∈ ((p.run (plan.stage replyTo)).run s).2.sent) : q ∈ s.sent ∨ p.Sends q := by
  induction p generalizing s with
  | done result => exact .inl h
  | emit text next ih => exact ih (s := plan.emit text s) h
  | check next ih =>
    rw [(CallPlan.halts plan replyTo).run_check] at h
    split at h
    · exact .inl h
    · exact ih h
  | wait ms next ih =>
    have hsent := (CallPlan.requests_wait plan ms s).1
    rw [CallPlan.run_wait] at h
    rcases hwait : plan.wait ms s with ⟨_ | _ | _, v⟩ <;> rw [hwait] at h hsent
    · exact (ih h).imp (fun h => hsent ▸ h) id
    · exact .inl (hsent ▸ h)
    · exact .inl (hsent ▸ h)
  | hang =>
    have hlook : (Performance.hang.run (plan.stage replyTo)).run s =
        StateT.run (if s.stopped then pure (.finished (.ok ())) else pure .unfinished) s := rfl
    rw [hlook] at h
    split at h <;> exact .inl h
  | exchange request next ih =>
    have hsent {v : CallState} (hq : q ∈ v.sent) (hv : v = (plan.exchange replyTo request s).2) : q ∈ s.sent ∨ q = request := by
      subst hv
      unfold CallPlan.exchange at hq
      split at hq
      · exact .inl hq
      · dsimp only at hq
        split at hq
        · simpa using hq
        · split at hq <;> simpa using hq
    rw [CallPlan.run_exchange] at h
    rcases hexchange : plan.exchange replyTo request s with ⟨_ | _ | _, v⟩ <;> rw [hexchange] at h hsent
    · rcases ih _ h with hv | hnext
      · exact (hsent hv rfl).imp id .inl
      · exact .inr (.inr ⟨_, hnext⟩)
    · exact (hsent h rfl).imp id .inl
    · exact (hsent h rfl).imp id .inl

end Performance

/-- A request to a vendor has the body of its dialect. -/
theorem Network.body_of_sends {α : Type} (dialect : Dialect α) {url : String} {q : HttpRequest} (h : (perform dialect url).Sends q) :
    q.body = dialect.body.compact := by
  unfold perform at h
  split at h
  · exact h.elim
  next request hbuild =>
    rcases h with rfl | ⟨reply, hnext⟩
    · unfold HttpRequest.build at hbuild
      split at hbuild
      · cases hbuild
      split at hbuild
      · cases hbuild
      split at hbuild
      · cases hbuild
      dsimp only at hbuild
      split at hbuild
      · cases hbuild
        rfl
      · cases hbuild
    · exact ((respond_sendsNothing dialect request reply).not_sends hnext).elim

/-- What a vendor that can be reached is sent in a call, even if nobody is there. -/
theorem Network.sent_perform {α : Type} (dialect : Dialect α) {url : String} {request : HttpRequest}
    (h : HttpRequest.build url dialect.headers dialect.body.compact = .ok request) :
    (CallPlan.run {} (fun _ => .unreachable) (perform dialect url)).2.sent = [request] := by
  rw [perform, h, CallPlan.run, CallPlan.run_exchange]
  rfl

/-! ## The JSON of bodies -/

theorem WireMessage.exact_toJson (m : WireMessage) (depth : Nat) : Exact (depth + 1) m.toJson := by
  refine .obj ?_
  simp only [List.forall_mem_cons]
  exact ⟨.str _, .str _, nofun⟩

theorem WireMessage.exact_list (ms : List WireMessage) (depth : Nat) : Exact (depth + 2) (.arr (ms.map toJson)) := by
  refine .arr ?_
  intro v hv
  obtain ⟨m, -, rfl⟩ := List.mem_map.mp hv
  exact m.exact_toJson depth

theorem OpenAi.exact_body (model : String) (r : ChatRequest) (depth : Nat) : Exact (depth + 3) (body model r) := by
  refine .obj ?_
  simp only [List.forall_mem_cons]
  exact ⟨.str _, WireMessage.exact_list _ depth, .bool _, nofun⟩

theorem Anthropic.exact_body (model : String) {maxTokens : Nat} (h : maxTokens ≤ 0xFFFFFFFFFFFFFFFF) (r : ChatRequest) (depth : Nat) :
    Exact (depth + 3) (body model maxTokens r) := by
  refine .obj ?_
  simp only [List.forall_mem_cons]
  exact ⟨.str _, WireMessage.exact_list _ depth, .int (by omega) (by omega), .str _, .bool _, nofun⟩

/-- The messages of the history that a vendor is sent: those with a text whose role it takes. -/
def ChatRequest.toldHistory (r : ChatRequest) (takes : Role → Bool) : List WireMessage :=
  (r.history.filter fun m => m.content ≠ "" ∧ takes m.role).map fun m => ⟨m.role.name, m.content⟩

theorem ChatRequest.conversation_eq (r : ChatRequest) (takes : Role → Bool) :
    r.conversation takes = r.toldHistory takes ++ contextExchange r.context ++ [⟨"user", r.prompt⟩] := by
  have hkept : r.nonEmptyHistory.filter (fun m => takes m.role) = r.history.filter fun m => m.content ≠ "" ∧ takes m.role := by
    rw [nonEmptyHistory, List.filter_filter]
    refine List.filter_congr fun m _ => ?_
    rw [Message.isEmpty, Bool.eq_iff_iff]
    simp [and_comm]
  rw [conversation, toldHistory, hkept]
  rfl

/-- Whatever a vendor is sent is read as a JSON object with the fields of that vendor, in which every text is as it was: the model, the
persona, and the role and content of each message, of which there is one for every message with a text whose role the vendor takes, two
for a context, and the prompt. The content of the message with the context is read as that context in its turn, if that has no
floating-point numbers and is nested no deeper than is read. And no call sends anything else. -/
theorem requests_are_told_in_full (endpoint : Endpoint) (r : ChatRequest) :
    let object (m : WireMessage) : Json := .obj [("role", .str m.role), ("content", .str m.content)]
    (∀ q, ((Provider.openai endpoint).perform r).Sends q →
      Json.read q.body = .ok (.obj [("model", .str endpoint.model),
        ("messages", .arr ((⟨"system", persona⟩ :: r.conversation fun _ => true).map object)), ("stream", .bool true)])) ∧
    (∀ maxTokens q, maxTokens ≤ 0xFFFFFFFFFFFFFFFF → ((Provider.anthropic endpoint maxTokens).perform r).Sends q →
      Json.read q.body = .ok (.obj [("model", .str endpoint.model),
        ("messages", .arr ((r.conversation fun role => role != .system).map object)), ("max_tokens", .nat maxTokens),
        ("system", .str persona), ("stream", .bool true)])) ∧
    (∀ takes, r.conversation takes = r.toldHistory takes ++ ChatRequest.contextExchange r.context ++ [⟨"user", r.prompt⟩]) ∧
    (∀ c, r.context = some c → Exact Json.depthLimit c →
      ∃ text, ChatRequest.contextExchange r.context = [⟨"user", text⟩, ⟨"assistant", contextAcknowledgement⟩] ∧
        Json.read text = .ok c) ∧
    ∀ (provider : Provider) (plan : CallPlan) (replyTo : Nat → Reply) (q : HttpRequest),
      q ∈ (plan.run replyTo (provider.perform r)).2.sent → (provider.perform r).Sends q := by
  intro object
  refine ⟨?_, ?_, r.conversation_eq, ?_, ?_⟩
  · intro q hq
    rw [Network.body_of_sends (OpenAi.dialect endpoint r) hq]
    exact Json.read_compact (OpenAi.exact_body _ _ 124)
  · intro maxTokens q hmax hq
    rw [Network.body_of_sends (Anthropic.dialect endpoint maxTokens r) hq]
    exact Json.read_compact (Anthropic.exact_body _ hmax _ 124)
  · intro c hc hexact
    exact ⟨c.compact, by rw [hc]; rfl, Json.read_compact hexact⟩
  · intro provider plan replyTo q hq
    exact (Performance.sends_of_mem_sent plan replyTo hq).resolve_left nofun

/-- A request with a context in which there are quotes, backslashes, control characters and one beyond the first plane. -/
def quotedContext : ChatRequest :=
  ⟨"\"go\"\r\n", [], some (.obj [("\"\\", .arr [.str "\x00😀", .null])])⟩

/-- What the vendors are told of it, with the context in a message of its own that holds `text`. -/
def quotedMessages (text : String) : List Json :=
  [.obj [("role", .str "user"), ("content", .str text)],
    .obj [("role", .str "assistant"), ("content", .str contextAcknowledgement)],
    .obj [("role", .str "user"), ("content", .str "\"go\"\r\n")]]

/-- The context is found in what either vendor is sent, and read in its turn. -/
theorem quotedContext_is_told :
    let endpoint : Endpoint := ⟨"key", "mo\"del", "http://[::1]/"⟩
    let sent (provider : Provider) := (CallPlan.run {} (fun _ => .unreachable) (provider.perform quotedContext)).2.sent
    ∃ text, Json.read text = .ok (.obj [("\"\\", .arr [.str "\x00😀", .null])]) ∧
      (∃ q ∈ sent (.openai endpoint), Json.read q.body = .ok (.obj [("model", .str "mo\"del"),
        ("messages", .arr (.obj [("role", .str "system"), ("content", .str persona)] :: quotedMessages text)),
        ("stream", .bool true)])) ∧
      ∃ q ∈ sent (.anthropic endpoint 4096), Json.read q.body = .ok (.obj [("model", .str "mo\"del"),
        ("messages", .arr (quotedMessages text)), ("max_tokens", .nat 4096),
        ("system", .str persona), ("stream", .bool true)]) := by
  intro endpoint sent
  have hu : endpoint.Reaches ⟨"http".toList, some { host := "[::1]".toList }, ['/'], none, none⟩ :=
    ⟨by decide +kernel, rfl, .inl rfl, by decide +kernel, by decide +kernel⟩
  have hopenai := Network.sent_perform (OpenAi.dialect endpoint quotedContext) (hu.build (by decide) _)
  have hanthropic := Network.sent_perform (Anthropic.dialect endpoint 4096 quotedContext) (hu.build (by decide) _)
  obtain ⟨htoldOpenai, htoldAnthropic, hconversation, hcontext, hcall⟩ := requests_are_told_in_full endpoint quotedContext
  have hexact : Exact Json.depthLimit (.obj [("\"\\", .arr [.str "\x00😀", .null])]) := by
    refine .obj (List.forall_mem_cons.mpr ⟨.arr ?_, nofun⟩)
    simp only [List.forall_mem_cons]
    exact ⟨.str _, .null, nofun⟩
  obtain ⟨text, htext, hread⟩ := hcontext _ rfl hexact
  have hmemOpenai : _ ∈ sent (.openai endpoint) := hopenai ▸ List.mem_singleton_self _
  have hmemAnthropic : _ ∈ sent (.anthropic endpoint 4096) := hanthropic ▸ List.mem_singleton_self _
  refine ⟨text, hread, ⟨_, hmemOpenai, ?_⟩, _, hmemAnthropic, ?_⟩
  · rw [htoldOpenai _ (hcall (.openai endpoint) {} _ _ hmemOpenai), hconversation, htext]
    rfl
  · rw [htoldAnthropic 4096 _ (by decide) (hcall (.anthropic endpoint 4096) {} _ _ hmemAnthropic), hconversation, htext]
    rfl

end Colloquy
