import Colloquy.Proofs.Provider.Stopping

/-!
# Calls that are cut short

What is compared is a call that nobody stops and the call that is told to stop, of the same provider with the same request and
the same replies. A built-in provider sends one request at most, so that the first reply is the only one that counts
(`CallPlan.run_of_sendsOnce`); what is done with a reply does not depend on when a request would be cut short, and no request
comes after it (`CallPlan.run_of_sendsNothing`).
-/

namespace Colloquy

namespace CallPlan

variable {plan plan' : CallPlan} {p : Performance}

theorem run_wait (plan : CallPlan) (replyTo : Nat → Reply) (ms : Nat) (next : Performance) (s : CallState) :
    ((Performance.wait ms next).run (plan.stage replyTo)).run s =
      match plan.wait ms s with
      | (.passed _, v) => (next.run (plan.stage replyTo)).run v
      | (.stopped, v) => (.finished (.ok ()), v)
      | (.unfinished, v) => (.unfinished, v) := by
  have hwait : ((plan.stage replyTo).wait ms).run s = plan.wait ms s := rfl
  rw [Performance.run, StateT.run_bind, hwait]
  rcases plan.wait ms s with ⟨_ | _ | _, v⟩ <;> rfl

theorem run_exchange (plan : CallPlan) (replyTo : Nat → Reply) (request : HttpRequest) (next : Reply → Performance)
    (s : CallState) :
    ((Performance.exchange request next).run (plan.stage replyTo)).run s =
      match plan.exchange replyTo request s with
      | (.passed reply, v) => ((next reply).run (plan.stage replyTo)).run v
      | (.stopped, v) => (.finished (.ok ()), v)
      | (.unfinished, v) => (.unfinished, v) := by
  have hexchange : ((plan.stage replyTo).exchange request).run s = plan.exchange replyTo request s := rfl
  rw [Performance.run, StateT.run_bind, hexchange]
  rcases plan.exchange replyTo request s with ⟨_ | _ | _, v⟩ <;> rfl

/-- Waiting leaves the requests what they are. -/
theorem requests_wait (plan : CallPlan) (ms : Nat) (s : CallState) :
    (plan.wait ms s).2.sent = s.sent ∧ (plan.wait ms s).2.received = s.received := by
  unfold wait
  split
  · exact ⟨rfl, rfl⟩
  · split
    · split <;> exact ⟨rfl, rfl⟩
    · exact ⟨rfl, rfl⟩

/-- For what sends no request it does not matter what the replies would be, nor whether a request would be the time to stop. -/
theorem run_of_sendsNothing (hafter : plan.stopAfter = plan'.stopAfter) (hat : plan.stopAtMs = plan'.stopAtMs)
    (replyTo replyTo' : Nat → Reply) (h : p.SendsNothing) (s : CallState) :
    (p.run (plan.stage replyTo)).run s = (p.run (plan'.stage replyTo')).run s := by
  induction p generalizing s with
  | done result => rfl
  | emit text next ih =>
    have hemit : plan.emit text s = plan'.emit text s := by rw [emit, emit, hafter]
    calc ((Performance.emit text next).run (plan.stage replyTo)).run s
        = (next.run (plan.stage replyTo)).run (plan.emit text s) := rfl
      _ = (next.run (plan'.stage replyTo')).run (plan'.emit text s) := by rw [ih h, hemit]
  | check next ih => rw [(halts plan replyTo).run_check, (halts plan' replyTo').run_check, ih h]
  | wait ms next ih =>
    have hwait : plan.wait ms s = plan'.wait ms s := by rw [wait, wait, hat]
    simp only [run_wait, hwait, ih h]
  | hang => rfl
  | exchange request next ih => exact h.elim

/-- What sends no request leaves those that have arrived. -/
theorem received_of_sendsNothing (plan : CallPlan) (replyTo : Nat → Reply) (h : p.SendsNothing) (s : CallState) :
    ((p.run (plan.stage replyTo)).run s).2.received = s.received := by
  induction p generalizing s with
  | done result => rfl
  | emit text next ih => exact ih h _
  | check next ih =>
    rw [(halts plan replyTo).run_check]
    split
    · rfl
    · exact ih h s
  | wait ms next ih =>
    have hreceived := (requests_wait plan ms s).2
    rw [run_wait]
    rcases hwait : plan.wait ms s with ⟨_ | _ | _, v⟩ <;> rw [hwait] at hreceived
    · exact (ih h v).trans hreceived
    · exact hreceived
    · exact hreceived
  | hang =>
    have hlook : (Performance.hang.run (plan.stage replyTo)).run s =
        StateT.run (if s.stopped then pure (.finished (.ok ())) else pure .unfinished) s := rfl
    rw [hlook]
    split <;> rfl
  | exchange request next ih => exact h.elim

/-- For what sends one request at most, only the first reply matters. -/
theorem run_of_sendsOnce (plan : CallPlan) (replyTo : Nat → Reply) (h : p.SendsOnce) {s : CallState} (hs : s.sent = []) :
    (p.run (plan.stage replyTo)).run s = (p.run (plan.stage fun _ => replyTo 0)).run s := by
  induction p generalizing s with
  | done result => rfl
  | emit text next ih => exact ih h (s := plan.emit text s) hs
  | check next ih => rw [(halts plan replyTo).run_check, (halts plan fun _ => replyTo 0).run_check, ih h hs]
  | wait ms next ih =>
    have hsent := (requests_wait plan ms s).1.trans hs
    rw [run_wait, run_wait]
    rcases hwait : plan.wait ms s with ⟨_ | _ | _, v⟩ <;> rw [hwait] at hsent
    exact ih h hsent
  | hang => rfl
  | exchange request next ih =>
    have hexchange : plan.exchange replyTo request s = plan.exchange (fun _ => replyTo 0) request s := by
      rw [exchange, exchange, hs]
      rfl
    simp only [run_exchange, hexchange, run_of_sendsNothing rfl rfl replyTo (fun _ => replyTo 0) (h _)]

/-- A request that finds nobody is sent all the same. -/
theorem exchange_of_unreachable (plan : CallPlan) {replyTo : Nat → Reply} (request : HttpRequest) {s : CallState}
    (hs : s.stopped = false) (hreply : replyTo s.sent.length = .unreachable) :
    plan.exchange replyTo request s = (.passed .unreachable, { s with sent := s.sent ++ [request] }) := by
  simp [exchange, hs, hreply]

/-- A request that arrives is answered, unless that is the time to stop. -/
theorem exchange_of_arrived (plan : CallPlan) {replyTo : Nat → Reply} (request : HttpRequest) {s : CallState}
    (hs : s.stopped = false) (hreply : replyTo s.sent.length ≠ .unreachable) :
    plan.exchange replyTo request s =
      (if plan.stopAtRequest then .stopped else .passed (replyTo s.sent.length),
        { s with sent := s.sent ++ [request], received := s.received ++ [request], stopped := plan.stopAtRequest }) := by
  cases hplan : plan.stopAtRequest <;> simp [exchange, hs, hreply, hplan]

/-- A call that is to stop when a request has arrived: the request arrives that arrives anyway, and then the call ends well
without a piece of text. -/
theorem run_stopped_at_request {α : Type} (replyTo : Nat → Reply) (dialect : Dialect α) (url : String) :
    let asked := run { stopAtRequest := true } replyTo (Network.perform dialect url)
    let whole := run {} replyTo (Network.perform dialect url)
    asked.2.received = whole.2.received ∧
      (whole.2.received ≠ [] → asked.1 = .finished (.ok ()) ∧ asked.2.pieces = #[]) := by
  intro asked whole
  simp only [asked, whole, Network.perform]
  cases HttpRequest.build url dialect.headers dialect.body.compact with
  | error e => exact ⟨rfl, fun h => absurd rfl h⟩
  | ok request =>
    simp only [run, run_exchange]
    by_cases hreply : replyTo 0 = .unreachable
    · rw [exchange_of_unreachable _ request (by rfl) hreply, exchange_of_unreachable _ request (by rfl) hreply]
      exact ⟨rfl, fun h => absurd rfl h⟩
    · rw [exchange_of_arrived _ request (by rfl) hreply, exchange_of_arrived _ request (by rfl) hreply]
      refine ⟨?_, fun _ => ⟨rfl, rfl⟩⟩
      have hrest := received_of_sendsNothing {} replyTo (Network.respond_sendsNothing dialect request (replyTo 0))
        { sent := [request], received := [request] }
      exact hrest.symm

end CallPlan

namespace Provider

/-- What a provider says before it first has to see whether it was told to stop. -/
def opening : Provider → ChatRequest → List String
  | .echo _, request => (request.context.map fun c => "Context: " ++ c.compact ++ ".").toList
  | .openai _, _ => []
  | .anthropic _ _, _ => []

/-- A call that is told to stop before it begins sends nothing, and ends well with the opening of the provider. -/
theorem run_stopped_before (provider : Provider) (request : ChatRequest) (replyTo : Nat → Reply) :
    CallPlan.run { stopAfter := some 0 } replyTo (provider.perform request) =
      (.finished (.ok ()), { pieces := (provider.opening request).toArray, stopped := true }) := by
  have hhalts {p : Performance} (hp : p.HaltsAtOnce) {s : CallState} (hs : s.stopped = true) :=
    (CallPlan.halts { stopAfter := some 0 } replyTo).run_of_haltsAtOnce hp hs
  cases provider with
  | echo delayMs =>
    have hspeech := (Echo.speak_heeds (min delayMs Echo.longestPauseMs) request.prompt.toList).1
    rw [perform, Echo.perform, opening]
    cases request.context with
    | none => exact hhalts hspeech rfl
    | some c => exact hhalts hspeech rfl
  | openai endpoint => exact hhalts (Network.perform_heeds (OpenAi.dialect endpoint request) endpoint.url).1 rfl
  | anthropic endpoint maxTokens =>
    exact hhalts (Network.perform_heeds (Anthropic.dialect endpoint maxTokens request) endpoint.url).1 rfl

/-- The same of every provider; an echo sends no request. -/
theorem run_stopped_at_request (provider : Provider) (request : ChatRequest) (replyTo : Nat → Reply) :
    let asked := CallPlan.run { stopAtRequest := true } replyTo (provider.perform request)
    let whole := CallPlan.run {} replyTo (provider.perform request)
    asked.2.received = whole.2.received ∧
      (whole.2.received ≠ [] → asked.1 = .finished (.ok ()) ∧ asked.2.pieces = #[]) := by
  cases provider with
  | echo delayMs =>
    have hnone (plan : CallPlan) := CallPlan.received_of_sendsNothing plan replyTo (Echo.perform_sendsNothing delayMs request)
    exact ⟨(hnone _ _).trans (hnone _ _).symm, fun h => absurd (hnone _ _) h⟩
  | openai endpoint =>
    rw [perform, OpenAi.perform]
    exact CallPlan.run_stopped_at_request replyTo _ endpoint.url
  | anthropic endpoint maxTokens =>
    rw [perform, Anthropic.perform]
    exact CallPlan.run_stopped_at_request replyTo _ endpoint.url

/-- A call of a provider. -/
def call (provider : Provider) (request : ChatRequest) (replyTo : Nat → Reply) (plan : CallPlan) : Outcome × CallState :=
  CallPlan.run plan replyTo (provider.perform request)

/-- Where a call of a built-in provider is cut when it is told to stop, whatever the request and the replies. (1) Told so with its
`n`th piece of text, it ends well after the first `n` pieces of the call that nobody stops, whatever that one says or fails with
later; if that one says less, both say the same and end alike. (2) Told so before it begins, it sends nothing and ends well: a
provider on the network without a word, even if no request could have been built, and an echo with the announcement of its
context. (3) Told so when its request has arrived, which it does if and only if it does in the call that nobody stops, it ends
well without a word. -/
theorem stopped_call_is_cut (provider : Provider) (request : ChatRequest) (replyTo : Nat → Reply) :
    let call := provider.call request replyTo
    let whole := call {}
    let texts := whole.2.pieces.toList
    (∀ n, 0 < n →
      let cut := call { stopAfter := some n }
      (n ≤ texts.length → cut.1 = .finished (.ok ()) ∧ cut.2.pieces.toList = texts.take n) ∧
      (texts.length < n → cut.1 = whole.1 ∧ cut.2.pieces.toList = texts)) ∧
    call { stopAfter := some 0 } = (.finished (.ok ()), { pieces := (provider.opening request).toArray, stopped := true }) ∧
    let asked := call { stopAtRequest := true }
    asked.2.received = whole.2.received ∧
      (whole.2.received ≠ [] → asked.1 = .finished (.ok ()) ∧ asked.2.pieces = #[]) := by
  intro call whole texts
  refine ⟨fun n hn => ?_, run_stopped_before provider request replyTo, run_stopped_at_request provider request replyTo⟩
  have hcall (plan : CallPlan) : call plan = CallPlan.run plan (fun _ => replyTo 0) (provider.perform request) :=
    CallPlan.run_of_sendsOnce plan replyTo (provider.perform_sendsOnce request) rfl
  have hnever : ∀ n ∈ (none : Option Nat), ((provider.perform request).texts fun _ => replyTo 0).length < n := nofun
  obtain ⟨hresult, htexts⟩ := CallPlan.run_not_stopped (replyTo 0) (provider.perform request) hnever
  rw [← hcall] at hresult htexts
  have htexts : texts = (provider.perform request).texts fun _ => replyTo 0 := htexts
  intro cut
  simp only [cut, hcall, htexts]
  constructor
  · intro hle
    exact CallPlan.run_stopped_after (replyTo 0) (provider.perform_heeds request).2 hn hle
  · intro hlt
    have hall : ∀ k ∈ some n, ((provider.perform request).texts fun _ => replyTo 0).length < k := by simpa using hlt
    obtain ⟨hsame, hpieces⟩ := CallPlan.run_not_stopped (replyTo 0) (provider.perform request) hall
    exact ⟨hsame.trans hresult.symm, hpieces⟩

/-- A body of one chunk that says a word, and then something that is not understood. -/
def quarrel : List UInt8 :=
  "data: \x7b\"choices\":[\x7b\"delta\":\x7b\"content\":\"Hi\"\x7d\x7d]\x7d\ndata: \x7b\n".toList.map fun c => UInt8.ofNat c.toNat

/-- Whoever stops at the word is not told of the error right behind it. -/
theorem quarrel_is_cut :
    let call := (Provider.openai ⟨"key", "model", "http://[::1]/"⟩).call default fun _ => .answered 200 [quarrel] .complete
    (call {}).2.pieces.toList = ["Hi"] ∧ (call {}).2.received.length = 1 ∧ (call { stopAfter := some 1 }).1 = .finished (.ok ()) ∧
      (call { stopAfter := some 1 }).2.pieces.toList = ["Hi"] ∧ (call { stopAtRequest := true }).2.pieces = #[] := by
  intro call
  have hwhole : (call {}).2.pieces.toList = ["Hi"] ∧ (call {}).2.received.length = 1 := by decide +kernel
  have h := stopped_call_is_cut (.openai ⟨"key", "model", "http://[::1]/"⟩) default
    fun _ => .answered 200 [quarrel] .complete
  -- from here on the call is a function like any other, lest it is evaluated again
  have hcall : call = (Provider.openai ⟨"key", "model", "http://[::1]/"⟩).call default fun _ => .answered 200 [quarrel] .complete :=
    rfl
  rw [← hcall] at h
  clear_value call
  obtain ⟨htexts, harrives⟩ := hwhole
  have hle : 1 ≤ (call {}).2.pieces.toList.length := by
    rw [htexts]
    decide
  obtain ⟨hends, hpieces⟩ := (h.1 1 Nat.one_pos).1 hle
  refine ⟨htexts, harrives, hends, hpieces.trans ?_, (h.2.2.2 ?_).2⟩
  · rw [htexts]
    rfl
  · exact List.ne_nil_of_length_pos (harrives ▸ Nat.one_pos)

end Provider

end Colloquy
