import Colloquy.Proofs.Provider.AnthropicEvents
import Colloquy.Proofs.Provider.OpenAiEvents

/-!
# What comes of a reply

What a payload says is settled by the forms of the events of its vendor (`OpenAi.Conveys`, `Anthropic.Conveys`): a text or none, an error of
the vendor, or nothing that can be understood. From there on a reply is the same for either vendor. Its lines are gone through in
order, up to the mark of the end or the first that is wrong (`Told`); a status that is no success is an error of its own (`Answered`).
Just one outcome is right for a reply, however it was cut, and a call that nobody stops comes to it (`networkCall_eq_outcome`).
-/

namespace Colloquy

namespace Network

variable {α : Type} {reader : PayloadReader α} {text : α → Except Error (Option String)}
  {conveys : List Char → Except Error (Option String) → Prop} {words : List Char → String} {atEnd : Except Error Unit}

/-- What the lines of a body come to: the texts that are told, and the result, which is `atEnd` if the lines settle nothing. What
payloads say is given, and so are the words for what is wrong with one that says nothing. -/
inductive Told (conveys : List Char → Except Error (Option String) → Prop) (words : List Char → String) (atEnd : Except Error Unit) :
    List String → List String → Except Error Unit → Prop where
  | ended : Told conveys words atEnd [] [] atEnd
  | passed {line : String} {rest texts : List String} {result : Except Error Unit} (h : ¬"data: ".toList <+: line.toList)
      (hrest : Told conveys words atEnd rest texts result) : Told conveys words atEnd (line :: rest) texts result
  | marked {rest : List String} : Told conveys words atEnd ("data: [DONE]" :: rest) [] (.ok ())
  | event {payload : String} {t : Option String} {rest texts : List String} {result : Except Error Unit}
      (h : conveys payload.toList (.ok t)) (hrest : Told conveys words atEnd rest texts result) :
      Told conveys words atEnd (("data: " ++ payload) :: rest) (t.toList ++ texts) result
  | error {payload : String} {e : Error} {rest : List String} (h : conveys payload.toList (.error e)) :
      Told conveys words atEnd (("data: " ++ payload) :: rest) [] (.error e)
  | garbled {payload : String} {rest : List String} (hmark : payload ≠ "[DONE]") (h : ∀ said, ¬conveys payload.toList said) :
      Told conveys words atEnd (("data: " ++ payload) :: rest) []
        (.error (.api (.decode ("data: " ++ payload) (words payload.toList))))

/-- What a reply comes to: the texts and the result of its lines if it is a success, and otherwise an error with the text of its body,
if that could be read to its end. -/
inductive Answered (conveys : List Char → Except Error (Option String) → Prop) (words : List Char → String) :
    (status : Nat) → (body : List UInt8) → (broken : Bool) → List String → Except Error Unit → Prop where
  | success {status : Nat} {body : List UInt8} {broken : Bool} {texts : List String} {result : Except Error Unit}
      (h : 200 ≤ status ∧ status < 300) (htold : Told conveys words (Network.atEnd body broken) (completeLines body) texts result) :
      Answered conveys words status body broken texts result
  | failure {status : Nat} {body : List UInt8} (h : ¬(200 ≤ status ∧ status < 300)) :
      Answered conveys words status body false [] (.error (.api (.server status (String.ofList (Utf8.decodeLossy body)))))
  | cutOff {status : Nat} {body : List UInt8} (h : ¬(200 ≤ status ∧ status < 300)) :
      Answered conveys words status body true [] (.error (.api (.server status "")))

/-- The words of a reader for what is wrong with a payload. -/
def wordsOf (reader : PayloadReader α) (payload : List Char) : String :=
  match reader payload with
  | .error reason => reason
  | .ok _ => ""

/-- A dialect understands just what is said in it, and the mark of the end says nothing. -/
structure Understands (reader : PayloadReader α) (text : α → Except Error (Option String))
    (conveys : List Char → Except Error (Option String) → Prop) : Prop where
  iff : ∀ {payload : List Char} {said : Except Error (Option String)},
    conveys payload said ↔ ∃ event, reader payload = .ok event ∧ text event = said
  mark : ∀ {said : Except Error (Option String)}, ¬conveys "[DONE]".toList said

/-! ## Just one outcome -/

theorem ofList_mark_append (payload : String) : String.ofList (dataMark.toList ++ payload.toList) = "data: " ++ payload := by
  rw [← String.toList_append, String.ofList_toList]
  rfl

/-- What the lines come to is what walking them gives. -/
theorem Told.walk_eq (hconveys : Understands reader text conveys) {lines texts : List String} {result : Except Error Unit}
    (h : Told conveys (wordsOf reader) atEnd lines texts result) : walk reader text atEnd lines = (texts, result) := by
  induction h with
  | ended => rfl
  | passed hmark _ ih => rw [walk_other hmark, ih]
  | marked => exact walk_done _
  | @event payload _ _ _ _ h _ ih =>
    have hmark : payload.toList ≠ "[DONE]".toList := fun heq => hconveys.mark (heq ▸ h)
    rw [← ofList_mark_append, walk_event ⟨hmark, hconveys.iff.mp h⟩, ih]
  | @error payload _ _ h =>
    have hmark : payload.toList ≠ "[DONE]".toList := fun heq => hconveys.mark (heq ▸ h)
    obtain ⟨event, hread, htext⟩ := hconveys.iff.mp h
    rw [← ofList_mark_append, walk_payload hmark, hread]
    dsimp only
    rw [htext]
  | @garbled payload _ hmark h =>
    rw [← ofList_mark_append, walk_payload (hmark ∘ String.toList_inj.mp), wordsOf]
    cases hread : reader payload.toList with
    | error reason => rfl
    | ok event => exact absurd (hconveys.iff.mpr ⟨event, hread, rfl⟩) (h _)

/-- Lines come to something, whatever they are. -/
theorem exists_told (conveys : List Char → Except Error (Option String) → Prop) (words : List Char → String) (atEnd : Except Error Unit)
    (lines : List String) : ∃ texts result, Told conveys words atEnd lines texts result := by
  induction lines with
  | nil => exact ⟨[], atEnd, .ended⟩
  | cons line rest ih =>
    obtain ⟨texts, result, hrest⟩ := ih
    by_cases hmark : "data: ".toList <+: line.toList
    · obtain ⟨payload, hpayload⟩ := hmark
      obtain rfl : line = "data: " ++ String.ofList payload := by
        rw [← ofList_mark_append, String.toList_ofList, ← String.ofList_toList (s := line), ← hpayload]
        rfl
      by_cases hdone : String.ofList payload = "[DONE]"
      · rw [hdone]
        exact ⟨[], .ok (), .marked⟩
      by_cases hsaid : ∃ said, conveys (String.ofList payload).toList said
      · obtain ⟨said, hsaid⟩ := hsaid
        cases said with
        | ok t => exact ⟨_, _, .event hsaid hrest⟩
        | error e => exact ⟨_, _, .error hsaid⟩
      · exact ⟨_, _, .garbled hdone (not_exists.mp hsaid)⟩
    · exact ⟨texts, result, .passed hmark hrest⟩

/-- What a reply comes to is its outcome. -/
theorem Answered.outcome_eq (hconveys : Understands reader text conveys) {status : Nat} {body : List UInt8} {broken : Bool}
    {texts : List String} {result : Except Error Unit} (h : Answered conveys (wordsOf reader) status body broken texts result) :
    outcome reader text status body broken = (texts, result) := by
  cases h with
  | success h htold => rw [outcome, if_pos h, htold.walk_eq hconveys]
  | failure h => rw [outcome, if_neg h, if_neg (by decide)]
  | cutOff h => rw [outcome, if_neg h, if_pos rfl]

theorem exists_answered (conveys : List Char → Except Error (Option String) → Prop) (words : List Char → String) (status : Nat)
    (body : List UInt8) (broken : Bool) : ∃ texts result, Answered conveys words status body broken texts result := by
  by_cases h : 200 ≤ status ∧ status < 300
  · obtain ⟨texts, result, htold⟩ := exists_told conveys words (Network.atEnd body broken) (completeLines body)
    exact ⟨texts, result, .success h htold⟩
  · cases broken with
    | false => exact ⟨_, _, .failure h⟩
    | true => exact ⟨_, _, .cutOff h⟩

/-- A call comes to what its reply comes to. -/
theorem run_perform_answered (dialect : Dialect α) (hconveys : Understands dialect.reader dialect.text conveys) {url : String}
    {request : HttpRequest} (hbuild : HttpRequest.build url dialect.headers dialect.body.compact = .ok request)
    {replyTo : Nat → Reply} {status : Nat} {chunks : List (List UInt8)} {ending : BodyEnd}
    (hreply : replyTo 0 = .answered status chunks ending) (h : ending ≠ .stalled) {texts : List String} {result : Except Error Unit}
    (hanswered : Answered conveys (wordsOf dialect.reader) status (Reply.bytes status chunks) (Reply.breaksOff status ending)
      texts result) :
    CallPlan.run {} replyTo (perform dialect url) =
      (.finished result, { pieces := texts.toArray, sent := [request], received := [request] }) := by
  rw [run_perform replyTo dialect hbuild hreply h, outcomeOf, hanswered.outcome_eq hconveys]

end Network

/-! ## The vendors -/

theorem OpenAi.understands : Network.Understands OpenAi.reader (fun choices => .ok choices.head?.join) OpenAi.Conveys where
  iff := OpenAi.conveys_iff
  mark h := by
    obtain ⟨choices, hread, -⟩ := OpenAi.conveys_iff.mp h
    cases hread

theorem Anthropic.understands : Network.Understands Anthropic.reader Anthropic.textOf Anthropic.Conveys where
  iff := Anthropic.conveys_iff
  mark h := by
    obtain ⟨event, hread, -⟩ := Anthropic.conveys_iff.mp h
    cases hread

/-- A call of either vendor that nobody stops, with an address that can be asked for and a key that can be sent, and whatever
reply comes to its end, with no body where its status leaves no room for one. Just one outcome is right for the reply, which does not
depend on how the body was cut into chunks. The call sends its one request, and no other; it emits the texts of this outcome, and it
ends with its result. -/
theorem networkCall_eq_outcome {endpoint : Endpoint} {u : Url} (hu : endpoint.Reaches u) (maxTokens : Nat)
    (request : ChatRequest) {replyTo : Nat → Reply} {status : Nat} {chunks : List (List UInt8)} {ending : BodyEnd}
    (hreply : replyTo 0 = .answered status chunks ending) (hending : ending ≠ .stalled) :
    let bodyless : Prop := status = 204 ∨ status = 304
    let body := if bodyless then [] else chunks.flatten
    let broken : Bool := ¬bodyless ∧ ending = .truncated
    let asked (headers : List (String × String)) (body : Json) : HttpRequest :=
      ⟨u.anonymous, headers ++ [("content-type", "application/json")], body.compact⟩
    let comesTo (provider : Provider) (sent : HttpRequest) (outcome : List String → Except Error Unit → Prop) : Prop :=
      (∃ texts result, outcome texts result) ∧ ∀ texts result, outcome texts result →
        CallPlan.run {} replyTo (provider.perform request) =
          (.finished result, { pieces := texts.toArray, sent := [sent], received := [sent] })
    comesTo (.openai endpoint)
        (asked [("authorization", "Bearer " ++ endpoint.apiKey)] (OpenAi.body endpoint.model request))
        (Network.Answered OpenAi.Conveys (Network.wordsOf OpenAi.reader) status body broken) ∧
      comesTo (.anthropic endpoint maxTokens)
        (asked [("x-api-key", endpoint.apiKey), ("anthropic-version", "2023-06-01")]
          (Anthropic.body endpoint.model maxTokens request))
        (Network.Answered Anthropic.Conveys (Network.wordsOf Anthropic.reader) status body broken) := by
  intro bodyless body broken asked comesTo
  have hbearer : HttpRequest.headerHolds ("Bearer " ++ endpoint.apiKey) = true := by
    rw [headerHolds_append, hu.key]
    decide
  have hbodyless : bodyless ↔ Reply.isBodyless status = true := by simp [bodyless, Reply.isBodyless]
  have hbody : body = Reply.bytes status chunks := if_congr hbodyless rfl rfl
  have hbroken : broken = Reply.breaksOff status ending := by simp [broken, bodyless, Reply.breaksOff, Reply.isBodyless]
  rw [hbody, hbroken]
  constructor
  · refine ⟨Network.exists_answered .., fun texts result hanswered => ?_⟩
    refine Network.run_perform_answered (OpenAi.dialect endpoint request) OpenAi.understands (hu.build ?_ _) hreply hending hanswered
    simp only [OpenAi.dialect, List.all_cons, List.all_nil, hbearer]
    decide
  · refine ⟨Network.exists_answered .., fun texts result hanswered => ?_⟩
    refine Network.run_perform_answered (Anthropic.dialect endpoint maxTokens request) Anthropic.understands (hu.build ?_ _) hreply hending
      hanswered
    simp only [Anthropic.dialect, List.all_cons, List.all_nil, hu.key]
    decide

/-- A body cut inside an event and inside the mark of the end. -/
def greeting : List (List UInt8) :=
  let cut := ["data: \x7b\"choices\":[\x7b\"delta\"", ":\x7b\"content\":\"Hi\"\x7d\x7d]\x7d\n\ndata: [DO", "NE]\n"]
  cut.map fun text => text.toList.map fun c => UInt8.ofNat c.toNat

/-- A body with a text, an event that holds nothing, an error and another text, cut inside the error. -/
def complaint : List (List UInt8) :=
  let cut := ["data: [\"content_block_delta\",[\"Hi\"]]\r\nevent: ping\ndata: \x7b\"type\":\"ping\"\x7d\n",
    "data: \x7b\"error\":\x7b\"type\":\"overl", "oaded_error\",\"message\":\"Busy\"\x7d,\"type\":\"error\"\x7d\n\ndata: [\"content_block_delta\",[\"there\"]]\n"]
  cut.map fun text => text.toList.map fun c => UInt8.ofNat c.toNat

/-- The break after the mark of the end does not count, nor does the text after an error. -/
theorem greeting_outcome :
    (Endpoint.mk "key" "model" "http://[::1]/").Reaches ⟨"http".toList, some { host := "[::1]".toList }, ['/'], none, none⟩ ∧
      (let call := CallPlan.run {} (fun _ => .answered 200 greeting .truncated)
        ((Provider.openai ⟨"key", "model", "http://[::1]/"⟩).perform default)
      call.1 = .finished (.ok ()) ∧ call.2.pieces = #["Hi"]) ∧
      (let call := CallPlan.run {} (fun _ => .answered 200 complaint .complete)
        ((Provider.anthropic ⟨"key", "model", "http://[::1]/"⟩ 1).perform default)
      call.1 = .finished (.error (.api (.stream "overloaded_error: Busy"))) ∧ call.2.pieces = #["Hi"]) := by
  have hu : (Endpoint.mk "key" "model" "http://[::1]/").Reaches
      ⟨"http".toList, some { host := "[::1]".toList }, ['/'], none, none⟩ :=
    ⟨by decide +kernel, rfl, .inl rfl, by decide +kernel, by decide +kernel⟩
  have hgreeting : completeLines greeting.flatten =
      ["data: " ++ "\x7b\"choices\":[\x7b\"delta\":\x7b\"content\":\"Hi\"\x7d\x7d]\x7d", "", "data: [DONE]"] := by decide +kernel
  have hhi : OpenAi.Conveys "\x7b\"choices\":[\x7b\"delta\":\x7b\"content\":\"Hi\"\x7d\x7d]\x7d".toList (.ok (some "Hi")) :=
    OpenAi.conveys_iff.mpr ⟨[some "Hi"], by decide +kernel, rfl⟩
  have hcomplaint : completeLines complaint.flatten =
      ["data: " ++ "[\"content_block_delta\",[\"Hi\"]]", "event: ping", "data: " ++ "\x7b\"type\":\"ping\"\x7d",
        "data: " ++ "\x7b\"error\":\x7b\"type\":\"overloaded_error\",\"message\":\"Busy\"\x7d,\"type\":\"error\"\x7d", "",
        "data: " ++ "[\"content_block_delta\",[\"there\"]]"] := by decide +kernel
  have hdelta : Anthropic.Conveys "[\"content_block_delta\",[\"Hi\"]]".toList (.ok (some "Hi")) :=
    ⟨.arr [.str "content_block_delta", .arr [.str "Hi"]], by decide +kernel, .delta .items .item (.text .item)⟩
  have hping : Anthropic.Conveys "\x7b\"type\":\"ping\"\x7d".toList (.ok none) :=
    ⟨.obj [("type", .str "ping")], by decide +kernel, .other (.fields rfl) (by decide) (by decide) nofun⟩
  have herror : Anthropic.Conveys
      "\x7b\"error\":\x7b\"type\":\"overloaded_error\",\"message\":\"Busy\"\x7d,\"type\":\"error\"\x7d".toList
      (.error (.api (.stream ("overloaded_error" ++ ": " ++ "Busy")))) :=
    ⟨.obj [("error", .obj [("type", .str "overloaded_error"), ("message", .str "Busy")]), ("type", .str "error")], by decide +kernel,
      .error (.fields rfl) (.field rfl) (.fields rfl rfl)⟩
  have hopenai := (@networkCall_eq_outcome _ _ hu 1 default (fun _ => .answered 200 greeting .truncated) 200 greeting .truncated
    rfl nofun).1.2 ["Hi"] (.ok ()) (.success (by decide) (by
      rw [if_neg (by decide), hgreeting]
      exact .event hhi (.passed (by decide) .marked)))
  have hanthropic := (@networkCall_eq_outcome _ _ hu 1 default (fun _ => .answered 200 complaint .complete) 200 complaint .complete
    rfl nofun).2.2 ["Hi"] _ (.success (by decide) (by
      rw [if_neg (by decide), hcomplaint]
      exact .event hdelta (.passed (by decide) (.event hping (.error herror)))))
  exact ⟨hu, ⟨congrArg Prod.fst hopenai, congrArg (·.2.pieces) hopenai⟩,
    ⟨congrArg Prod.fst hanthropic, congrArg (·.2.pieces) hanthropic⟩⟩

end Colloquy
