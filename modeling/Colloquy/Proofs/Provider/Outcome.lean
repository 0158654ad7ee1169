import Colloquy.Proofs.Stream.Body
import Colloquy.Provider.Basic
import Colloquy.Provider.Call

/-!
# What comes of a call on the network

Said of the body of a reply as a whole: its lines are walked in order, each event gives its text if it has one, and the walk
ends at the mark of the end, at a payload that cannot be read, or at an event that is an error, whichever is first
(`Network.walk`). Only where the lines run out does it matter how the body ended (`Network.atEnd`). A call that nobody stops
sends one request, emits these texts, and ends with this result, however the body was cut (`Network.run_perform`).
-/

namespace Colloquy

variable {α : Type}

namespace Reply

/-- The bytes of a body, for which some statuses leave no room. -/
def bytes (status : Nat) (chunks : List (List UInt8)) : List UInt8 :=
  if isBodyless status then [] else chunks.flatten

/-- Whether a body breaks off. -/
def breaksOff (status : Nat) (ending : BodyEnd) : Bool :=
  !isBodyless status && ending = .truncated

end Reply

namespace Network

/-- The texts and the result of a body of lines; `atEnd` is the result where nothing in the lines settles it. -/
def walk (reader : PayloadReader α) (text : α → Except Error (Option String)) (atEnd : Except Error Unit) :
    List String → List String × Except Error Unit
  | [] => ([], atEnd)
  | line :: rest =>
    if line = doneLine then ([], .ok ())
    else match payload? line with
      | none => walk reader text atEnd rest
      | some payload =>
        match reader payload with
        | .error reason => ([], .error (.api (.decode line reason)))
        | .ok event =>
          match text event with
          | .error e => ([], .error e)
          | .ok none => walk reader text atEnd rest
          | .ok (some t) => (t :: (walk reader text atEnd rest).1, (walk reader text atEnd rest).2)

/-- The result of a body whose lines settle nothing: it may have broken off, and a body must have brought a byte. -/
def atEnd (body : List UInt8) (broken : Bool) : Except Error Unit :=
  if broken then .error (.api (.stream "error decoding response body"))
  else if body = [] then .error (.api .missingBody)
  else .ok ()

/-- The texts and the result of a reply. -/
def outcome (reader : PayloadReader α) (text : α → Except Error (Option String)) (status : Nat) (body : List UInt8)
    (broken : Bool) : List String × Except Error Unit :=
  if 200 ≤ status ∧ status < 300 then walk reader text (atEnd body broken) (completeLines body)
  else ([], .error (.api (.server status (if broken then "" else String.ofList (Utf8.decodeLossy body)))))

/-- The texts and the result of events. -/
def told (text : α → Except Error (Option String)) : List (Except Error α) → List String × Except Error Unit
  | [] => ([], .ok ())
  | .error e :: _ => ([], .error e)
  | .ok event :: rest =>
    match text event with
    | .error e => ([], .error e)
    | .ok none => told text rest
    | .ok (some t) => (t :: (told text rest).1, (told text rest).2)

/-! ## From lines to events -/

/-- To walk the lines is to take their events, and then what follows unless the lines stop the decoding. -/
theorem walk_eq_told (reader : PayloadReader α) (text : α → Except Error (Option String)) {tail : List (Except Error α)}
    {atEnd : Except Error Unit} (htail : told text tail = ([], atEnd)) (lines : List String) :
    walk reader text atEnd lines = told text (eventsOf reader lines ++ if stops reader lines then [] else tail) := by
  have key : walk reader text atEnd lines =
      told text ((decodeLines reader lines).1 ++ if (decodeLines reader lines).2 then [] else tail) := by
    induction lines with
    | nil => exact htail.symm
    | cons line rest ih =>
      by_cases hd : line = doneLine
      · have hline : decodeLine reader line = .done := by rw [decodeLine, if_pos hd]
        simp only [walk, decodeLines, hline, if_pos hd]
        rfl
      · cases hp : payload? line with
        | none =>
          have hline : decodeLine reader line = .skip := by rw [decodeLine, if_neg hd, hp]
          simp only [walk, decodeLines, hline, hp, if_neg hd]
          exact ih
        | some payload =>
          have hline : decodeLine reader line = .event ((reader payload).mapError fun reason => .api (.decode line reason)) := by
            rw [decodeLine, if_neg hd, hp]
          cases hr : reader payload with
          | error reason =>
            rw [hr] at hline
            simp only [walk, decodeLines, hline, hp, hr, if_neg hd]
            rfl
          | ok event =>
            rw [hr] at hline
            simp only [walk, decodeLines, hline, hp, hr, if_neg hd, ih]
            rfl
  rw [key, decodeLines_eq]

/-- The events of the chunks of a reply. -/
theorem told_decodeBody (reader : PayloadReader α) (text : α → Except Error (Option String)) (chunks : List (List UInt8))
    {ending : BodyEnd} (h : ending ≠ .stalled) :
    told text (decodeBody reader (Reply.items chunks ending)) =
      walk reader text (atEnd chunks.flatten (ending = .truncated)) (completeLines chunks.flatten) := by
  have hbytes : (chunks.filter fun c => !c.isEmpty).flatten = chunks.flatten := List.flatten_filter_not_isEmpty
  cases ending with
  | stalled => exact absurd rfl h
  | truncated =>
    rw [Reply.items, if_pos rfl, decodeBody_broken, hbytes]
    exact (walk_eq_told reader text rfl _).symm
  | complete =>
    rw [Reply.items, if_neg nofun, List.append_nil, decodeBody_complete, hbytes]
    refine (walk_eq_told reader text ?_ _).symm
    by_cases hempty : chunks.flatten = [] <;> simp [hempty, told, atEnd]

/-! ## From events to a call -/

section Call

variable (replyTo : Nat → Reply) {s : CallState}

/-- A call after some more texts. -/
def emitted (s : CallState) (texts : List String) : CallState :=
  { s with pieces := s.pieces ++ texts.toArray }

theorem run_done (result : Except Error Unit) :
    ((Performance.done result).run (CallPlan.stage {} replyTo)).run s = (.finished result, emitted s []) := by
  simp only [emitted, List.toArray, Array.append_empty]
  rfl

theorem run_check (next : Performance) (hs : s.stopped = false) :
    ((Performance.check next).run (CallPlan.stage {} replyTo)).run s = (next.run (CallPlan.stage {} replyTo)).run s := by
  have h : ((Performance.check next).run (CallPlan.stage {} replyTo)).run s =
      StateT.run (if s.stopped then pure (.finished (.ok ())) else next.run (CallPlan.stage {} replyTo)) s := rfl
  rw [h, hs]
  rfl

theorem run_emit (t : String) (next : Performance) (hs : s.stopped = false) :
    ((Performance.emit t next).run (CallPlan.stage {} replyTo)).run s =
      (next.run (CallPlan.stage {} replyTo)).run (emitted s [t]) := by
  have h : ((Performance.emit t next).run (CallPlan.stage {} replyTo)).run s =
      (next.run (CallPlan.stage {} replyTo)).run (CallPlan.emit {} t s) := rfl
  have hemit : CallPlan.emit {} t s = emitted s [t] := by simp [CallPlan.emit, emitted, hs]
  rw [h, hemit]

theorem run_exchange {request : HttpRequest} {reply : Reply} {s' : CallState} (next : Reply → Performance)
    (h : CallPlan.exchange {} replyTo request s = (.passed reply, s')) :
    ((Performance.exchange request next).run (CallPlan.stage {} replyTo)).run s =
      ((next reply).run (CallPlan.stage {} replyTo)).run s' := by
  have hexchange : ((CallPlan.stage {} replyTo).exchange request).run s = (.passed reply, s') := h
  rw [Performance.run, StateT.run_bind, hexchange]
  rfl

/-- The performance of events that nobody stops emits their texts and ends with their result. -/
theorem run_play (text : α → Except Error (Option String)) (events : List (Except Error α)) (hs : s.stopped = false) :
    ((play text (.check (.done (.ok ()))) events).run (CallPlan.stage {} replyTo)).run s =
      (.finished (told text events).2, emitted s (told text events).1) := by
  induction events generalizing s with
  | nil => rw [play, run_check replyTo _ hs, run_done, told]
  | cons r rest ih =>
    cases r with
    | error e => rw [play, run_check replyTo _ hs, run_done, told]
    | ok event =>
      rw [play, run_check replyTo _ hs, told]
      cases text event with
      | error e => exact run_done replyTo _
      | ok t =>
        cases t with
        | none => exact ih hs
        | some t =>
          dsimp only
          rw [run_emit replyTo t _ hs, ih (s := emitted s [t]) hs]
          simp [emitted]

/-- The outcome of a reply, as its status leaves room for a body. -/
def outcomeOf (dialect : Dialect α) (status : Nat) (chunks : List (List UInt8)) (ending : BodyEnd) :
    List String × Except Error Unit :=
  outcome dialect.reader dialect.text status (Reply.bytes status chunks) (Reply.breaksOff status ending)

/-- What a call does with a reply: it emits the texts of the reply and ends with its result. -/
theorem run_respond (dialect : Dialect α) (request : HttpRequest) (status : Nat) (chunks : List (List UInt8))
    {ending : BodyEnd} (h : ending ≠ .stalled) (hs : s.stopped = false) :
    ((respond dialect request (.answered status chunks ending)).run (CallPlan.stage {} replyTo)).run s =
      (.finished (outcomeOf dialect status chunks ending).2, emitted s (outcomeOf dialect status chunks ending).1) := by
  have key (chunks : List (List UInt8)) (ending : BodyEnd) (h : ending ≠ .stalled) :
      (Performance.run (CallPlan.stage {} replyTo) (if Reply.isSuccess status then playBody dialect chunks ending
          else failWith status chunks ending)).run s =
        (.finished (outcome dialect.reader dialect.text status chunks.flatten (ending = .truncated)).2,
          emitted s (outcome dialect.reader dialect.text status chunks.flatten (ending = .truncated)).1) := by
    by_cases hsuccess : 200 ≤ status ∧ status < 300
    · have htrue : Reply.isSuccess status = true := by simpa [Reply.isSuccess] using hsuccess
      rw [outcome, if_pos hsuccess, if_pos htrue, playBody]
      simp only [if_neg h]
      rw [run_play replyTo _ _ hs, told_decodeBody _ _ _ h]
    · have hfalse : ¬Reply.isSuccess status = true := by simpa [Reply.isSuccess] using hsuccess
      rw [outcome, if_neg hsuccess, if_neg hfalse, failWith, if_neg h, run_check replyTo _ hs, run_done]
      cases ending <;> rfl
  cases hb : Reply.isBodyless status with
  | true =>
    -- such a body is one without chunks that ends in good order
    simp only [respond, outcomeOf, Reply.bytes, Reply.breaksOff, hb]
    exact key [] .complete nofun
  | false =>
    simp only [respond, outcomeOf, Reply.bytes, Reply.breaksOff, hb]
    exact key chunks ending h

/-- A call sends the request that can be built, and then does what the reply to it calls for. -/
theorem run_perform (dialect : Dialect α) {url : String} {request : HttpRequest}
    (hbuild : HttpRequest.build url dialect.headers dialect.body.compact = .ok request) {status : Nat}
    {chunks : List (List UInt8)} {ending : BodyEnd} (hreply : replyTo 0 = .answered status chunks ending)
    (h : ending ≠ .stalled) :
    CallPlan.run {} replyTo (perform dialect url) =
      (.finished (outcomeOf dialect status chunks ending).2,
        { pieces := (outcomeOf dialect status chunks ending).1.toArray, sent := [request], received := [request] }) := by
  have hexchange : CallPlan.exchange {} replyTo request (CallPlan.start {}) =
      (.passed (.answered status chunks ending), { sent := [request], received := [request] }) := by
    simp [CallPlan.exchange, CallPlan.start, hreply]
  rw [perform, hbuild, CallPlan.run]
  dsimp only
  rw [run_exchange replyTo _ hexchange, run_respond replyTo dialect request status chunks h rfl]
  simp [emitted]

end Call

end Network

/-! ## The vendors -/

/-- The address of an endpoint can be asked for, and its key can be sent. -/
structure Endpoint.Reaches (endpoint : Endpoint) (u : Url) : Prop where
  read : Url.read endpoint.url.toList = some u
  hasHost : u.hasHost = true
  scheme : u.anonymous.scheme = "http".toList ∨ u.anonymous.scheme = "https".toList
  isUsable : u.anonymous.isUsable = true
  key : HttpRequest.headerHolds endpoint.apiKey = true

theorem headerHolds_append (a b : String) :
    HttpRequest.headerHolds (a ++ b) = (HttpRequest.headerHolds a && HttpRequest.headerHolds b) := by
  simp [HttpRequest.headerHolds, String.toList_append]

/-- The request to an endpoint that can be reached is built. -/
theorem Endpoint.Reaches.build {endpoint : Endpoint} {u : Url} (h : endpoint.Reaches u) {headers : List (String × String)}
    (hheaders : headers.all (fun x => HttpRequest.headerHolds x.2) = true) (body : String) :
    HttpRequest.build endpoint.url headers body = .ok ⟨u.anonymous, headers, body⟩ := by
  rw [HttpRequest.build, h.read]
  simp only [h.hasHost, hheaders, Bool.not_true, Bool.false_eq_true, if_false]
  rw [if_pos ⟨h.scheme, h.isUsable⟩]

end Colloquy
