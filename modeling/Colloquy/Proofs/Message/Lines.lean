import Colloquy.Proofs.Message.Text
import Colloquy.Proofs.Provider.Carrying

/-!
# Messages on lines

A message that is written on a line as its JSON form is decoded as that message, and what is decoded of any line settles there: written
again it makes a line that comes back as itself, the same one for all timestamps of one moment (`messages_settle_on_a_line`).
-/

namespace Colloquy

open Json (Follows)

/-- What reads a payload as a value of a known shape. -/
def payloadOf {α : Type} (reader : Nat → Json.Reader α) : PayloadReader α := fun payload =>
  (Json.Reader.all (reader Json.depthLimit) payload).mapError fun fault => fault.message payload

section Lines

variable {α : Type} {reader : Nat → Json.Reader α}

/-- A line with an object is decoded as what the object means to a reader that follows. -/
theorem decodeLine_object {meaning : Json → α → Prop} (h : Follows (reader Json.depthLimit) meaning) {text : String}
    {fs : List (String × Json)} {a : α} (htext : Json.read text = .ok (.obj fs)) (ha : meaning (.obj fs) a) :
    decodeLine (payloadOf reader) (dataMark ++ text) = .event (.ok a) := by
  have hread : Json.Reader.all (reader Json.depthLimit) text.toList = .ok a := h.all htext ha
  have hline : dataMark ++ text = String.ofList (dataMark.toList ++ text.toList) := by
    rw [String.ofList_append, String.ofList_toList, String.ofList_toList]
  have hdone : String.ofList (dataMark.toList ++ text.toList) ≠ doneLine := by
    intro heq
    have hlist := congrArg String.toList heq
    rw [String.toList_ofList, toList_doneLine] at hlist
    exact ne_done_of_object htext (List.append_cancel_left hlist)
  rw [hline, decodeLine, if_neg hdone, payload?_ofList]
  dsimp only
  rw [payloadOf, hread]
  rfl

/-- What is decoded of a line was read. -/
theorem read_of_decodeLine {line : String} {a : α} (h : decodeLine (payloadOf reader) line = .event (.ok a)) :
    ∃ text rest, reader Json.depthLimit text = .ok (a, rest) := by
  unfold decodeLine at h
  split at h
  · cases h
  split at h
  · cases h
  next payload _ =>
    simp only [payloadOf, DecodedLine.event.injEq] at h
    cases hread : Json.Reader.all (reader Json.depthLimit) payload with
    | error fault => simp [hread, Except.mapError] at h
    | ok b =>
      simp only [hread, Except.mapError, Except.ok.injEq] at h
      subst h
      obtain ⟨⟨_, rest⟩, hvalue, hend⟩ := Json.bind_eq_ok.mp hread
      obtain ⟨_, -, hend⟩ := Json.bind_eq_ok.mp hend
      cases hend
      exact ⟨payload, rest, hvalue⟩

end Lines

namespace Message

/-- The line of a message. -/
def line (m : Message) : String :=
  dataMark ++ m.toJson.compact

theorem read_compact (m : Message) : Json.read m.toJson.compact = .ok (.obj m.written) :=
  Json.read_compact (exact_toJson m 126)

theorem decodeLine_line {m : Message} (h : m.timestamp.IsCivil) : decodeLine (payloadOf record.read) m.line = .event (.ok m) :=
  decodeLine_object (follows_toJson 126) (read_compact m) ⟨rfl, h⟩

/-- A message that was decoded has a timestamp that is told by its moment. -/
theorem second_lt_of_decodeLine {line : String} {m : Message} (h : decodeLine (payloadOf record.read) line = .event (.ok m)) :
    m.timestamp.second < Instant.dayLength := by
  obtain ⟨_, _, hread⟩ := read_of_decodeLine h
  exact second_lt_of_read hread

theorem eq_of_timestamp {m n : Message} (hrest : { n with timestamp := m.timestamp } = m) (htime : n.timestamp = m.timestamp) :
    n = m := by
  rw [← hrest, ← htime]

end Message

open Message Timestamp in
/-- A message whose timestamp lies in the years 0 to 9999, and in no leap second, comes back from its line as what it was. So does
whatever message was decoded of a line, if it has such a timestamp. Lines whose messages differ at most in how their timestamps tell one
moment give messages with one line. And an object with such timestamps as RFC 3339 allows, in any order of its fields and among others,
is decoded as a message with the moment that the timestamp tells, in one and the same way for all that tell it. -/
theorem messages_settle_on_a_line :
    (∀ m : Message, m.timestamp.IsCivil → decodeLine (payloadOf record.read) m.line = .event (.ok m)) ∧
    (∀ (line : String) (m : Message), decodeLine (payloadOf record.read) line = .event (.ok m) →
      0 ≤ (Date.ofDays m.timestamp.day).year → (Date.ofDays m.timestamp.day).year ≤ 9999 → m.timestamp.nano < 1000000000 →
      decodeLine (payloadOf record.read) m.line = .event (.ok m)) ∧
    (∀ (line line' : String) (m n : Message), decodeLine (payloadOf record.read) line = .event (.ok m) →
      decodeLine (payloadOf record.read) line' = .event (.ok n) → { n with timestamp := m.timestamp } = m →
      n.timestamp.seconds = m.timestamp.seconds → n.timestamp.nano = m.timestamp.nano → n.line = m.line) ∧
    (∀ w : Writing, ∃ i, Timestamp.read (String.ofList w.text) = .ok i ∧ i.seconds = w.seconds ∧ i.nano = nanosOf w.decimals) ∧
    ∀ (m : Message) (w w' : Writing) (text text' : String) (fs fs' : List (String × Json)), w.seconds = w'.seconds →
      nanosOf w.decimals = nanosOf w'.decimals → Json.read text = .ok (.obj fs) → Json.read text' = .ok (.obj fs') →
      IsTold fs m (String.ofList w.text) → IsTold fs' m (String.ofList w'.text) →
      ∃ n : Message, decodeLine (payloadOf record.read) (dataMark ++ text) = .event (.ok n) ∧
        decodeLine (payloadOf record.read) (dataMark ++ text') = .event (.ok n) ∧ { n with timestamp := m.timestamp } = m ∧
        n.timestamp.seconds = w.seconds ∧ n.timestamp.nano = nanosOf w.decimals := by
  refine ⟨fun m h => decodeLine_line h, ?_, ?_, fun w => ⟨w.instant, w.read_text, w.seconds_instant, rfl⟩, ?_⟩
  · intro line m hline hyear0 hyear1 hnano
    exact decodeLine_line ⟨second_lt_of_decodeLine hline, hnano, hyear0, hyear1⟩
  · intro line line' m n hline hline' hrest hseconds hnano
    have htime := Instant.eq_of_seconds (second_lt_of_decodeLine hline') (second_lt_of_decodeLine hline) hseconds hnano
    rw [eq_of_timestamp hrest htime]
  · intro m w w' text text' fs fs' hseconds hnano htext htext' htold htold'
    have hsame := Writing.instant_eq hseconds hnano
    have hdecoded {v : Writing} {text : String} {fs : List (String × Json)} (hv : v.instant = w.instant)
        (htext : Json.read text = .ok (.obj fs)) (htold : IsTold fs m (String.ofList v.text)) :
        decodeLine (payloadOf record.read) (dataMark ++ text) = .event (.ok { m with timestamp := w.instant }) :=
      decodeLine_object (follows_record 126) htext
        ⟨fs, _, rfl, ⟨htold.id, htold.role, htold.content, htold.timestamp, htold.error⟩, by rw [Writing.read_text, hv]⟩
    exact ⟨_, hdecoded rfl htext htold, hdecoded hsame.symm htext' htold', rfl, w.seconds_instant, rfl⟩

/-- A message of the last hour of a leap day, with characters that must be escaped and an error without a text. -/
def leapDayMessage : Message :=
  ⟨Uuid.ofNat 0x0123456789abcdef0123456789abcdef, .assistant, "\"\\\n😀", ⟨19782, 82800, 500000000⟩, some ""⟩

/-- Half past midnight of the day after, where clocks are an hour and a half ahead. -/
def halfPastMidnight : Timestamp.Writing where
  date := ⟨2024, 3, 1⟩
  hour := 0
  minute := 30
  second := 0
  decimals := "500000000999".toList
  between := ' '
  zone := .offset true 1 30 (by decide) (by decide)
  isValid_date := by decide
  year_nonneg := by decide
  year_le := by decide
  hour_lt := by decide
  minute_lt := by decide
  second_lt := by decide
  areDigits_decimals := by decide
  between_mem := by decide

/-- The fields of the message in another order and with one that is not known, where its timestamp has another offset. -/
def shuffledFields : List (String × Json) :=
  [("error", .str ""), ("timestamp", .str (String.ofList halfPastMidnight.text)), ("spare", .null), ("content", .str "\"\\\n😀"),
    ("id", .str "0123456789ABCDEF0123456789ABCDEF"), ("role", .str "assistant")]

theorem leapDayMessage_settles :
    leapDayMessage.timestamp.IsCivil ∧
      ∃ n, decodeLine (payloadOf Message.record.read) (dataMark ++ leapDayMessage.toJson.compact) = .event (.ok n) ∧
        decodeLine (payloadOf Message.record.read) (dataMark ++ (Json.obj shuffledFields).compact) = .event (.ok n) ∧
        n.line = leapDayMessage.line := by
  have hcivil : leapDayMessage.timestamp.IsCivil := ⟨by decide, by decide, by decide, by decide⟩
  obtain ⟨hline, hagain, hsame, -, hmoment⟩ := messages_settle_on_a_line
  have hleap := hline leapDayMessage hcivil
  have hexact : Json.Exact 127 (.obj shuffledFields) := by
    refine .obj ?_
    simp only [shuffledFields, List.forall_mem_cons]
    exact ⟨.str _, .str _, .null, .str _, .str _, .str _, nofun⟩
  have hmoments : (Timestamp.Writing.ofInstant _ hcivil).seconds = halfPastMidnight.seconds := by
    rw [← Timestamp.Writing.seconds_instant, Timestamp.Writing.instant_ofInstant]
    decide
  obtain ⟨n, hn, hn', hrest, -, -⟩ := hmoment leapDayMessage (.ofInstant _ hcivil) halfPastMidnight
    leapDayMessage.toJson.compact (Json.obj shuffledFields).compact leapDayMessage.written shuffledFields hmoments rfl
    (Message.read_compact _) (Json.read_compact hexact)
    (by rw [Timestamp.Writing.text_ofInstant]; exact Message.isTold_written _)
    ⟨⟨_, rfl, by decide +kernel⟩, rfl, rfl, rfl, .text rfl⟩
  have htime : n.timestamp = leapDayMessage.timestamp := by
    have hdecoded := hagain _ _ hleap (by decide) (by decide) (by decide)
    rw [Message.line, hn] at hdecoded
    cases hdecoded
    rfl
  exact ⟨hcivil, n, hn, hn', hsame _ _ _ _ hleap hn' hrest (by rw [htime]) (by rw [htime])⟩

end Colloquy
