import Colloquy.Proofs.Json.Printing
import Colloquy.Proofs.Provider.Outcome
import Colloquy.Proofs.Stream.Encoding
import Colloquy.Proofs.Text.Lossy

/-!
# Texts carried by a body

A vendor sends texts as events, one on a line, among other lines: events that carry no text, and lines that are no events
(`Carries`). A provider that understands the events of its vendor (`Wire.IsUnderstood`) finds in such a body the texts that it
carries, in their order, and then comes to what follows (`Carries.walk_eq`).
-/

namespace Colloquy

/-- How a vendor writes events: the payloads that carry a text, and those that carry none. -/
structure Wire where
  isText : String → List Char → Prop
  isIdle : List Char → Prop

/-- The line of an event. -/
def eventLine (payload : List Char) (withReturn : Bool) : List UInt8 :=
  Utf8.encode ("data: ".toList ++ payload) ++ lineEnd withReturn

/-- Whole lines, each with either end, and the texts that they carry. A line that is no event is any bytes, as long as it does not
start as events do. -/
inductive Carries (wire : Wire) : List UInt8 → List String → Prop where
  | nil : Carries wire [] []
  | text {t : String} {payload : List Char} (h : wire.isText t payload) (withReturn : Bool) {bytes : List UInt8} {ts : List String}
      (hmore : Carries wire bytes ts) :
      Carries wire (eventLine payload withReturn ++ bytes) (t :: ts)
  | idle {payload : List Char} (h : wire.isIdle payload) (hfeed : '\n' ∉ payload) {withReturn : Bool}
      (hreturn : withReturn = false → payload.getLast? ≠ some '\r') {bytes : List UInt8} {ts : List String}
      (hmore : Carries wire bytes ts) :
      Carries wire (eventLine payload withReturn ++ bytes) ts
  | other {line : List UInt8} (hfeed : lineFeed ∉ line) (hmark : ¬Utf8.encode "data: ".toList <+: line) (withReturn : Bool)
      {bytes : List UInt8} {ts : List String} (hmore : Carries wire bytes ts) :
      Carries wire (line ++ lineEnd withReturn ++ bytes) ts

variable {α : Type} {reader : PayloadReader α} {text : α → Except Error (Option String)} {atEnd : Except Error Unit}

/-! ## Lines -/

/-- A payload is an event that carries a text or none. -/
def Tells (reader : PayloadReader α) (text : α → Except Error (Option String)) (payload : List Char) (t : Option String) : Prop :=
  payload ≠ "[DONE]".toList ∧ ∃ event, reader payload = .ok event ∧ text event = .ok t

/-- An object is not the mark of the end. -/
theorem ne_done_of_object {depth : Nat} {payload : List Char} {fs : List (String × Json)}
    (h : Json.Reader.all (Json.value depth) payload = .ok (.obj fs)) : payload ≠ "[DONE]".toList := by
  obtain ⟨⟨v, rest⟩, hvalue, h⟩ := Json.bind_eq_ok.mp h
  obtain ⟨_, -, h⟩ := Json.bind_eq_ok.mp h
  cases h
  rintro rfl
  cases Json.value_eq_ok.mp hvalue with
  | object htext => exact absurd (List.cons.inj htext).1 (by decide)

theorem eventLine_eq (payload : List Char) (withReturn : Bool) :
    eventLine payload withReturn = Utf8.encode (dataMark.toList ++ payload) ++ lineEnd withReturn := rfl

theorem toList_doneLine : doneLine.toList = dataMark.toList ++ "[DONE]".toList := rfl

/-- The payload of an event line is what was put there. -/
theorem payload?_ofList (payload : List Char) : payload? (String.ofList (dataMark.toList ++ payload)) = some payload := by
  have hdrop : (dataMark.toList ++ payload).drop dataMark.length = payload := List.drop_left
  rw [payload?, String.toList_ofList, if_pos (by simp), hdrop]

namespace Network

/-- The line of an event comes to what its payload is read as. -/
theorem walk_payload {payload : List Char} (hdone : payload ≠ "[DONE]".toList) (rest : List String) :
    walk reader text atEnd (String.ofList (dataMark.toList ++ payload) :: rest) =
      match reader payload with
      | .error reason => ([], .error (.api (.decode (String.ofList (dataMark.toList ++ payload)) reason)))
      | .ok event =>
        match text event with
        | .error e => ([], .error e)
        | .ok t => (t.toList ++ (walk reader text atEnd rest).1, (walk reader text atEnd rest).2) := by
  have hline : String.ofList (dataMark.toList ++ payload) ≠ doneLine := by
    intro heq
    have hlist := congrArg String.toList heq
    rw [String.toList_ofList, toList_doneLine] at hlist
    exact hdone (List.append_cancel_left hlist)
  rw [walk, if_neg hline, payload?_ofList]
  dsimp only
  cases reader payload with
  | error reason => rfl
  | ok event =>
    dsimp only
    cases text event with
    | error e => rfl
    | ok t => cases t <;> rfl

theorem walk_event {payload : List Char} {t : Option String} (h : Tells reader text payload t) (rest : List String) :
    walk reader text atEnd (String.ofList (dataMark.toList ++ payload) :: rest) =
      (t.toList ++ (walk reader text atEnd rest).1, (walk reader text atEnd rest).2) := by
  obtain ⟨hdone, event, hread, htext⟩ := h
  rw [walk_payload hdone, hread]
  dsimp only
  rw [htext]

theorem walk_other {line : String} (h : ¬dataMark.toList <+: line.toList) (rest : List String) :
    walk reader text atEnd (line :: rest) = walk reader text atEnd rest := by
  have hline : line ≠ doneLine := by
    rintro rfl
    exact h (List.prefix_append _ _)
  have hpayload : payload? line = none := by
    rw [payload?, if_neg (by simpa using h)]
  rw [walk, if_neg hline, hpayload]

theorem walk_done (rest : List String) : walk reader text atEnd (doneLine :: rest) = ([], .ok ()) := by
  rw [walk, if_pos rfl]

end Network

/-! ## Bodies -/

/-- The payloads of a vendor are read as what they carry, and one with a text holds no control character. -/
structure Wire.IsUnderstood (wire : Wire) (reader : PayloadReader α) (text : α → Except Error (Option String)) : Prop where
  reads : ∀ {t payload}, wire.isText t payload → Tells reader text payload (some t)
  plain : ∀ {t payload}, wire.isText t payload → Json.IsPlain payload
  passes : ∀ {payload}, wire.isIdle payload → Tells reader text payload none

theorem not_mem_mark_append {payload : List Char} (h : '\n' ∉ payload) : '\n' ∉ dataMark.toList ++ payload := by
  rw [List.mem_append]
  rintro (hmem | hmem)
  · exact absurd hmem (by decide)
  · exact h hmem

theorem getLast?_mark_append {payload : List Char} (h : payload.getLast? ≠ some '\r') :
    (dataMark.toList ++ payload).getLast? ≠ some '\r' := by
  rw [List.getLast?_append]
  cases hlast : payload.getLast? with
  | none => exact fun heq => absurd heq (by decide)
  | some c => exact fun heq => h (hlast.trans heq)

/-- The texts of a body are found, and then what follows it. -/
theorem Carries.walk_eq {wire : Wire} (hwire : wire.IsUnderstood reader text) {body : List UInt8} {ts : List String}
    (h : Carries wire body ts) (later : List UInt8) :
    Network.walk reader text atEnd (completeLines (body ++ later)) =
      (ts ++ (Network.walk reader text atEnd (completeLines later)).1, (Network.walk reader text atEnd (completeLines later)).2) := by
  induction h with
  | nil => rfl
  | @text _ payload h withReturn _ _ _ ih =>
    have hplain := hwire.plain h
    have hfeed : '\n' ∉ payload := fun hmem => absurd (hplain.toNat hmem) (by decide)
    have hreturn : payload.getLast? ≠ some '\r' := fun hlast => absurd (hplain.toNat (List.mem_of_getLast? hlast)) (by decide)
    rw [eventLine_eq, List.append_assoc, completeLines_encode (not_mem_mark_append hfeed) fun _ => getLast?_mark_append hreturn,
      Network.walk_event (hwire.reads h), ih]
    rfl
  | idle h hfeed hreturn _ ih =>
    rw [eventLine_eq, List.append_assoc, completeLines_encode (not_mem_mark_append hfeed) fun hwith => getLast?_mark_append (hreturn hwith),
      Network.walk_event (hwire.passes h), ih]
    rfl
  | other hfeed hmark withReturn _ ih =>
    obtain ⟨part, hpart, hlines⟩ := completeLines_bytes hfeed withReturn (_ ++ later)
    -- the bytes do not start as events do, so neither does the text that they are decoded to
    have hother : ¬dataMark.toList <+: (String.ofList (Utf8.decodeLossy part)).toList := by
      rw [String.toList_ofList, Utf8.prefix_decodeLossy_iff (by decide)]
      exact fun hstarts => hmark (hstarts.trans hpart)
    rw [List.append_assoc, hlines, Network.walk_other hother, ih]

end Colloquy
