import Colloquy.Proofs.Stream.Lines
import Colloquy.Stream.Decoder

/-!
# The events of a whole text

Said of the lines of a text as a whole, and in their own words: the event lines before the mark of the end have a result
each (`results`), the events are these results up to the first error (`eventsOf`), and the lines stop the decoding if the
mark is among them or a payload before it cannot be read (`stops`). A decoder that has taken a text stands where the whole text puts it
(`Decoder.after`): every chunk gives the events that it adds and leads to where the longer text puts it (`feed_after_snd`).
So it makes no difference how a text is cut into chunks, which is the main statement (`play_feed_eq_eventsOf`).
-/

namespace Colloquy

variable {α : Type} (reader : PayloadReader α)

/-- What an event line says on its own: what is read of the text after `data: `, or that this cannot be read and in which
line. Other lines say nothing. -/
def result? (line : String) : Option (Except Error α) :=
  if "data: ".toList <+: line.toList then
    some (match reader (line.toList.drop 6) with
      | .ok v => .ok v
      | .error reason => .error (.api (.decode line reason)))
  else none

/-- What the event lines before the mark of the end say. -/
def results (lines : List String) : List (Except Error α) :=
  (lines.takeWhile fun line => line ≠ "data: [DONE]").filterMap (result? reader)

/-- The results up to and including the first error. -/
def throughError {ε : Type} : List (Except ε α) → List (Except ε α)
  | [] => []
  | .error e :: _ => [.error e]
  | .ok v :: rest => .ok v :: throughError rest

/-- The events of some lines. -/
def eventsOf (lines : List String) : List (Except Error α) :=
  throughError (results reader lines)

/-- Whether some lines end the decoding: the mark of the end is among them, or a payload before it cannot be read. -/
def stops (lines : List String) : Bool :=
  lines.contains "data: [DONE]" || (results reader lines).any fun r => !r.isOk

/-! ## Lines one by one -/

/-- An event line says what is read of its payload. -/
theorem result?_eq (line : String) :
    result? reader line =
      (payload? line).map fun payload => (reader payload).mapError fun reason => .api (.decode line reason) := by
  by_cases h : "data: ".toList <+: line.toList
  · have hpayload : payload? line = some (line.toList.drop 6) := if_pos (List.isPrefixOf_iff_prefix.mpr h)
    rw [result?, if_pos h, hpayload, Option.map_some]
    cases reader (line.toList.drop 6) <;> rfl
  · have hpayload : payload? line = none := if_neg fun hmark => h (List.isPrefixOf_iff_prefix.mp hmark)
    rw [result?, if_neg h, hpayload, Option.map_none]

theorem decodeLine_eq (line : String) :
    decodeLine reader line = if line = doneLine then .done else (result? reader line).elim .skip .event := by
  unfold decodeLine
  rw [result?_eq]
  split
  · rfl
  · cases payload? line <;> rfl

/-- What is decoded from some lines one after the other is what they say as a whole. -/
theorem decodeLines_eq (lines : List String) : decodeLines reader lines = (eventsOf reader lines, stops reader lines) := by
  induction lines with
  | nil => rfl
  | cons line rest ih =>
    rw [decodeLines, decodeLine_eq]
    by_cases hd : line = "data: [DONE]"
    · simp [hd, doneLine, eventsOf, results, throughError, stops]
    · have hc : (line :: rest).contains "data: [DONE]" = rest.contains "data: [DONE]" := by simp [Ne.symm hd]
      have hopen : ¬line = doneLine := hd
      have hr : results reader (line :: rest) = (result? reader line).toList ++ results reader rest := by
        cases hl : result? reader line <;> simp [results, hd, hl]
      simp only [eventsOf, stops, hc, hr, if_neg hopen]
      cases result? reader line with
      | none => simpa [eventsOf, stops] using ih
      | some r =>
        cases r with
        | error e => simp [throughError, Except.isOk, Except.toBool]
        | ok v => simp [throughError, Except.isOk, Except.toBool, ih, eventsOf, stops]

/-- Lines in two parts: the second part counts unless the first has ended the decoding. -/
theorem decodeLines_append (a b : List String) :
    decodeLines reader (a ++ b) =
      if (decodeLines reader a).2 then decodeLines reader a
      else ((decodeLines reader a).1 ++ (decodeLines reader b).1, (decodeLines reader b).2) := by
  induction a with
  | nil => rfl
  | cons line rest ih =>
    rw [List.cons_append, decodeLines, decodeLines, ih]
    cases decodeLine reader line with
    | skip => rfl
    | done => rfl
    | event r =>
      cases r with
      | error e => rfl
      | ok v =>
        by_cases hs : (decodeLines reader rest).2 <;> simp [hs]

theorem eventsOf_append (a b : List String) :
    eventsOf reader (a ++ b) = if stops reader a then eventsOf reader a else eventsOf reader a ++ eventsOf reader b := by
  have h := congrArg Prod.fst (decodeLines_append reader a b)
  simp only [decodeLines_eq] at h
  rw [h]
  split <;> rfl

theorem stops_append (a b : List String) : stops reader (a ++ b) = (stops reader a || stops reader b) := by
  have h := congrArg Prod.snd (decodeLines_append reader a b)
  simp only [decodeLines_eq] at h
  rw [h]
  split <;> simp_all

/-! ## Chunks one by one -/

namespace Decoder

/-- The decoder that has taken a text: it has finished, or holds the open line of the text. -/
def after (text : List UInt8) : Decoder :=
  if stops reader (completeLines text) then ⟨{}, true⟩ else ⟨⟨openLine text⟩, false⟩

theorem feed_finished {d : Decoder} (h : d.finished = true) (chunk : List UInt8) : d.feed reader chunk = ([], d) := by
  rw [feed, if_pos h]

/-- A decoder that has not finished gives the events of the lines that a chunk completes. -/
theorem feed_open (pending chunk : List UInt8) :
    feed reader ⟨⟨pending⟩, false⟩ chunk =
      (eventsOf reader (completeLines (pending ++ chunk)), after reader (pending ++ chunk)) := by
  simp only [feed, LineBuffer.push_eq, decodeLines_eq, finish, after, Bool.false_eq_true, if_false]

/-- A chunk leads from where a text puts the decoder to where the text with the chunk puts it. -/
theorem feed_after_snd (text chunk : List UInt8) :
    ((after reader text).feed reader chunk).2 = after reader (text ++ chunk) := by
  have hs := stops_append reader (completeLines text) (completeLines (openLine text ++ chunk))
  rw [← completeLines_append] at hs
  cases h : stops reader (completeLines text) with
  | true =>
    rw [after, if_pos h, feed_finished reader rfl, after, if_pos (by rw [hs, h]; rfl)]
  | false =>
    have hn : ¬stops reader (completeLines text) = true := by simp [h]
    rw [after, if_neg hn, feed_open, after, after, hs, h, Bool.false_or, openLine_append text chunk]

/-- A chunk gives the events that it adds to those of the text before it. -/
theorem eventsOf_feed_after (text chunk : List UInt8) :
    eventsOf reader (completeLines text) ++ ((after reader text).feed reader chunk).1 =
      eventsOf reader (completeLines (text ++ chunk)) := by
  rw [completeLines_append, eventsOf_append]
  cases h : stops reader (completeLines text) with
  | true => rw [after, if_pos h, feed_finished reader rfl, if_pos rfl, List.append_nil]
  | false =>
    have hn : ¬stops reader (completeLines text) = true := by simp [h]
    rw [after, if_neg hn, feed_open, if_neg (by simp)]

end Decoder

/-- What the holder of a decoder does with it. -/
inductive DecoderCall where
  | feed (chunk : List UInt8)
  | finish
  deriving DecidableEq, Repr

/-- What a decoder gives when it is used for a while, and how it is left. -/
def Decoder.play (d : Decoder) : List DecoderCall → List (Except Error α) × Decoder
  | [] => ([], d)
  | .feed chunk :: rest =>
    let (events, d) := d.feed reader chunk
    let (more, d) := d.play rest
    (events ++ more, d)
  | .finish :: rest => d.finish.play rest

namespace Decoder

/-- A decoder that has finished gives nothing more. -/
theorem play_finished (calls : List DecoderCall) : play reader ⟨{}, true⟩ calls = ([], ⟨{}, true⟩) := by
  induction calls with
  | nil => rfl
  | cons call rest ih =>
    cases call with
    | feed chunk => simp [play, feed_finished, ih]
    | finish => simp [play, finish, ih]

/-- Chunks taken after a text, with whatever is done after them. -/
theorem play_feed_append (chunks : List (List UInt8)) (later : List DecoderCall) (text : List UInt8) :
    eventsOf reader (completeLines text) ++ ((after reader text).play reader (chunks.map .feed ++ later)).1 =
        eventsOf reader (completeLines (text ++ chunks.flatten))
          ++ ((after reader (text ++ chunks.flatten)).play reader later).1 ∧
      ((after reader text).play reader (chunks.map .feed ++ later)).2 =
        ((after reader (text ++ chunks.flatten)).play reader later).2 := by
  induction chunks generalizing text with
  | nil => simp
  | cons chunk rest ih =>
    obtain ⟨ih1, ih2⟩ := ih (text ++ chunk)
    have hfeed := feed_after_snd reader text chunk
    have hevents := eventsOf_feed_after reader text chunk
    simp only [List.map_cons, List.cons_append, play, List.flatten_cons, hfeed]
    rw [← List.append_assoc, hevents, ih1, ih2, List.append_assoc text]
    exact ⟨rfl, rfl⟩

end Decoder

/-- However a text is cut into chunks, a new decoder gives the events of its lines and finishes just if these stop it; it
holds the bytes after the last line feed as long as it has not finished. To end it at any point changes no event, drops
these bytes, and makes it deaf to all that is done later. -/
theorem play_feed_eq_eventsOf (chunks : List (List UInt8)) (later : List DecoderCall) :
    let lines := completeLines chunks.flatten
    Decoder.play reader {} (chunks.map .feed) =
        (eventsOf reader lines, if stops reader lines then ⟨⟨[]⟩, true⟩ else ⟨⟨openLine chunks.flatten⟩, false⟩) ∧
      Decoder.play reader {} (chunks.map .feed ++ .finish :: later) = (eventsOf reader lines, ⟨⟨[]⟩, true⟩) := by
  intro lines
  have key (rest : List DecoderCall) :
      Decoder.play reader {} (chunks.map .feed ++ rest) =
        (eventsOf reader lines ++ ((Decoder.after reader chunks.flatten).play reader rest).1,
          ((Decoder.after reader chunks.flatten).play reader rest).2) := by
    obtain ⟨h1, h2⟩ := Decoder.play_feed_append reader chunks rest []
    exact Prod.ext h1 h2
  constructor
  · have h := key []
    rw [List.append_nil] at h
    rw [h, Decoder.play, List.append_nil]
    rfl
  · rw [key, Decoder.play, Decoder.finish, Decoder.play_finished, List.append_nil]

end Colloquy
