import Colloquy.Proofs.Stream.Events
import Colloquy.Stream.Body

/-!
# The events of a whole body

The chunks of a body count only as the text that they make up. If the lines of the text stop the decoding, the events are
those of the lines, and what comes after the chunks is not looked at (`takeItems_chunks`). If they do not, a break after the
chunks is the last event, and so is the want of any byte.
-/

namespace Colloquy

variable {α : Type} (reader : PayloadReader α)

/-- The chunks of a body after a text that has not stopped the decoding: they are decoded as one text, and what follows them
is reached unless that text stops the decoding. -/
theorem takeItems_chunks (chunks : List (List UInt8)) (tail : List BodyItem) (text : List UInt8) (received : Bool)
    (h : stops reader (completeLines text) = false) :
    let whole := text ++ chunks.flatten
    let after := takeItems reader (Decoder.after reader whole) (received || !chunks.flatten.isEmpty) tail
    let taken := takeItems reader (Decoder.after reader text) received (chunks.map .chunk ++ tail)
    (eventsOf reader (completeLines text) ++ taken.1, taken.2) =
      if stops reader (completeLines whole) then (eventsOf reader (completeLines whole), .ended)
      else (eventsOf reader (completeLines whole) ++ after.1, after.2) := by
  induction chunks generalizing text received with
  | nil => simp [h]
  | cons chunk rest ih =>
    have hevents := Decoder.eventsOf_feed_after reader text chunk
    have hfeed := Decoder.feed_after_snd reader text chunk
    have hwhole : text ++ (chunk :: rest).flatten = text ++ chunk ++ rest.flatten := by simp
    simp only [List.map_cons, List.cons_append, takeItems, hwhole, hfeed]
    cases hs : stops reader (completeLines (text ++ chunk)) with
    | true =>
      -- the text so far stops the decoding, and so does every longer one, with the same events
      have hlonger := stops_append reader (completeLines (text ++ chunk))
        (completeLines (openLine (text ++ chunk) ++ rest.flatten))
      have hsame := eventsOf_append reader (completeLines (text ++ chunk))
        (completeLines (openLine (text ++ chunk) ++ rest.flatten))
      rw [← completeLines_append, hs] at hlonger hsame
      rw [hlonger, hsame, if_pos rfl, Decoder.after, if_pos hs]
      simp [hevents]
    | false =>
      have hopen : (Decoder.after reader (text ++ chunk)).finished = false := by
        rw [Decoder.after, if_neg (by simp [hs])]
      have hih := ih (text ++ chunk) (received || !chunk.isEmpty) hs
      have hbytes : (!(chunk :: rest).flatten.isEmpty) = (!chunk.isEmpty || !rest.flatten.isEmpty) := by
        cases chunk <;> simp
      simp only [hopen, Bool.false_eq_true, if_false, ← List.append_assoc, hevents, hbytes, ← Bool.or_assoc]
      exact hih

/-- A body whose chunks are followed by a break. What follows the break does not count. -/
theorem decodeBody_broken (chunks : List (List UInt8)) (reason : String) (later : List BodyItem) :
    decodeBody reader (chunks.map .chunk ++ .broken reason :: later) =
      eventsOf reader (completeLines chunks.flatten) ++
        if stops reader (completeLines chunks.flatten) then [] else [.error (.api (.stream reason))] := by
  have h := takeItems_chunks reader chunks (.broken reason :: later) [] false rfl
  rw [List.nil_append] at h
  have htaken : takeItems reader {} false (chunks.map .chunk ++ .broken reason :: later) =
      (eventsOf reader (completeLines chunks.flatten) ++
        if stops reader (completeLines chunks.flatten) then [] else [.error (.api (.stream reason))], .ended) := by
    refine h.trans ?_
    split <;> simp [takeItems]
  rw [decodeBody, htaken]

/-- A body that ends after its chunks. -/
theorem decodeBody_complete (chunks : List (List UInt8)) :
    decodeBody reader (chunks.map .chunk) =
      eventsOf reader (completeLines chunks.flatten) ++
        if stops reader (completeLines chunks.flatten) then []
        else if chunks.flatten = [] then [.error (.api .missingBody)] else [] := by
  have h := takeItems_chunks reader chunks [] [] false rfl
  rw [List.nil_append, List.append_nil] at h
  have htaken : takeItems reader {} false (chunks.map .chunk) =
      (eventsOf reader (completeLines chunks.flatten),
        if stops reader (completeLines chunks.flatten) then .ended else .opened !chunks.flatten.isEmpty) := by
    refine h.trans ?_
    split <;> simp [takeItems]
  rw [decodeBody, htaken]
  cases hbytes : chunks.flatten with
  | nil => rfl
  | cons b bs => cases hs : stops reader (completeLines (b :: bs)) <;> simp

end Colloquy
