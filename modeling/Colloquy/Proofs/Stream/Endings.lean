import Colloquy.Proofs.Stream.Body

/-!
# How a body ends

Of a body there count the bytes of its chunks before the first break (`chunksOf`) and the reason of that break, if there is one
(`breakOf?`). If the lines of the bytes stop the decoding, the events are those of the lines, and they are settled by the bytes up to
the line that stops; if not, the break or the want of any byte comes after them (`decodeBody_eq`). So an error is always the last
event, and how a body is cut makes no difference, which the main statement puts together (`body_settled_by_its_bytes`).
-/

namespace Colloquy

variable {α : Type}

/-- The chunks of a body before it breaks off. -/
def chunksOf : List BodyItem → List (List UInt8)
  | .chunk bytes :: rest => bytes :: chunksOf rest
  | _ => []

/-- Why a body breaks off, if it does. -/
def breakOf? : List BodyItem → Option String
  | [] => none
  | .broken reason :: _ => some reason
  | .chunk _ :: rest => breakOf? rest

/-- What comes after the events of a body whose lines do not stop the decoding: the break, or that there was no byte. -/
def closing (bytes : List UInt8) : Option String → List (Except Error α)
  | some reason => [.error (.api (.stream reason))]
  | none => if bytes = [] then [.error (.api .missingBody)] else []

/-- A body is its chunks up to the first break, and then the break and what follows it, or nothing. -/
theorem body_cases (items : List BodyItem) :
    (breakOf? items = none ∧ items = (chunksOf items).map .chunk) ∨
      ∃ reason later, breakOf? items = some reason ∧ items = (chunksOf items).map .chunk ++ .broken reason :: later := by
  induction items with
  | nil => exact Or.inl ⟨rfl, rfl⟩
  | cons item rest ih =>
    cases item with
    | broken reason => exact Or.inr ⟨reason, rest, rfl, rfl⟩
    | chunk bytes =>
      rcases ih with ⟨hbreak, hitems⟩ | ⟨reason, later, hbreak, hitems⟩
      · exact Or.inl ⟨hbreak, congrArg (BodyItem.chunk bytes :: ·) hitems⟩
      · exact Or.inr ⟨reason, later, hbreak, congrArg (BodyItem.chunk bytes :: ·) hitems⟩

theorem chunksOf_append (seen : List (List UInt8)) (later : List BodyItem) :
    chunksOf (seen.map .chunk ++ later) = seen ++ chunksOf later := by
  induction seen with
  | nil => rfl
  | cons bytes seen ih => exact congrArg (bytes :: ·) ih

variable (reader : PayloadReader α)

/-- The events of a body are those of the lines of its bytes, and what closes it if these do not stop the decoding. -/
theorem decodeBody_eq (items : List BodyItem) :
    decodeBody reader items = eventsOf reader (completeLines (chunksOf items).flatten) ++
      if stops reader (completeLines (chunksOf items).flatten) then [] else closing (chunksOf items).flatten (breakOf? items) := by
  rcases body_cases items with ⟨hbreak, hitems⟩ | ⟨reason, later, hbreak, hitems⟩
  · rw [hbreak]
    calc decodeBody reader items = decodeBody reader ((chunksOf items).map .chunk) := congrArg _ hitems
      _ = _ := decodeBody_complete reader (chunksOf items)
  · rw [hbreak]
    calc decodeBody reader items = decodeBody reader ((chunksOf items).map .chunk ++ .broken reason :: later) := congrArg _ hitems
      _ = _ := decodeBody_broken reader (chunksOf items) reason later

/-- A decoder that is fed all chunks gives the events of the lines of their bytes, and finishes just if these stop it. -/
theorem Decoder.play_chunks (chunks : List (List UInt8)) :
    Decoder.play reader {} (chunks.map .feed) =
      (eventsOf reader (completeLines chunks.flatten), Decoder.after reader chunks.flatten) := by
  obtain ⟨hevents, hdecoder⟩ := Decoder.play_feed_append reader chunks [] []
  rw [List.append_nil] at hevents hdecoder
  refine Prod.ext (hevents.trans ?_) hdecoder
  exact List.append_nil _

theorem Decoder.finished_after (text : List UInt8) : (Decoder.after reader text).finished = stops reader (completeLines text) := by
  unfold Decoder.after
  split
  next hstops => exact hstops.symm
  next hstops => exact (Bool.eq_false_iff.mpr hstops).symm

/-! ## The stopping point -/

/-- A text that stops the decoding settles the events of every longer one. -/
theorem decoded_of_prefix {text whole : List UInt8} (hpart : text <+: whole) (hstops : stops reader (completeLines text) = true) :
    eventsOf reader (completeLines whole) = eventsOf reader (completeLines text) ∧ stops reader (completeLines whole) = true := by
  obtain ⟨more, rfl⟩ := hpart
  rw [completeLines_append, eventsOf_append, stops_append, hstops]
  exact ⟨if_pos rfl, rfl⟩

/-- Chunks that stop the decoding end the body, without anything after them. -/
theorem takeItems_of_stops {chunks : List (List UInt8)} (hstops : stops reader (completeLines chunks.flatten) = true) :
    takeItems reader {} false (chunks.map .chunk) = (eventsOf reader (completeLines chunks.flatten), .ended) := by
  have h := takeItems_chunks reader chunks [] [] false rfl
  rw [List.nil_append, List.append_nil] at h
  exact h.trans (if_pos hstops)

/-- Of some results there are values, and after them the first error if there is one. -/
theorem throughError_cases {ε : Type} (rs : List (Except ε α)) :
    (∃ values : List α, throughError rs = values.map .ok ∧ ∀ r ∈ rs, r.isOk = true) ∨
      ∃ (values : List α) (e : ε), throughError rs = values.map .ok ++ [.error e] ∧ .error e ∈ rs := by
  induction rs with
  | nil => exact Or.inl ⟨[], rfl, nofun⟩
  | cons r rest ih =>
    cases r with
    | error e => exact Or.inr ⟨[], e, rfl, List.mem_cons_self⟩
    | ok v =>
      rcases ih with ⟨values, hvalues, hall⟩ | ⟨values, e, hvalues, hmem⟩
      · refine Or.inl ⟨v :: values, congrArg (Except.ok v :: ·) hvalues, ?_⟩
        intro r hr
        rcases List.mem_cons.mp hr with rfl | hr
        · rfl
        · exact hall r hr
      · exact Or.inr ⟨v :: values, e, congrArg (Except.ok v :: ·) hvalues, List.mem_cons_of_mem _ hmem⟩

/-- An error among the results is that of a line whose payload cannot be read. -/
theorem decode_of_mem_results {lines : List String} {e : Error} (h : .error e ∈ results reader lines) :
    ∃ line ∈ lines, ∃ payload reason, payload? line = some payload ∧ reader payload = .error reason ∧
      e = .api (.decode line reason) := by
  obtain ⟨line, hline, hresult⟩ := List.mem_filterMap.mp h
  refine ⟨line, (List.takeWhile_sublist _).mem hline, ?_⟩
  rw [result?_eq] at hresult
  obtain ⟨payload, hpayload, hread⟩ := Option.map_eq_some_iff.mp hresult
  cases hr : reader payload with
  | ok v =>
    rw [hr] at hread
    cases hread
  | error reason =>
    rw [hr] at hread
    exact ⟨payload, reason, hpayload, hr, (Except.error.inj hread).symm⟩

/-- What the lines of a text come to: values only, which the mark of the end may stop, or values and then the payload that cannot be
read. -/
theorem eventsOf_cases (lines : List String) :
    (∃ values : List α, eventsOf reader lines = values.map .ok ∧ stops reader lines = lines.contains doneLine) ∨
      ∃ (values : List α) (line : String) (reason : String),
        eventsOf reader lines = values.map .ok ++ [.error (.api (.decode line reason))] ∧ stops reader lines = true ∧ line ∈ lines ∧
          ∃ payload, payload? line = some payload ∧ reader payload = .error reason := by
  rcases throughError_cases (results reader lines) with ⟨values, hvalues, hall⟩ | ⟨values, e, hvalues, hmem⟩
  · refine Or.inl ⟨values, hvalues, ?_⟩
    have hnone : (results reader lines).any (fun r => !r.isOk) = false := by
      rw [List.any_eq_false]
      intro r hr
      simp [hall r hr]
    rw [stops, hnone]
    exact Bool.or_false _
  · obtain ⟨line, hline, payload, reason, hpayload, hread, rfl⟩ := decode_of_mem_results reader hmem
    refine Or.inr ⟨values, line, reason, hvalues, ?_, hline, payload, hpayload, hread⟩
    have hsome : (results reader lines).any (fun r => !r.isOk) = true := List.any_eq_true.mpr ⟨_, hmem, rfl⟩
    rw [stops, hsome, Bool.or_true]

/-- An error is the last event of a body, and the only one. -/
theorem decodeBody_values (items : List BodyItem) :
    ∃ (values : List α) (failure : Option Error), decodeBody reader items = values.map .ok ++ failure.toList.map .error := by
  rw [decodeBody_eq]
  rcases eventsOf_cases reader (completeLines (chunksOf items).flatten) with
    ⟨values, hvalues, -⟩ | ⟨values, line, reason, hvalues, hstops, -⟩
  · rw [hvalues]
    split
    · exact ⟨values, none, rfl⟩
    · unfold closing
      split
      next reason _ => exact ⟨values, some (.api (.stream reason)), rfl⟩
      · split
        · exact ⟨values, some (.api .missingBody), rfl⟩
        · exact ⟨values, none, rfl⟩
  · rw [hvalues, hstops]
    exact ⟨values, some (.api (.decode line reason)), List.append_nil _⟩

/-! ## Every body -/

/-- What settles the events of a body, in six parts. Let `run` be what a new decoder does that is fed the chunks before the first
break, and `bytes` what these chunks make up.
1. The decoder finishes just if the mark of the end is among the lines of the bytes or a payload before it cannot be read. Then what it
   gives is values alone, or values and, as the last, the error of such a payload; the mark itself gives nothing. Otherwise it gives
   values alone.
2. If the decoder finishes, the events of the body are what it gives, and they are settled once it has: nothing that comes later, be
   it the rest of the same chunk, other chunks, or breaks, makes any difference, and the body counts as ended without it.
3. If it does not and the body breaks off, the error of the break is the last event. What follows the break makes no difference, nor
   does it matter whether there was any byte before.
4. If it does not and the body comes to its end, that is an error if there was no byte, and else the events are what the decoder gives.
5. There is never more than one error, and it is the last event.
6. Bodies with the same bytes before the first break and the same break, or none, have the same events, however they are cut. -/
theorem body_settled_by_its_bytes (items : List BodyItem) :
    let bytes := (chunksOf items).flatten
    let run := Decoder.play reader {} ((chunksOf items).map .feed)
    (run.1 = eventsOf reader (completeLines bytes) ∧ run.2.finished = stops reader (completeLines bytes) ∧
      ((∃ values : List α, run.1 = values.map .ok ∧ run.2.finished = (completeLines bytes).contains doneLine) ∨
        ∃ (values : List α) (line reason : String), run.1 = values.map .ok ++ [.error (.api (.decode line reason))] ∧
          run.2.finished = true ∧ line ∈ completeLines bytes ∧
          ∃ payload, payload? line = some payload ∧ reader payload = .error reason)) ∧
    ((run.2.finished = true → decodeBody reader items = run.1) ∧
      (∀ text, text <+: bytes → stops reader (completeLines text) = true →
        decodeBody reader items = eventsOf reader (completeLines text)) ∧
      ∀ (seen : List (List UInt8)) (later : List BodyItem), items = seen.map .chunk ++ later →
        (Decoder.play reader {} (seen.map .feed)).2.finished = true →
          decodeBody reader items = (Decoder.play reader {} (seen.map .feed)).1 ∧
          takeItems reader {} false (seen.map .chunk) = ((Decoder.play reader {} (seen.map .feed)).1, .ended)) ∧
    (run.2.finished = false → ∀ reason, breakOf? items = some reason →
      decodeBody reader items = run.1 ++ [.error (.api (.stream reason))]) ∧
    (run.2.finished = false → breakOf? items = none →
      decodeBody reader items = if bytes = [] then [.error (.api .missingBody)] else run.1) ∧
    (∃ (values : List α) (failure : Option Error), decodeBody reader items = values.map .ok ++ failure.toList.map .error) ∧
    ∀ items', (chunksOf items').flatten = bytes → breakOf? items' = breakOf? items →
      decodeBody reader items' = decodeBody reader items := by
  intro bytes run
  have hrun : run = (eventsOf reader (completeLines bytes), Decoder.after reader bytes) := Decoder.play_chunks reader _
  have hfinished : run.2.finished = stops reader (completeLines bytes) := by rw [hrun, Decoder.finished_after]
  have hevents : run.1 = eventsOf reader (completeLines bytes) := by rw [hrun]
  have hbody : decodeBody reader items = eventsOf reader (completeLines bytes) ++
      if stops reader (completeLines bytes) then [] else closing bytes (breakOf? items) := decodeBody_eq reader items
  have hsettled : ∀ text, text <+: bytes → stops reader (completeLines text) = true →
      decodeBody reader items = eventsOf reader (completeLines text) := by
    intro text hpart hstops
    obtain ⟨hsame, hlonger⟩ := decoded_of_prefix reader hpart hstops
    rw [hbody, if_pos hlonger, hsame, List.append_nil]
  refine ⟨⟨hevents, hfinished, ?_⟩, ⟨?_, hsettled, ?_⟩, ?_, ?_, decodeBody_values reader items, ?_⟩
  · rw [hevents, hfinished]
    exact eventsOf_cases reader (completeLines bytes)
  · intro hstops
    rw [hevents]
    exact hsettled bytes (List.prefix_refl _) (hfinished ▸ hstops)
  · intro seen later hitems hstops
    rw [Decoder.play_chunks, Decoder.finished_after] at hstops
    rw [Decoder.play_chunks]
    refine ⟨hsettled _ ?_ hstops, takeItems_of_stops reader hstops⟩
    have hbytes : bytes = seen.flatten ++ (chunksOf later).flatten := by
      rw [← List.flatten_append, ← chunksOf_append, ← hitems]
    rw [hbytes]
    exact List.prefix_append _ _
  · intro hopen reason hbreak
    rw [hbody, ← hfinished, hopen, hbreak, hevents]
    rfl
  · intro hopen hbreak
    rw [hbody, ← hfinished, hopen, hbreak, hevents]
    by_cases hbytes : bytes = []
    · rw [if_pos hbytes, hbytes]
      rfl
    · rw [if_neg hbytes]
      exact (congrArg _ (if_neg hbytes)).trans (List.append_nil _)
  · intro items' hbytes hbreak
    rw [decodeBody_eq, hbytes, hbreak]
    exact hbody.symm

/-- Reads a payload of digits as how many they are. -/
def countDigits : PayloadReader Nat := fun payload =>
  if payload.all Char.isDigit then .ok payload.length else .error "no digit"

/-- A body that breaks off between two events, with an empty chunk, and a line cut in two. -/
def brokenBody : List BodyItem :=
  [.chunk (Utf8.encode "data: 12\r\nda".toList), .chunk [], .chunk (Utf8.encode "ta: 345\ndata: 6".toList), .broken "reset",
    .chunk (Utf8.encode "\n".toList), .broken "again"]

/-- The events up to the break are followed by its error alone. -/
theorem brokenBody_settled :
    (Decoder.play countDigits {} ((chunksOf brokenBody).map .feed)).2.finished = false ∧ breakOf? brokenBody = some "reset" ∧
      decodeBody countDigits brokenBody = [.ok 2, .ok 3, .error (.api (.stream "reset"))] := by
  have hopen : (Decoder.play countDigits {} ((chunksOf brokenBody).map .feed)).2.finished = false := by decide +kernel
  have hevents : (Decoder.play countDigits {} ((chunksOf brokenBody).map .feed)).1 = [.ok 2, .ok 3] := rfl
  obtain ⟨-, -, hbroken, -⟩ := body_settled_by_its_bytes countDigits brokenBody
  refine ⟨hopen, rfl, ?_⟩
  rw [hbroken hopen "reset" rfl, hevents]
  rfl

end Colloquy
