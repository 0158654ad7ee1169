import Colloquy.Proofs.Stream.Encoding

/-!
# Lines pushed through a buffer

Lines are written one after the other, each with an end of its own (`writeLines`), and their bytes arrive in chunks that are cut
anywhere. What a buffer gives for the chunks, together, are the lines of the bytes taken so far (`play_push`). So the texts come
back in their order, each from the push that brings its line feed, and the buffer is left with what follows the last line feed;
when it is cleared in between, nothing of what it took before matters (`pushed_lines_come_back`).
-/

namespace Colloquy

/-- What the holder of a line buffer does with it. -/
inductive BufferCall where
  | push (chunk : List UInt8)
  | clear
  deriving DecidableEq, Repr

/-- The lines that a buffer gives at each call, and how it is left. -/
def LineBuffer.play (buffer : LineBuffer) : List BufferCall → List (List String) × LineBuffer
  | [] => ([], buffer)
  | .push chunk :: rest =>
    let (lines, buffer) := buffer.push chunk
    let (more, buffer) := buffer.play rest
    (lines :: more, buffer)
  | .clear :: rest =>
    let (more, buffer) := buffer.clear.play rest
    ([] :: more, buffer)

/-- A text as a line with one of the two ends. -/
def writeLine (text : String) (withReturn : Bool) : List UInt8 :=
  Utf8.encode text.toList ++ lineEnd withReturn

/-- Texts as lines, each with the end that stands beside it. -/
def writeLines (lines : List (String × Bool)) : List UInt8 :=
  lines.flatMap fun l => writeLine l.1 l.2

/-- A text that a line can hold whatever its end: no line feed is in it, and no carriage return at its end. -/
def FitsLine (text : String) : Prop :=
  '\n' ∉ text.toList ∧ text.toList.getLast? ≠ some '\r'

/-! ## What is complete and what is open -/

theorem cutLines_of_not_mem {text : List UInt8} (h : lineFeed ∉ text) : cutLines text = ([], text) := by
  induction text with
  | nil => rfl
  | cons b bs ih =>
    have hb : b ≠ lineFeed := fun heq => h (heq ▸ List.mem_cons_self)
    have hrest := ih fun hmem => h (List.mem_cons_of_mem _ hmem)
    simp [cutLines, hrest, hb]

theorem completeLines_of_not_mem {text : List UInt8} (h : lineFeed ∉ text) : completeLines text = [] := by
  rw [← (cutLines_eq text).1, cutLines_of_not_mem h, List.map_nil]

theorem openLine_of_not_mem {text : List UInt8} (h : lineFeed ∉ text) : openLine text = text := by
  rw [← (cutLines_eq text).2, cutLines_of_not_mem h]

/-- A text with a line feed has a line. -/
theorem completeLines_ne_nil {text : List UInt8} (h : lineFeed ∈ text) : completeLines text ≠ [] := by
  obtain ⟨line, rest, rfl, hline⟩ := List.eq_append_cons_of_mem h
  rw [completeLines_cons hline]
  exact List.cons_ne_nil _ _

theorem not_mem_openLine (text : List UInt8) : lineFeed ∉ openLine text := by
  induction h : text.length using Nat.strongRecOn generalizing text with
  | _ n ih =>
    by_cases hmem : lineFeed ∈ text
    · obtain ⟨line, rest, rfl, hline⟩ := List.eq_append_cons_of_mem hmem
      rw [openLine_cons hline]
      exact ih rest.length (by simp [← h]; omega) rest rfl
    · rwa [openLine_of_not_mem hmem]

/-- The bytes of a text that a line can hold hold no line feed, and neither does what stands before the line feed of its end. -/
theorem exists_writeLine {text : String} (h : FitsLine text) (withReturn : Bool) :
    ∃ line, writeLine text withReturn = line ++ [lineFeed] ∧ lineFeed ∉ line := by
  have hbytes : lineFeed ∉ Utf8.encode text.toList := fun hmem => h.1 ((@Utf8.mem_encode '\n' (by decide) _).mp hmem)
  cases withReturn with
  | false => exact ⟨_, rfl, hbytes⟩
  | true =>
    refine ⟨Utf8.encode text.toList ++ [carriageReturn], by simp [writeLine, lineEnd], ?_⟩
    simpa [lineFeed, carriageReturn] using hbytes

theorem writeLines_cons (l : String × Bool) (lines : List (String × Bool)) :
    writeLines (l :: lines) = writeLine l.1 l.2 ++ writeLines lines :=
  List.flatMap_cons

theorem writeLines_append (a b : List (String × Bool)) : writeLines (a ++ b) = writeLines a ++ writeLines b :=
  List.flatMap_append

/-- The lines that were written are found, and then those of what follows. -/
theorem completeLines_writeLines {lines : List (String × Bool)} (h : ∀ l ∈ lines, FitsLine l.1) (rest : List UInt8) :
    completeLines (writeLines lines ++ rest) = lines.map (·.1) ++ completeLines rest := by
  induction lines with
  | nil => rfl
  | cons l lines ih =>
    obtain ⟨hfeed, hreturn⟩ := h l List.mem_cons_self
    have hmore := ih fun k hk => h k (List.mem_cons_of_mem _ hk)
    rw [writeLines_cons, List.append_assoc, writeLine, completeLines_encode hfeed (fun _ => hreturn), hmore, String.ofList_toList]
    rfl

/-- What is open after the lines that were written is what is open in what follows. -/
theorem openLine_writeLines {lines : List (String × Bool)} (h : ∀ l ∈ lines, FitsLine l.1) (rest : List UInt8) :
    openLine (writeLines lines ++ rest) = openLine rest := by
  induction lines with
  | nil => rfl
  | cons l lines ih =>
    obtain ⟨line, hwrite, hline⟩ := exists_writeLine (h l List.mem_cons_self) l.2
    have hmore := ih fun k hk => h k (List.mem_cons_of_mem _ hk)
    rw [writeLines_cons, List.append_assoc, hwrite, List.append_assoc, List.singleton_append, openLine_cons hline, hmore]

/-! ## Call by call -/

namespace LineBuffer

theorem play_append (buffer : LineBuffer) (calls later : List BufferCall) :
    buffer.play (calls ++ later) =
      ((buffer.play calls).1 ++ ((buffer.play calls).2.play later).1, ((buffer.play calls).2.play later).2) := by
  induction calls generalizing buffer with
  | nil => rfl
  | cons call calls ih => cases call <;> simp [play, ih]

theorem length_play (buffer : LineBuffer) (calls : List BufferCall) : (buffer.play calls).1.length = calls.length := by
  induction calls generalizing buffer with
  | nil => rfl
  | cons call calls ih => cases call <;> simp [play, ih]

/-- Chunks taken after a text add the lines that they add to it, and leave open what they leave open of it. -/
theorem play_push (text : List UInt8) (chunks : List (List UInt8)) :
    completeLines text ++ (play ⟨openLine text⟩ (chunks.map .push)).1.flatten = completeLines (text ++ chunks.flatten) ∧
      (play ⟨openLine text⟩ (chunks.map .push)).2 = ⟨openLine (text ++ chunks.flatten)⟩ := by
  induction chunks generalizing text with
  | nil => simp [play]
  | cons chunk chunks ih =>
    obtain ⟨hlines, hopen⟩ := ih (text ++ chunk)
    rw [List.append_assoc] at hlines hopen
    simp only [List.map_cons, play, push_eq, List.flatten_cons, ← openLine_append]
    rw [← List.append_assoc, ← completeLines_append]
    exact ⟨hlines, hopen⟩

/-- What a new buffer gives for some chunks, together, are the lines of their bytes, and it is left with what these leave open. -/
theorem play_push_new (chunks : List (List UInt8)) :
    (play {} (chunks.map .push)).1.flatten = completeLines chunks.flatten ∧
      (play {} (chunks.map .push)).2 = ⟨openLine chunks.flatten⟩ :=
  play_push [] chunks

/-- A buffer holds no line feed, whatever is done with it. -/
theorem not_mem_pending_play {buffer : LineBuffer} (h : lineFeed ∉ buffer.pending) (calls : List BufferCall) :
    lineFeed ∉ (buffer.play calls).2.pending := by
  induction calls generalizing buffer with
  | nil => exact h
  | cons call calls ih =>
    have hcleared : lineFeed ∉ buffer.clear.pending := List.not_mem_nil
    cases call with
    | push chunk =>
      have hpushed : lineFeed ∉ (buffer.push chunk).2.pending := by
        rw [push_eq]
        exact not_mem_openLine _
      exact ih hpushed
    | clear => exact ih hcleared

/-- A chunk that follows others holds the byte that a place comes after: the place is behind the others and not behind the chunk. -/
def Brings (earlier : List (List UInt8)) (chunk : List UInt8) (place : Nat) : Prop :=
  earlier.flatten.length < place ∧ place ≤ earlier.flatten.length + chunk.length

/-- Among the answers the one at a place gives a text, after the texts before it and those of the answers before it. -/
def GivesAt (answers : List (List String)) (place : Nat) (before : List String) (text : String) : Prop :=
  ∃ first more, answers[place]? = some (first ++ text :: more) ∧ (answers.take place).flatten ++ first = before

/-- A chunk that brings the end of some bytes, cut where these end. -/
theorem Brings.exists_cut {earlier later : List (List UInt8)} {chunk written rest : List UInt8}
    (h : Brings earlier chunk written.length) (hstream : (earlier ++ chunk :: later).flatten = written ++ rest) :
    ∃ part surplus, part ≠ [] ∧ written = earlier.flatten ++ part ∧ chunk = part ++ surplus := by
  obtain ⟨hstart, hend⟩ := h
  rw [List.flatten_append, List.flatten_cons] at hstream
  obtain ⟨part, rfl⟩ : earlier.flatten <+: written :=
    List.prefix_of_prefix_length_le ⟨_, hstream⟩ (List.prefix_append _ _) hstart.le
  rw [List.append_assoc] at hstream
  rw [List.length_append] at hstart hend
  have hrest : chunk ++ later.flatten = part ++ rest := List.append_cancel_left hstream
  obtain ⟨surplus, rfl⟩ : part <+: chunk :=
    List.prefix_of_prefix_length_le ⟨_, hrest.symm⟩ (List.prefix_append _ _) (by omega)
  exact ⟨part, surplus, List.ne_nil_of_length_pos (by omega), rfl, rfl⟩

/-- A line is given by the push whose chunk brings its line feed, after the lines before it. -/
theorem givesAt_play {before : List (String × Bool)} {text : String} {withReturn : Bool} (hbefore : ∀ l ∈ before, FitsLine l.1)
    (htext : FitsLine text) {earlier later : List (List UInt8)} {chunk rest : List UInt8}
    (hstream : (earlier ++ chunk :: later).flatten = (writeLines before ++ writeLine text withReturn) ++ rest)
    (hbrings : Brings earlier chunk (writeLines before ++ writeLine text withReturn).length) :
    GivesAt (play {} ((earlier ++ chunk :: later).map .push)).1 earlier.length (before.map (·.1)) text := by
  obtain ⟨part, surplus, hpart, hwritten, rfl⟩ := hbrings.exists_cut hstream
  obtain ⟨hgiven, hleft⟩ := play_push_new earlier
  -- the line feed of the line is in the part, since the part is the end of what was written
  have hfeed : lineFeed ∈ part := by
    obtain ⟨line, hline, -⟩ := exists_writeLine htext withReturn
    have hlast : (writeLines before ++ writeLine text withReturn).getLast? = some lineFeed := by
      rw [hline, ← List.append_assoc, List.getLast?_concat]
    rw [hwritten, List.getLast?_append_of_ne_nil _ hpart] at hlast
    exact List.mem_of_getLast? hlast
  have hlines : completeLines (writeLines before ++ writeLine text withReturn) = before.map (·.1) ++ [text] := by
    have hall : ∀ l ∈ before ++ [(text, withReturn)], FitsLine l.1 :=
      List.forall_mem_append.mpr ⟨hbefore, List.forall_mem_singleton.mpr htext⟩
    have hwhole := completeLines_writeLines hall []
    rw [writeLines_append, List.map_append, completeLines_of_not_mem List.not_mem_nil] at hwhole
    simpa [writeLines] using hwhole
  rw [hwritten, completeLines_append] at hlines
  -- what the part completes ends with the text
  obtain ⟨first, last, hfirst⟩ : ∃ first last, completeLines (openLine earlier.flatten ++ part) = first ++ [last] := by
    rcases List.eq_nil_or_concat (completeLines (openLine earlier.flatten ++ part)) with hnil | ⟨first, last, hconcat⟩
    · exact absurd hnil (completeLines_ne_nil (List.mem_append_right _ hfeed))
    · exact ⟨first, last, by rw [hconcat, List.concat_eq_append]⟩
  rw [hfirst, ← List.append_assoc] at hlines
  obtain ⟨hearlier, htext⟩ := List.append_inj' hlines rfl
  obtain rfl : last = text := List.singleton_inj.mp htext
  have hanswer : completeLines (openLine earlier.flatten ++ (part ++ surplus)) =
      first ++ last :: completeLines (openLine (openLine earlier.flatten ++ part) ++ surplus) := by
    rw [← List.append_assoc, completeLines_append, hfirst, List.append_assoc, List.singleton_append]
  have hlength : (play {} (earlier.map .push)).1.length = earlier.length := by
    rw [length_play, List.length_map]
  refine ⟨first, completeLines (openLine (openLine earlier.flatten ++ part) ++ surplus), ?_, ?_⟩
  · rw [List.map_append, play_append, hleft, ← hlength, List.getElem?_append_right le_rfl, Nat.sub_self, ← hanswer]
    simp [play, push_eq]
  · rw [List.map_append, play_append, ← hlength, List.take_left, hgiven, hearlier]

end LineBuffer

/-- Texts that were written as lines come back in their order from a new buffer, however their bytes are cut into chunks, each from the
push whose chunk brings its line feed; what follows the last line feed stays in the buffer. Whatever is done with a buffer, it holds no
line feed, and once cleared it goes on as a new one. -/
theorem pushed_lines_come_back {lines : List (String × Bool)} (hlines : ∀ l ∈ lines, FitsLine l.1) {tail : List UInt8}
    (htail : lineFeed ∉ tail) {chunks : List (List UInt8)} (hchunks : chunks.flatten = writeLines lines ++ tail) :
    ∃ answers, LineBuffer.play {} (chunks.map .push) = (answers, ⟨tail⟩) ∧ answers.flatten = lines.map (·.1) ∧
      (∀ before text withReturn after, lines = before ++ (text, withReturn) :: after →
        ∀ earlier chunk later, chunks = earlier ++ chunk :: later →
          LineBuffer.Brings earlier chunk (writeLines before ++ writeLine text withReturn).length →
          LineBuffer.GivesAt answers earlier.length (before.map (·.1)) text) ∧
      (∀ calls, lineFeed ∉ (LineBuffer.play {} calls).2.pending) ∧
      ∀ (buffer : LineBuffer) calls later, buffer.play (calls ++ .clear :: later) =
        ((buffer.play calls).1 ++ [] :: (LineBuffer.play {} later).1, (LineBuffer.play {} later).2) := by
  obtain ⟨hgiven, hleft⟩ := LineBuffer.play_push_new chunks
  rw [hchunks, completeLines_writeLines hlines, completeLines_of_not_mem htail, List.append_nil] at hgiven
  rw [hchunks, openLine_writeLines hlines, openLine_of_not_mem htail] at hleft
  refine ⟨_, Prod.ext rfl hleft, hgiven, ?_, LineBuffer.not_mem_pending_play List.not_mem_nil, ?_⟩
  · rintro before text withReturn after rfl earlier chunk later rfl hbrings
    obtain ⟨hbefore, hlater⟩ := List.forall_mem_append.mp hlines
    have hstream : (earlier ++ chunk :: later).flatten =
        (writeLines before ++ writeLine text withReturn) ++ (writeLines after ++ tail) := by
      rw [hchunks, writeLines_append, writeLines_cons]
      simp only [List.append_assoc]
    exact LineBuffer.givesAt_play hbefore (hlater _ List.mem_cons_self) hstream hbrings
  · intro buffer calls later
    rw [LineBuffer.play_append]
    rfl

/-- The bytes of three lines and of a fourth that is not complete, cut within a character, between the two bytes of an end, and
where nothing comes. -/
def scatteredLines : List (List UInt8) :=
  [[0x6E, 0x61, 0xC3], [0xAF, 0x76, 0x65, 0x0D], [0x0A, 0x0A, 0x78, 0x0D], [], [0x79, 0x0A, 0xFF]]

/-- The empty line comes back from the third push, after the line whose end that push completes. -/
theorem scatteredLines_come_back :
    scatteredLines.flatten = writeLines [("naïve", true), ("", false), ("x\ry", false)] ++ [0xFF] ∧
      ∃ answers, LineBuffer.play {} (scatteredLines.map .push) = (answers, ⟨[0xFF]⟩) ∧
        answers.flatten = ["naïve", "", "x\ry"] ∧ LineBuffer.GivesAt answers 2 ["naïve"] "" := by
  have hfits : ∀ l ∈ [("naïve", true), ("", false), ("x\ry", false)], FitsLine l.1 := by
    simp only [List.forall_mem_cons, FitsLine]
    decide
  have hbytes : scatteredLines.flatten = writeLines [("naïve", true), ("", false), ("x\ry", false)] ++ [0xFF] := by decide +kernel
  obtain ⟨answers, hplay, hall, hgives, -⟩ := pushed_lines_come_back hfits (by decide) hbytes
  have hbrings : LineBuffer.Brings (scatteredLines.take 2) [0x0A, 0x0A, 0x78, 0x0D]
      (writeLines [("naïve", true)] ++ writeLine "" false).length := ⟨by decide +kernel, by decide +kernel⟩
  exact ⟨hbytes, answers, hplay, hall,
    hgives [("naïve", true)] "" false [("x\ry", false)] rfl (scatteredLines.take 2) _ (scatteredLines.drop 3) rfl hbrings⟩

end Colloquy
