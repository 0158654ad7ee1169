import Colloquy.Proofs.Stream.Events
import Colloquy.Proofs.Text.Lossy

/-!
# Lines of decoded bytes

Bytes are cut into lines before they are decoded. It makes no difference: decoded as a whole first and cut as a text then
(`textLines`), they give the same lines, well formed or not, since a line feed and a carriage return are read from their own bytes
alone. For the same reason a line is taken for an event, or for the mark of the end, just if its bytes say so
(`decoding_keeps_lines`).
-/

namespace Colloquy

/-- A text without one carriage return at its end. -/
def trimReturn (text : List Char) : List Char :=
  if text.getLast? = some '\r' then text.dropLast else text

/-- The lines of a text that a line feed ends, each without one carriage return at its end. -/
def textLines (text : List Char) : List String :=
  (text.splitOn '\n').dropLast.map fun line => String.ofList (trimReturn line)

/-! ## Cutting and decoding -/

theorem lineFeed_mem_of_decodeLossy {bytes : List UInt8} (h : '\n' ∈ Utf8.decodeLossy bytes) : lineFeed ∈ bytes := by
  obtain ⟨text, more, htext⟩ := List.append_of_mem h
  obtain ⟨before, after, rfl, -⟩ := @Utf8.exists_of_decodeLossy_plain _ lineFeed (by decide) _ _ htext
  exact List.mem_append_right _ List.mem_cons_self

/-- A line is cut at its end before it is decoded as its text is after. -/
theorem decodeLossy_dropReturn (line : List UInt8) : Utf8.decodeLossy (dropReturn line) = trimReturn (Utf8.decodeLossy line) := by
  by_cases hend : line.getLast? = some carriageReturn
  · obtain ⟨front, rfl⟩ := List.getLast?_eq_some_iff.mp hend
    have hdecode : Utf8.decodeLossy (front ++ [carriageReturn]) = Utf8.decodeLossy front ++ ['\r'] :=
      Utf8.decodeLossy_plain front (by decide) []
    rw [dropReturn, if_pos hend, List.dropLast_concat, hdecode, trimReturn, if_pos List.getLast?_concat, List.dropLast_concat]
  · have hopen : (Utf8.decodeLossy line).getLast? ≠ some '\r' := by
      intro hlast
      obtain ⟨text, htext⟩ := List.getLast?_eq_some_iff.mp hlast
      obtain ⟨front, after, rfl, -, hafter⟩ := @Utf8.exists_of_decodeLossy_plain _ carriageReturn (by decide) _ _ htext
      have hnil : after = [] := (Utf8.isDecoded_iff.mpr hafter).eq_encode List.not_mem_nil
      rw [hnil, List.getLast?_concat] at hend
      exact hend rfl
    rw [dropReturn, if_neg hend, trimReturn, if_neg hopen]

theorem splitOn_decodeLossy (bytes : List UInt8) :
    (Utf8.decodeLossy bytes).splitOn '\n' = (bytes.splitOn lineFeed).map Utf8.decodeLossy := by
  induction hn : bytes.length using Nat.strongRecOn generalizing bytes with
  | _ n ih =>
    by_cases hmem : lineFeed ∈ bytes
    · obtain ⟨line, rest, rfl, hline⟩ := List.eq_append_cons_of_mem hmem
      have hplain : '\n' ∉ Utf8.decodeLossy line := fun h => hline (lineFeed_mem_of_decodeLossy h)
      have hrest := ih rest.length (by rw [← hn, List.length_append, List.length_cons]; omega) rest rfl
      have hdecode : Utf8.decodeLossy (line ++ lineFeed :: rest) = Utf8.decodeLossy line ++ '\n' :: Utf8.decodeLossy rest :=
        Utf8.decodeLossy_plain line (by decide) rest
      rw [hdecode, List.splitOn_append_cons_self_of_not_mem hplain, List.splitOn_append_cons_self_of_not_mem hline, hrest,
        List.map_cons]
    · have hplain : '\n' ∉ Utf8.decodeLossy bytes := fun h => hmem (lineFeed_mem_of_decodeLossy h)
      rw [List.splitOn_eq_singleton hplain, List.splitOn_eq_singleton hmem, List.map_singleton]

/-- The lines of bytes are those of their text. -/
theorem textLines_decodeLossy (bytes : List UInt8) : textLines (Utf8.decodeLossy bytes) = completeLines bytes := by
  rw [textLines, splitOn_decodeLossy, ← List.map_dropLast, List.map_map, completeLines_eq]
  exact List.map_congr_left fun line _ => congrArg String.ofList (decodeLossy_dropReturn line).symm

/-! ## Event lines -/

theorem dataMark_prefix_doneLine : dataMark.toList <+: doneLine.toList := by decide

theorem lineText_eq_doneLine_iff (line : List UInt8) :
    lineText line = doneLine ↔ dropReturn line = Utf8.encode doneLine.toList := by
  rw [lineText, ← String.toList_inj, String.toList_ofList, ← Utf8.isDecoded_iff]
  constructor
  · exact fun h => h.eq_encode (by decide)
  · intro h
    rw [h, Utf8.isDecoded_iff, Utf8.decodeLossy_encode]

variable {α : Type} (reader : PayloadReader α)

theorem decodeLine_eq_done_iff (line : String) : decodeLine reader line = .done ↔ line = doneLine := by
  rw [decodeLine_eq]
  by_cases h : line = doneLine
  · simp [h]
  · cases hr : result? reader line <;> simp [h]

theorem decodeLine_eq_skip_iff (line : String) : decodeLine reader line = .skip ↔ ¬dataMark.toList <+: line.toList := by
  rw [decodeLine_eq]
  by_cases h : line = doneLine
  · simp [h, dataMark_prefix_doneLine]
  · by_cases hmark : dataMark.toList <+: line.toList <;> simp [h, result?_eq, payload?, hmark]

/-- For any bytes, well formed or not: the lines that a buffer gives are the lines of the bytes decoded as a whole. There one U+FFFD
stands for each ill-formed part, and no such part holds a line feed. A line is the mark of the end just if its bytes without the
carriage return are that mark's, and no event just if these do not start as event lines do. -/
theorem decoding_keeps_lines :
    (∀ (buffer : LineBuffer) chunk, (buffer.push chunk).1 = textLines (Utf8.decodeLossy (buffer.pending ++ chunk))) ∧
      (∀ octets text, Utf8.IsDecoded octets text ↔ Utf8.decodeLossy octets = text) ∧
      (∀ part rest, Utf8.IsIllFormed part rest → lineFeed ∉ part) ∧
      ∀ line, (decodeLine reader (lineText line) = .done ↔ dropReturn line = Utf8.encode "data: [DONE]".toList) ∧
        (decodeLine reader (lineText line) = .skip ↔ ¬Utf8.encode "data: ".toList <+: dropReturn line) := by
  refine ⟨fun buffer chunk => ?_, fun _ _ => Utf8.isDecoded_iff, fun part rest hpart hmem => ?_, fun line => ⟨?_, ?_⟩⟩
  · rw [textLines_decodeLossy, LineBuffer.push_eq]
  · exact absurd (hpart.not_plain hmem) (by decide)
  · exact (decodeLine_eq_done_iff reader _).trans (lineText_eq_doneLine_iff line)
  · rw [decodeLine_eq_skip_iff, lineText, String.toList_ofList, Utf8.prefix_decodeLossy_iff (by decide)]
    exact Iff.rfl

/-- The first two octets of three are ill formed before the end of a line. -/
theorem cutEuro_isIllFormed : Utf8.IsIllFormed [0xE2, 0x82] [carriageReturn, lineFeed] := by
  refine ⟨fun c hc => ?_, .inl ⟨List.cons_ne_nil _ _, '€', by decide⟩, fun longer hlonger ⟨c, hc⟩ => ?_⟩
  · -- such a character would be read first, but what is read first is the replacement
    obtain ⟨rest, hrest⟩ := hc
    have hread : Utf8.replacement :: ['\r', '\n'] = c :: Utf8.decodeLossy rest := by
      rw [← Utf8.decodeLossy_encodeChar, hrest]
      decide
    rw [← (List.cons.inj hread).1] at hrest
    exact absurd ⟨rest, hrest⟩ (show ¬String.utf8EncodeChar Utf8.replacement <+: [0xE2, 0x82, carriageReturn, lineFeed] by decide)
  · by_contra hlong
    have hthree : [0xE2, 0x82, carriageReturn] <+: longer :=
      List.prefix_of_prefix_length_le (by decide) hlonger (Nat.lt_of_not_le hlong)
    have hone := Utf8.encodeChar_eq_of_mem ((hthree.trans hc).subset (by decide : carriageReturn ∈ _)) (by decide)
    rw [hone] at hc
    exact absurd (hthree.trans hc).length_le (by decide)

/-- It is replaced once, the line ends where it did, and the line is no event. -/
theorem cutEuro_ends_its_line :
    Utf8.IsIllFormed [0xE2, 0x82] [carriageReturn, lineFeed] ∧ lineFeed ∉ [0xE2, 0x82] ∧
      (LineBuffer.push ⟨[0xE2]⟩ [0x82, carriageReturn, lineFeed, 0xFF]).1 = ["\uFFFD"] ∧
      decodeLine (fun _ => .ok ()) (lineText [0xE2, 0x82, carriageReturn]) = .skip := by
  obtain ⟨hlines, -, hpart, hline⟩ := decoding_keeps_lines fun _ => .ok ()
  refine ⟨cutEuro_isIllFormed, hpart _ _ cutEuro_isIllFormed, ?_, (hline _).2.mpr (by decide)⟩
  rw [hlines]
  decide

end Colloquy
