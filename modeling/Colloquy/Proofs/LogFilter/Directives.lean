import Colloquy.LogFilter.Basic
import Colloquy.Proofs.Text.Blank
import Colloquy.Proofs.Text.Utf8

/-!
# Directives as they are written

How directives without spans and fields are written, and that a text of such entries with commas between them asks for
just these directives, in order (`LogFilter.requested_written`).
-/

namespace Colloquy

namespace LogLevel

/-- No level is named with a comma. -/
theorem comma_not_mem {text : List Char} {level : LogLevel} (h : ofText? text = some level) : ',' ∉ text := by
  intro hcomma
  have hdigits : ∀ digits : List Char, ',' ∈ digits → digits.all Char.isDigit = false :=
    fun _ hmem => List.all_eq_false.mpr ⟨',', hmem, by decide +revert⟩
  have hnumber : number? text = none := by
    unfold number?
    split
    · rename_i digits
      have hmem : ',' ∈ digits := by simpa using hcomma
      simp [hdigits digits hmem]
    · simp [hdigits text hcomma]
  rw [ofText?, hnumber] at h
  have hname : level.name.toList = text.map Char.toLower := by simpa using List.find?_some h
  have hmem : ',' ∈ level.name.toList := hname ▸ List.mem_map.mpr ⟨',', hcomma, by decide⟩
  cases level <;> exact absurd hmem (by decide)

end LogLevel

namespace LogDirective

/-! ## Places in a text -/

section Places

variable {p : Char → Bool} {m : Char} {text : List Char}

theorem seek_append (h : ∀ c ∈ text, p c = false) (hm : p m = true) (start : Nat) (rest : List Char) :
    seek p start (text ++ m :: rest) = some (m, start + Utf8.size text, rest) := by
  induction text generalizing start with
  | nil => simp [seek, hm, Utf8.size]
  | cons c text ih =>
    have hc := h c List.mem_cons_self
    rw [List.cons_append, seek, if_neg (by simp [hc]), ih fun d hd => h d (List.mem_cons_of_mem c hd), Utf8.size_cons, Nat.add_assoc]

theorem seek_eq_none (h : ∀ c ∈ text, p c = false) (start : Nat) : seek p start text = none := by
  induction text generalizing start with
  | nil => rfl
  | cons c text ih =>
    have hc := h c List.mem_cons_self
    rw [seek, if_neg (by simp [hc]), ih fun d hd => h d (List.mem_cons_of_mem c hd)]

theorem cut_cons {start stop : Nat} (hstop : stop ≠ 0) (c : Char) (text : List Char) :
    cut start stop (c :: text) =
      if start = 0 then c :: cut 0 (stop - c.utf8Size) text else cut (start - c.utf8Size) (stop - c.utf8Size) text := by
  rw [cut.eq_def]
  dsimp only
  split
  · exact absurd rfl hstop
  · split <;> simp_all

theorem cut_left (text rest : List Char) : cut 0 (Utf8.size text) (text ++ rest) = text := by
  induction text with
  | nil => cases rest <;> simp [cut, Utf8.size]
  | cons c text ih =>
    have hc := c.utf8Size_pos
    rw [List.cons_append, Utf8.size_cons, cut_cons (by omega), if_pos rfl, Nat.add_sub_cancel_left, ih]

theorem cut_right (text rest : List Char) : cut (Utf8.size text) (Utf8.size (text ++ rest)) (text ++ rest) = rest := by
  induction text with
  | nil => simpa [Utf8.size] using cut_left rest []
  | cons c text ih =>
    have hc := c.utf8Size_pos
    rw [List.cons_append, Utf8.size_cons, Utf8.size_cons, cut_cons (by omega), if_neg (by omega), Nat.add_sub_cancel_left,
      Nat.add_sub_cancel_left, ih]

end Places

/-! ## Entries -/

/-- A text that may be a target or a level: it starts as a directive may, and has no mark in it that ends a target or a
directive. -/
structure IsWord (text : List Char) : Prop where
  starts : ∃ c rest, text = c :: rest ∧ mayStart c = true
  plain : ∀ c ∈ text, c ≠ ',' ∧ c ≠ '=' ∧ c ≠ '['

/-- How a directive without spans and fields is written: a level alone, a target alone, which asks for everything, or both. -/
inductive IsWritten : LogDirective → List Char → Prop
  | level {text : List Char} {level : LogLevel} (hword : IsWord text) (hlevel : LogLevel.ofText? text = some level) :
      IsWritten { target := none, level := level } text
  | target {text : List Char} (hword : IsWord text) (hlevel : LogLevel.ofText? text = none) :
      IsWritten { target := some (String.ofList text), level := .trace } text
  | both {target text : List Char} {level : LogLevel} (hword : IsWord target) (hlevel : levelOf? text = some level) :
      IsWritten { target := some (String.ofList target), level := level } (target ++ '=' :: text)

theorem isBlank_of_mayStart {c : Char} (h : mayStart c = true) : Text.isBlank c = false := by
  simp only [mayStart, Bool.or_eq_true, decide_eq_true_eq] at h
  obtain ((rfl | rfl) | rfl) | h := h
  · decide
  · decide
  · decide
  · exact Text.Ranges.not_contains_of_areApart (a := Text.alphanumericRanges) (by decide +kernel) h

variable {text : List Char}

/-- A word is read as a level if it names one, and as a target if not. -/
theorem ofText?_word (h : IsWord text) :
    ofText? text = match LogLevel.ofText? text with
      | some level => some { target := none, level := level }
      | none => some { target := some (String.ofList text), level := .trace } := by
  obtain ⟨c, rest, rfl, hc⟩ := h.starts
  have hblank := isBlank_of_mayStart hc
  have hstart : Text.trimStart ([] ++ c :: rest) = [] ++ c :: rest := by simp [Text.trimStart, hblank]
  obtain ⟨tail, htail, htrim⟩ : ∃ tail ⊆ rest, Text.trim (c :: rest) = c :: tail := Text.trim_append_cons hblank hstart
  have hseek : seek (fun c => c = '=' || c = '[') 0 (c :: tail) = none := by
    refine seek_eq_none (fun d hd => ?_) 0
    have hmem : d ∈ c :: rest := List.cons_subset_cons c htail hd
    simp [h.plain d hmem]
  have hne : c ≠ '[' := (h.plain c List.mem_cons_self).2.2
  cases hlevel : LogLevel.ofText? (c :: rest) <;> simp only [ofText?, htrim, hc, if_true, hseek, hlevel]

/-- A word before an equals sign is the target, and what follows is the level. -/
theorem ofText?_both (h : IsWord text) (level : List Char) :
    ofText? (text ++ '=' :: level) = (levelOf? level).map fun l => { target := some (String.ofList text), level := l } := by
  obtain ⟨c, rest, rfl, hc⟩ := h.starts
  have hblank := isBlank_of_mayStart hc
  obtain ⟨tail, -, htrim⟩ : ∃ tail ⊆ level, Text.trim (c :: rest ++ '=' :: level) = c :: rest ++ '=' :: tail :=
    Text.trim_append_cons (by decide) (by simp [Text.trimStart, hblank])
  have hseek : seek (fun c => c = '=' || c = '[') 0 (c :: rest ++ '=' :: tail) = some ('=', Utf8.size (c :: rest), tail) := by
    rw [seek_append (fun d hd => by simp [h.plain d hd]) (by decide), Nat.zero_add]
  have hne : c ≠ '[' := (h.plain c List.mem_cons_self).2.2
  have hleft : cut 0 (Utf8.size (c :: rest)) (c :: rest ++ '=' :: level) = c :: rest := cut_left (c :: rest) ('=' :: level)
  have hright : cut (Utf8.size (c :: rest) + 1) (Utf8.size (c :: rest ++ '=' :: level)) (c :: rest ++ '=' :: level) = level := by
    have hsize : Utf8.size (c :: rest ++ ['=']) = Utf8.size (c :: rest) + 1 := Utf8.size_append (c :: rest) ['=']
    have hcut := cut_right (c :: rest ++ ['=']) level
    rwa [hsize, List.append_assoc] at hcut
  have hmark : ('=' : Char) ≠ '[' := by decide
  simp only [List.cons_append] at htrim hseek hleft hright ⊢
  simp only [ofText?, htrim, hc, if_true, hseek, hleft, hright, if_neg hmark]

/-- No comma ends a directive before its text does. -/
theorem IsWritten.comma_not_mem {d : LogDirective} {text : List Char} (h : d.IsWritten text) : ',' ∉ text := by
  intro hcomma
  cases h with
  | level hword _ => exact (hword.plain ',' hcomma).1 rfl
  | target hword _ => exact (hword.plain ',' hcomma).1 rfl
  | @both target text level hword hlevel =>
    obtain hcomma | hcomma : ',' ∈ target ∨ ',' ∈ text := by simpa using hcomma
    · exact (hword.plain ',' hcomma).1 rfl
    · cases text with
      | nil => exact nomatch hcomma
      | cons c rest => exact LogLevel.comma_not_mem hlevel hcomma

theorem ofText?_of_isWritten {d : LogDirective} {text : List Char} (h : d.IsWritten text) : ofText? text = some d := by
  cases h with
  | level hword hlevel => rw [ofText?_word hword, hlevel]
  | target hword hlevel => rw [ofText?_word hword, hlevel]
  | both hword hlevel => rw [ofText?_both hword, hlevel]; rfl

end LogDirective

namespace LogFilter

/-! ## Entries with commas between them -/

/-- A directive together with how it is written. -/
structure Entry where
  text : List Char
  directive : LogDirective
  isWritten : directive.IsWritten text

/-- Entries as one text. -/
def written (entries : List Entry) : String :=
  String.ofList ([','].intercalate (entries.map (·.text)))

theorem pieces_ne_nil (text : List Char) : pieces text ≠ [] := by
  cases text with
  | nil => exact List.cons_ne_nil [] []
  | cons c rest =>
    rw [pieces]
    split
    · exact List.cons_ne_nil _ _
    · split <;> exact List.cons_ne_nil _ _

/-- A comma ends a piece. -/
theorem pieces_append {text : List Char} (h : ',' ∉ text) (rest : List Char) :
    pieces (text ++ ',' :: rest) = text :: pieces rest := by
  induction text with
  | nil =>
    obtain ⟨piece, more, hrest⟩ := List.exists_cons_of_ne_nil (pieces_ne_nil rest)
    simp [pieces, hrest]
  | cons c text ih =>
    obtain ⟨hc, htext⟩ : ',' ≠ c ∧ ',' ∉ text := by simpa using h
    simp [pieces, ih htext, hc.symm]

theorem pieces_of_not_mem {text : List Char} (h : ',' ∉ text) : pieces text = [text] := by
  induction text with
  | nil => rfl
  | cons c text ih =>
    obtain ⟨hc, htext⟩ : ',' ≠ c ∧ ',' ∉ text := by simpa using h
    simp [pieces, ih htext, hc.symm]

theorem pieces_intercalate {texts : List (List Char)} (hne : texts ≠ []) (h : ∀ text ∈ texts, ',' ∉ text) :
    pieces ([','].intercalate texts) = texts := by
  induction texts with
  | nil => exact absurd rfl hne
  | cons text texts ih =>
    have htext := h text List.mem_cons_self
    obtain rfl | hmore : texts = [] ∨ texts ≠ [] := Classical.em _
    · rw [List.intercalate_singleton, pieces_of_not_mem htext]
    · rw [List.intercalate_cons_of_ne_nil hmore, List.append_assoc, List.singleton_append, pieces_append htext,
        ih hmore fun t ht => h t (List.mem_cons_of_mem text ht)]

/-- What is written is asked for. -/
theorem requested_written (entries : List Entry) : requested (written entries) = entries.map (·.directive) := by
  obtain rfl | hne : entries = [] ∨ entries ≠ [] := Classical.em _
  · decide
  · have hcommas : ∀ text ∈ entries.map (·.text), ',' ∉ text := List.forall_mem_map.mpr fun e _ => e.isWritten.comma_not_mem
    rw [requested, written, String.toList_ofList, pieces_intercalate (mt List.map_eq_nil_iff.mp hne) hcommas, List.filterMap_map]
    have hread : LogDirective.ofText? ∘ Entry.text = some ∘ Entry.directive :=
      funext fun e => LogDirective.ofText?_of_isWritten e.isWritten
    rw [hread, List.filterMap_eq_map]

end LogFilter

end Colloquy
