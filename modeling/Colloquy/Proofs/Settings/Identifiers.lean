import Colloquy.Settings
import Colloquy.Proofs.Text.Lowercase
import Mathlib.Data.List.SplitBy

/-!
# Identifiers of models

The identifier of a model is a canonical form of its name (`identifier_is_canonical`). Hyphens for runs of blanks and
lowercase do not disturb each other: lowercase leaves blanks where they are and works on each side of them alone, and
text without blanks has no hyphen put in.
-/

namespace Colloquy

open Text

/-! ## Runs of blanks -/

/-- At least one character, and blanks only. -/
structure IsBlankRun (run : List Char) : Prop where
  ne_nil : run ≠ []
  isBlank : ∀ c ∈ run, isBlank c = true

/-- A text cut wherever blanks meet other characters: its maximal runs of blanks, and what is between them. -/
def runs (text : List Char) : List (List Char) :=
  text.splitBy fun c d => isBlank c == isBlank d

/-- One hyphen for a run of blanks, any other run as it is. -/
def writeRun (run : List Char) : List Char :=
  if run.all isBlank then ['-'] else run

section Hyphens

variable {c : Char} {run run' text rest : List Char}

theorem hyphenate_cons (hc : isBlank c = false) (rest : List Char) : hyphenate (c :: rest) = c :: hyphenate rest := by
  rw [hyphenate.eq_def]
  simp [hc]

/-- A blank before a blank counts for nothing. -/
theorem hyphenate_cons_blank (hc : isBlank c = true) (rest : List Char) :
    hyphenate (c :: rest) = if rest.head?.any isBlank then hyphenate rest else '-' :: hyphenate rest := by
  rw [hyphenate.eq_def]
  cases rest with
  | nil => simp [hc, hyphenate]
  | cons d rest => cases hd : isBlank d <;> simp [hc, hd]

theorem hyphenate_cons_trimStart (hc : isBlank c = true) (rest : List Char) :
    hyphenate (c :: rest) = '-' :: hyphenate (trimStart rest) := by
  induction rest generalizing c with
  | nil => simp [hyphenate, hc, trimStart]
  | cons d rest ih =>
    rw [hyphenate_cons_blank hc]
    cases hd : isBlank d <;> simp [hd, trimStart, ih]

/-- A run of blanks is one hyphen, together with the blanks that follow it. -/
theorem hyphenate_blanks (h : IsBlankRun run) (rest : List Char) : hyphenate (run ++ rest) = '-' :: hyphenate (trimStart rest) := by
  obtain ⟨c, run, rfl⟩ := List.exists_cons_of_ne_nil h.ne_nil
  rw [List.cons_append, hyphenate_cons_trimStart (h.isBlank c List.mem_cons_self), trimStart,
    List.dropWhile_append_of_pos fun d hd => h.isBlank d (List.mem_cons_of_mem c hd), trimStart]

theorem hyphenate_append (h : ∀ c ∈ text, isBlank c = false) (rest : List Char) :
    hyphenate (text ++ rest) = text ++ hyphenate rest := by
  induction text with
  | nil => rfl
  | cons c text ih =>
    rw [List.cons_append, hyphenate_cons (h c List.mem_cons_self), ih fun d hd => h d (List.mem_cons_of_mem c hd)]
    rfl

/-- Which blanks a run is made of makes no difference. -/
theorem hyphenate_replace (h : IsBlankRun run) (h' : IsBlankRun run') (text rest : List Char) :
    hyphenate (text ++ run ++ rest) = hyphenate (text ++ run' ++ rest) := by
  induction text with
  | nil => simp only [List.nil_append, hyphenate_blanks h, hyphenate_blanks h']
  | cons c text ih =>
    simp only [List.cons_append]
    cases hc : isBlank c with
    | false => rw [hyphenate_cons hc, hyphenate_cons hc, ih]
    | true =>
      have hhead : (text ++ run ++ rest).head?.any isBlank = (text ++ run' ++ rest).head?.any isBlank := by
        obtain ⟨d, run, rfl⟩ := List.exists_cons_of_ne_nil h.ne_nil
        obtain ⟨d', run', rfl⟩ := List.exists_cons_of_ne_nil h'.ne_nil
        cases text <;> simp [h.isBlank d, h'.isBlank d']
      rw [hyphenate_cons_blank hc, hyphenate_cons_blank hc, hhead, ih]

/-- What is hyphenated consists of hyphens and of what was not blank. -/
theorem mem_hyphenate (hc : c ∈ hyphenate text) : c = '-' ∨ (c ∈ text ∧ isBlank c = false) := by
  induction text with
  | nil => exact nomatch hc
  | cons d text ih =>
    have hlater : c ∈ hyphenate text → c = '-' ∨ (c ∈ d :: text ∧ isBlank c = false) :=
      fun h => (ih h).imp_right fun h => ⟨List.mem_cons_of_mem d h.1, h.2⟩
    cases hd : isBlank d with
    | false =>
      rw [hyphenate_cons hd] at hc
      obtain rfl | hc := List.mem_cons.mp hc
      · exact .inr ⟨List.mem_cons_self, hd⟩
      · exact hlater hc
    | true =>
      rw [hyphenate_cons_blank hd] at hc
      split at hc
      · exact hlater hc
      · exact (List.mem_cons.mp hc).elim .inl hlater

theorem isBlank_of_mem_hyphenate (hc : c ∈ hyphenate text) : isBlank c = false := by
  obtain rfl | ⟨-, hblank⟩ := mem_hyphenate hc
  · decide
  · exact hblank

theorem hyphenate_ne_nil (h : text ≠ []) : hyphenate text ≠ [] := by
  obtain ⟨c, rest, rfl⟩ := List.exists_cons_of_ne_nil h
  cases hc : isBlank c with
  | false => simp [hyphenate_cons hc]
  | true => simp [hyphenate_cons_trimStart hc]

/-- The first character of a run tells of all others whether they are blank. -/
theorem isBlank_of_isChain (h : (c :: run).IsChain fun c d => isBlank c == isBlank d) : ∀ d ∈ run, isBlank d = isBlank c := by
  induction run generalizing c with
  | nil => exact nofun
  | cons d run ih =>
    obtain ⟨hcd, hrun⟩ := List.isChain_cons_cons.mp h
    have hd : isBlank d = isBlank c := (beq_iff_eq.mp hcd).symm
    intro e he
    obtain rfl | he := List.mem_cons.mp he
    · exact hd
    · exact (ih hrun e he).trans hd

/-- Runs that are put together are hyphenated one by one, where no two neighbours could be one run. -/
theorem hyphenate_flatten {runs : List (List Char)} (hne : [] ∉ runs)
    (halike : ∀ run ∈ runs, run.IsChain fun c d => isBlank c == isBlank d)
    (hcut : runs.IsChain fun run run' => ∃ h h', (isBlank (run.getLast h) == isBlank (run'.head h')) = false) :
    hyphenate runs.flatten = runs.flatMap writeRun := by
  induction runs with
  | nil => rfl
  | cons run runs ih =>
    have hnext := ih (fun h => hne (List.mem_cons_of_mem run h)) (fun r hr => halike r (List.mem_cons_of_mem run hr)) hcut.tail
    obtain ⟨c, rest, rfl⟩ := List.exists_cons_of_ne_nil fun h => hne (h ▸ List.mem_cons_self)
    have hsame := isBlank_of_isChain (halike _ List.mem_cons_self)
    rw [List.flatten_cons, List.flatMap_cons]
    cases hc : isBlank c with
    | false =>
      have hplain : ∀ d ∈ c :: rest, isBlank d = false := List.forall_mem_cons.mpr ⟨hc, fun d hd => (hsame d hd).trans hc⟩
      have hwrite : writeRun (c :: rest) = c :: rest := by simp [writeRun, hc]
      rw [hyphenate_append hplain, hnext, hwrite]
    | true =>
      have hblank : ∀ d ∈ c :: rest, isBlank d = true := List.forall_mem_cons.mpr ⟨hc, fun d hd => (hsame d hd).trans hc⟩
      have hwrite : writeRun (c :: rest) = ['-'] := if_pos (List.all_eq_true.mpr hblank)
      -- the next run starts with what is not blank
      have htrim : trimStart runs.flatten = runs.flatten := by
        cases runs with
        | nil => rfl
        | cons next runs =>
          obtain ⟨⟨hlast, hhead, hdiffer⟩, -⟩ := List.isChain_cons_cons.mp hcut
          rw [hblank _ (List.getLast_mem hlast)] at hdiffer
          obtain ⟨d, next, rfl⟩ := List.exists_cons_of_ne_nil hhead
          have hd : isBlank d = false := by simpa using hdiffer
          simp [trimStart, hd]
      rw [hyphenate_blanks ⟨List.cons_ne_nil c rest, hblank⟩, htrim, hnext, hwrite]
      rfl

/-- Hyphens for blanks, said of the runs of a text. -/
theorem hyphenate_eq (text : List Char) : hyphenate text = (runs text).flatMap writeRun := by
  obtain ⟨htext, hne, halike, hcut⟩ := List.splitBy_eq_iff.mp (rfl : runs text = runs text)
  exact (congrArg hyphenate htext).trans (hyphenate_flatten hne halike hcut)

end Hyphens

/-! ## Identifiers -/

namespace ModelConfig

variable {c d : ModelConfig}

theorem toList_identifier (c : ModelConfig) : c.identifier.toList = hyphenate (lowercase c.name.toList) :=
  String.toList_ofList

theorem identifier_congr (h : hyphenate (lowercase d.name.toList) = hyphenate (lowercase c.name.toList)) :
    d.identifier = c.identifier :=
  congrArg String.ofList h

/-- What an identifier is made of is neither blank nor a capital. -/
theorem isSmall_of_mem_identifier {ch : Char} (h : ch ∈ c.identifier.toList) : IsSmall ch := by
  rw [toList_identifier] at h
  obtain rfl | ⟨hmem, -⟩ := mem_hyphenate h
  · decide
  · exact isSmall_of_mem_lowercaseAfter hmem

theorem isBlank_of_mem_identifier {ch : Char} (h : ch ∈ c.identifier.toList) : isBlank ch = false :=
  isBlank_of_mem_hyphenate (toList_identifier c ▸ h)

/-- An identifier as a name is its own identifier. -/
theorem identifier_of_identifier (h : d.name = c.identifier) : d.identifier = c.identifier := by
  have hlower : lowercase c.identifier.toList = c.identifier.toList := lowercaseAfter_eq_self fun _ => isSmall_of_mem_identifier
  have hhyphens : hyphenate c.identifier.toList = c.identifier.toList := by
    simpa [hyphenate] using hyphenate_append (fun _ => isBlank_of_mem_identifier (c := c)) []
  rw [identifier, h, hlower, hhyphens, String.ofList_toList]

theorem identifier_of_lowercase (h : d.name = String.ofList (lowercase c.name.toList)) : d.identifier = c.identifier := by
  refine identifier_congr ?_
  rw [h, String.toList_ofList]
  exact congrArg hyphenate (lowercaseAfter_eq_self fun _ => isSmall_of_mem_lowercaseAfter)

/-- Which blanks part the words of a name makes no difference, not even to a sigma before or behind them. -/
theorem identifier_of_blanks {before run run' after : List Char} (hrun : IsBlankRun run) (hrun' : IsBlankRun run')
    (hc : c.name.toList = before ++ run ++ after) (hd : d.name.toList = before ++ run' ++ after) : d.identifier = c.identifier := by
  refine identifier_congr ?_
  rw [hc, hd, lowercase_append_blanks hrun.ne_nil hrun.isBlank, lowercase_append_blanks hrun'.ne_nil hrun'.isBlank]
  exact hyphenate_replace hrun' hrun (lowercase before) (lowercase after)

theorem identifier_ne_empty (h : c.validate = .ok ()) : c.identifier ≠ "" := by
  have hname : c.name.toList ≠ [] := by
    intro hnil
    rw [validate, hnil, List.all_nil, if_pos rfl] at h
    exact nomatch h
  have hhyphens : hyphenate (lowercase c.name.toList) ≠ [] := hyphenate_ne_nil (lowercase_eq_nil_iff.not.mpr hname)
  intro hempty
  exact hhyphens (by rw [← toList_identifier, hempty]; rfl)

end ModelConfig

/-- The identifier of a model is its name in lowercase with one hyphen for every maximal run of blanks. It has no blank in it; as a
name it is its own identifier; the name in lowercase has the same one; other blanks in the place of blanks change nothing; and a
model that is valid has one that is not empty. -/
theorem identifier_is_canonical (c : ModelConfig) :
    c.identifier.toList = (runs (lowercase c.name.toList)).flatMap writeRun ∧
      (∀ ch ∈ c.identifier.toList, isBlank ch = false) ∧
      (∀ d : ModelConfig, d.name = c.identifier → d.identifier = c.identifier) ∧
      (∀ d : ModelConfig, d.name = String.ofList (lowercase c.name.toList) → d.identifier = c.identifier) ∧
      (∀ (d : ModelConfig) (before run run' after : List Char), IsBlankRun run → IsBlankRun run' →
        c.name.toList = before ++ run ++ after → d.name.toList = before ++ run' ++ after → d.identifier = c.identifier) ∧
      (c.validate = .ok () → c.identifier ≠ "") := by
  refine ⟨?_, fun _ => ModelConfig.isBlank_of_mem_identifier, fun _ => ModelConfig.identifier_of_identifier,
    fun _ => ModelConfig.identifier_of_lowercase, ?_, ModelConfig.identifier_ne_empty⟩
  · rw [c.toList_identifier, hyphenate_eq]
  · intro d before run run' after hrun hrun' hc hd
    exact ModelConfig.identifier_of_blanks hrun hrun' hc hd

/-- A name whose words end in sigma, with blanks of every kind around them. -/
def greekModel : ModelConfig :=
  { name := "\tΛΌΓΟΣ \u3000Σ  İ", provider := .echo }

/-- The same with one space before the last word. -/
def greekModelTidied : ModelConfig :=
  { greekModel with name := "\tΛΌΓΟΣ \u3000Σ İ" }

/-- Each sigma gets the small letter of its place, and the identifier is the same for the tidied name and for itself. -/
theorem greekModel_identifier :
    greekModel.identifier = "-λόγος-σ-i\u0307" ∧ greekModelTidied.identifier = greekModel.identifier ∧
      { greekModel with name := greekModel.identifier : ModelConfig }.identifier = greekModel.identifier ∧
      { greekModel with name := "\tλόγος \u3000σ  i\u0307" : ModelConfig }.identifier = greekModel.identifier ∧
      greekModel.validate = .ok () ∧ greekModel.identifier ≠ "" := by
  obtain ⟨-, -, hitself, hlower, hblanks, hnonempty⟩ := identifier_is_canonical greekModel
  have hvalid : greekModel.validate = .ok () := by decide +kernel
  refine ⟨by decide +kernel, ?_, hitself _ rfl, hlower _ (by decide +kernel), hvalid, hnonempty hvalid⟩
  exact hblanks greekModelTidied "\tΛΌΓΟΣ \u3000Σ".toList [' ', ' '] [' '] ['İ'] ⟨by decide, List.all_eq_true.mp (by decide)⟩
    ⟨by decide, List.all_eq_true.mp (by decide)⟩ (by decide +kernel) (by decide +kernel)

end Colloquy
