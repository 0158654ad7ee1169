import Colloquy.Text.Lowercase
import Colloquy.Proofs.Text.Blank

/-!
# Lowercase text

Text in lowercase stays as it is, and text on the two sides of white space is turned into lowercase as if the other
side were not there: white space has no case and is not passed over, so no word reaches across it. The tables are
compared as ranges; that no small letter is a capital again takes every pair of runs.
-/

namespace Colloquy.Text

/-! ## Capitals and small letters -/

namespace CapitalRun

/-- The small letter of a capital of the run. -/
def small (run : CapitalRun) (code : Nat) : Nat :=
  ((code : Int) + run.shift).toNat

/-- Whether the small letters of a run are code points of characters. -/
def isSound (run : CapitalRun) : Bool :=
  Nat.blt 0 (run.small run.first) &&
    (Nat.blt (run.small run.last) 0xD800 || (Nat.blt 0xDFFF (run.small run.first) && Nat.blt (run.small run.last) 0x110000))

/-- Whether no small letter of a run is a capital of another: it lies before or behind, or between two capitals. -/
def misses (run other : CapitalRun) : Bool :=
  Nat.blt (run.small run.last) other.first || Nat.blt other.last (run.small run.first) ||
    (other.stride == 2 && (run.stride == 2 || run.first == run.last) && (run.small run.first + other.first) % 2 == 1)

variable {run other : CapitalRun} {code : Nat}

theorem covers_iff : run.covers code = true ↔ run.first ≤ code ∧ code ≤ run.last ∧ (code - run.first) % run.stride = 0 := by
  simp [covers, and_assoc]

theorem small_bounds (hsound : run.isSound = true) (h : run.covers code = true) :
    run.small run.first ≤ run.small code ∧ run.small code ≤ run.small run.last ∧
      run.small code = run.small run.first + (code - run.first) := by
  obtain ⟨hfirst, hlast, -⟩ := covers_iff.mp h
  simp only [isSound, Bool.and_eq_true, Nat.blt_eq] at hsound
  have hpos := hsound.1
  simp only [small] at hpos ⊢
  omega

theorem isValidChar_small (hsound : run.isSound = true) (h : run.covers code = true) : (run.small code).isValidChar := by
  obtain ⟨hfirst, hlast, -⟩ := small_bounds hsound h
  simp only [isSound, Bool.and_eq_true, Bool.or_eq_true, Nat.blt_eq] at hsound
  unfold Nat.isValidChar
  omega

theorem not_covers_small (hsound : run.isSound = true) (hmisses : run.misses other = true) (h : run.covers code = true) :
    other.covers (run.small code) = false := by
  obtain ⟨hlow, hhigh, hsmall⟩ := small_bounds hsound h
  obtain ⟨hfirst, hlast, hstride⟩ := covers_iff.mp h
  refine Bool.eq_false_iff.mpr fun hother => ?_
  obtain ⟨hfirst', hlast', hstride'⟩ := covers_iff.mp hother
  simp only [misses, Bool.or_eq_true, Bool.and_eq_true, Nat.blt_eq, beq_iff_eq] at hmisses
  obtain (hbefore | hbehind) | ⟨⟨htwo, hsame⟩, hodd⟩ := hmisses
  · omega
  · omega
  · -- every second code point on both sides, and one of the sides starts at an odd distance
    rw [htwo] at hstride'
    have heven : (code - run.first) % 2 = 0 := by
      obtain hrun | hsingle := hsame
      · rwa [hrun] at hstride
      · omega
    omega

end CapitalRun

/-- The capital I with a dot above, as a run of its own. -/
def dottedRun : CapitalRun :=
  ⟨0x130, 0x130, 1, 0⟩

theorem isSound_capitalRuns : (capitalRuns.all CapitalRun.isSound) = true := by
  decide +kernel

theorem misses_capitalRuns : (capitalRuns.all fun run => (dottedRun :: capitalRuns).all run.misses) = true := by
  decide +kernel

theorem smallLetter?_eq_none {c : Char} : smallLetter? c = none ↔ ∀ run ∈ capitalRuns, run.covers c.toNat = false := by
  simp [smallLetter?, List.find?_eq_none]

/-! ## Text that is in lowercase -/

/-- Whether a character is its own lowercase wherever it stands. -/
structure IsSmall (c : Char) : Prop where
  ne_sigma : c ≠ 'Σ'
  ne_dotted : c ≠ 'İ'
  smallLetter? : smallLetter? c = none

namespace IsSmall

variable {c : Char}

theorem of_not_covers (h : ∀ run ∈ dottedRun :: capitalRuns, run.covers c.toNat = false) : IsSmall c where
  ne_sigma hc := by
    subst hc
    exact absurd (h ⟨0x3A3, 0x3AB, 1, 32⟩ (by decide)) (by decide)
  ne_dotted hc := by
    subst hc
    exact absurd (h dottedRun List.mem_cons_self) (by decide)
  smallLetter? := smallLetter?_eq_none.mpr fun run hrun => h run (List.mem_cons_of_mem _ hrun)

theorem lowercaseChar (h : IsSmall c) : lowercaseChar c = [c] := by
  simp [Text.lowercaseChar, h.ne_dotted, h.smallLetter?]

end IsSmall

instance (c : Char) : Decidable (IsSmall c) :=
  decidable_of_iff (c ≠ 'Σ' ∧ c ≠ 'İ' ∧ smallLetter? c = none)
    ⟨fun ⟨hsigma, hdotted, hsmall⟩ => ⟨hsigma, hdotted, hsmall⟩, fun h => ⟨h.ne_sigma, h.ne_dotted, h.smallLetter?⟩⟩

theorem isSmall_of_smallLetter? {c d : Char} (h : smallLetter? c = some d) : IsSmall d := by
  obtain ⟨run, hfind, rfl⟩ := Option.map_eq_some_iff.mp h
  have hcovers : run.covers c.toNat = true := List.find?_some (p := fun run => CapitalRun.covers run c.toNat) hfind
  have hrun := List.mem_of_find?_eq_some hfind
  have hsound := List.all_eq_true.mp isSound_capitalRuns run hrun
  have hmisses := List.all_eq_true.mp (List.all_eq_true.mp misses_capitalRuns run hrun)
  refine .of_not_covers fun other hother => ?_
  have hvalid := CapitalRun.isValidChar_small hsound hcovers
  have hcode : (Char.ofNat (run.small c.toNat)).toNat = run.small c.toNat := by
    rw [Char.ofNat, dif_pos hvalid]
    rfl
  exact hcode ▸ CapitalRun.not_covers_small hsound (hmisses other hother) hcovers

/-- What a character becomes in lowercase becomes nothing else. -/
theorem isSmall_of_mem_lowercaseChar {c d : Char} (hc : c ≠ 'Σ') (hd : d ∈ lowercaseChar c) : IsSmall d := by
  unfold lowercaseChar at hd
  split at hd
  · obtain rfl | rfl : d = 'i' ∨ d = '\u0307' := by simpa using hd
    · decide
    · decide
  · rename_i hdotted
    cases hsmall : smallLetter? c with
    | none =>
      obtain rfl : d = c := by simpa [hsmall] using hd
      exact ⟨hc, hdotted, hsmall⟩
    | some small =>
      obtain rfl : d = small := by simpa [hsmall] using hd
      exact isSmall_of_smallLetter? hsmall

theorem isSmall_of_mem_lowercaseAfter {before text : List Char} {d : Char} (hd : d ∈ lowercaseAfter before text) : IsSmall d := by
  induction text generalizing before with
  | nil => exact nomatch hd
  | cons c rest ih =>
    obtain hd | hd := List.mem_append.mp hd
    · split at hd
      · -- both small sigmas
        obtain rfl | rfl : d = 'ς' ∨ d = 'σ' := by split at hd <;> simp_all
        · decide
        · decide
      · rename_i hc
        exact isSmall_of_mem_lowercaseChar hc hd
    · exact ih hd

theorem lowercaseAfter_eq_self {before text : List Char} (h : ∀ c ∈ text, IsSmall c) : lowercaseAfter before text = text := by
  induction text generalizing before with
  | nil => rfl
  | cons c rest ih =>
    have hc := h c List.mem_cons_self
    rw [lowercaseAfter, if_neg hc.ne_sigma, hc.lowercaseChar, ih fun d hd => h d (List.mem_cons_of_mem _ hd)]
    rfl

theorem lowercase_eq_nil_iff {text : List Char} : lowercase text = [] ↔ text = [] := by
  cases text with
  | nil => simp [lowercase, lowercaseAfter]
  | cons c rest =>
    have hc : lowercaseChar c ≠ [] := by unfold lowercaseChar; split <;> simp
    simp only [lowercase, lowercaseAfter, List.append_eq_nil_iff, reduceCtorEq, iff_false, not_and]
    split <;> simp [hc]

/-! ## White space parts words -/

/-- The code points from the first to the last capital of each run. -/
def capitalSpans : Ranges :=
  (dottedRun :: capitalRuns).map fun run => (run.first, run.last)

theorem isSmall_of_isBlank {c : Char} (h : isBlank c = true) : IsSmall c := by
  have hspans : capitalSpans.contains c = false := Ranges.not_contains_of_areApart (a := blankRanges) (by decide +kernel) h
  refine .of_not_covers fun run hrun => Bool.eq_false_iff.mpr fun hcovers => ?_
  obtain ⟨hfirst, hlast, -⟩ := CapitalRun.covers_iff.mp hcovers
  exact absurd (Ranges.contains_iff.mpr ⟨_, List.mem_map_of_mem hrun, hfirst, hlast⟩) (Bool.eq_false_iff.mp hspans)

theorem meetsCased_cons (c : Char) (text : List Char) :
    meetsCased (c :: text) = if isCaseIgnorable c then meetsCased text else isCased c := by
  cases h : isCaseIgnorable c <;> simp [meetsCased, h]

theorem meetsCased_blank {c : Char} (h : isBlank c = true) (text : List Char) : meetsCased (c :: text) = false := by
  have hignorable : isCaseIgnorable c = false := Ranges.not_contains_of_areApart (a := blankRanges) (by decide +kernel) h
  have hcased : isCased c = false := Ranges.not_contains_of_areApart (a := blankRanges) (by decide +kernel) h
  rw [meetsCased_cons, hignorable, if_neg Bool.false_ne_true, hcased]

/-- No word reaches beyond white space. -/
theorem meetsCased_append_blank {c : Char} (h : isBlank c = true) (text rest : List Char) :
    meetsCased (text ++ c :: rest) = meetsCased text := by
  induction text with
  | nil => exact meetsCased_blank h rest
  | cons d text ih => rw [List.cons_append, meetsCased_cons, meetsCased_cons, ih]

/-- What comes before a text only counts by whether it ends in a letter with a case. -/
theorem lowercaseAfter_congr {before before' : List Char} (h : meetsCased before = meetsCased before') (text : List Char) :
    lowercaseAfter before text = lowercaseAfter before' text := by
  induction text generalizing before before' with
  | nil => rfl
  | cons c rest ih =>
    have hnext : meetsCased (c :: before) = meetsCased (c :: before') := by rw [meetsCased_cons, meetsCased_cons, h]
    rw [lowercaseAfter, lowercaseAfter, h, ih hnext]

theorem lowercaseAfter_append_blank {c : Char} (h : isBlank c = true) (before text rest : List Char) :
    lowercaseAfter before (text ++ c :: rest) = lowercaseAfter before text ++ c :: lowercase rest := by
  induction text generalizing before with
  | nil =>
    have hc := isSmall_of_isBlank h
    have hrest : lowercaseAfter (c :: before) rest = lowercase rest := lowercaseAfter_congr (meetsCased_blank h before) rest
    rw [List.nil_append, lowercaseAfter.eq_2, if_neg hc.ne_sigma, hc.lowercaseChar, hrest]
    rfl
  | cons d text ih =>
    rw [List.cons_append, lowercaseAfter, lowercaseAfter, ih, meetsCased_append_blank h, List.append_assoc]

/-- White space stays as it is, and each side of it is lowercase of its own. -/
theorem lowercase_append_blanks {run : List Char} (hne : run ≠ []) (hrun : ∀ c ∈ run, isBlank c = true) (text rest : List Char) :
    lowercase (text ++ run ++ rest) = lowercase text ++ run ++ lowercase rest := by
  induction run generalizing text with
  | nil => exact absurd rfl hne
  | cons c run ih =>
    have hfirst : lowercase (text ++ c :: (run ++ rest)) = lowercase text ++ c :: lowercase (run ++ rest) :=
      lowercaseAfter_append_blank (hrun c List.mem_cons_self) [] text (run ++ rest)
    cases run with
    | nil => simpa using hfirst
    | cons d run =>
      have hrest : lowercase (d :: run ++ rest) = d :: run ++ lowercase rest :=
        ih (List.cons_ne_nil d run) (fun e he => hrun e (List.mem_cons_of_mem c he)) []
      rw [hrest] at hfirst
      simpa using hfirst

end Colloquy.Text
