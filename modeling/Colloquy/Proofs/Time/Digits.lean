import Mathlib.Data.List.Induction
import Mathlib.Data.List.TakeWhile
import Colloquy.Proofs.Json.Strings
import Colloquy.Time.Timestamp

/-!
# The numbers of a timestamp

A number that was padded with zeros is read as what it is, as a year (`year_padded`), as another part of a date or a time (`part_padded`)
and in an offset (`hoursMinutes_padded`). Of the decimals of a second the first nine are read, whatever their number (`fraction_text`).
-/

namespace Colloquy.Timestamp

open Json (bind_eq_ok)

variable {ds rest : List Char}

/-! ## Numbers -/

theorem isDigit_iff {c : Char} : isDigit c = true ↔ 48 ≤ c.toNat ∧ c.toNat ≤ 57 := by
  simp only [isDigit, Bool.and_eq_true, decide_eq_true_eq, Char.le_def, UInt32.le_iff_toNat_le]
  rfl

/-- Digits only. -/
def AreDigits (ds : List Char) : Prop :=
  ∀ c ∈ ds, isDigit c = true

instance (ds : List Char) : Decidable (AreDigits ds) :=
  decidable_of_iff (ds.all isDigit = true) List.all_eq_true

theorem areDigits_toDigits (n : Nat) : AreDigits (Nat.toDigits 10 n) := by
  intro c hc
  have h := Nat.isDigit_of_mem_toDigits (by decide) (by decide) hc
  simp only [Char.isDigit, Bool.and_eq_true, decide_eq_true_eq, ge_iff_le, UInt32.le_iff_toNat_le] at h
  exact isDigit_iff.mpr h

theorem areDigits_padded (width n : Nat) : AreDigits (padded width n) := by
  intro c hc
  rcases List.mem_append.mp hc with hc | hc
  · rw [List.eq_of_mem_replicate hc]
    rfl
  · exact areDigits_toDigits n c hc

theorem length_padded {width n : Nat} (hwidth : 0 < width) (h : n < 10 ^ width) : (padded width n).length = width := by
  have hlength := (Nat.length_toDigits_le_iff (by decide) hwidth).mpr h
  simp only [padded, List.length_append, List.length_replicate]
  omega

theorem digitsValue_eq (ds : List Char) : digitsValue ds = Nat.ofDigitChars 10 ds 0 := by
  simp only [digitsValue, Nat.ofDigitChars, Nat.mul_comm 10]
  rfl

theorem digitsValue_append (ds es : List Char) : digitsValue (ds ++ es) = digitsValue ds * 10 ^ es.length + digitsValue es := by
  rw [digitsValue_eq, digitsValue_eq, digitsValue_eq, Nat.ofDigitChars_append, Nat.ofDigitChars_eq_ofDigitChars_zero, Nat.mul_comm]

theorem digitsValue_zeros (n : Nat) : digitsValue (List.replicate n '0') = 0 := by
  induction n with
  | zero => rfl
  | succ n ih => rw [List.replicate_succ', digitsValue_append, ih]; rfl

theorem digitsValue_padded (width n : Nat) : digitsValue (padded width n) = n := by
  rw [padded, digitsValue_append, digitsValue_zeros, Nat.zero_mul, Nat.zero_add, digitsValue_eq, Nat.ofDigitChars_ten_toDigits]

theorem digitsValue_lt (h : AreDigits ds) : digitsValue ds < 10 ^ ds.length := by
  induction ds using List.reverseRecOn with
  | nil => decide
  | append_singleton ds d ih =>
    have hd := isDigit_iff.mp (h d (by simp))
    have hds := ih fun c hc => h c (List.mem_append_left _ hc)
    have hlast : digitsValue [d] = d.toNat - 48 := Nat.zero_add _
    rw [digitsValue_append, hlast, List.length_append, List.length_singleton, Nat.pow_succ]
    omega

theorem isBlank_digit {c : Char} (h : isDigit c = true) : Text.isBlank c = false := by
  have hc := isDigit_iff.mp h
  simp [Text.isBlank, Text.Ranges.contains, Text.blankRanges]
  omega

theorem trimStart_digits (h : AreDigits ds) (hne : ds ≠ []) (rest : List Char) : Text.trimStart (ds ++ rest) = ds ++ rest := by
  obtain _ | ⟨d, ds⟩ := ds
  · exact absurd rfl hne
  · exact List.dropWhile_cons_of_neg (by rw [isBlank_digit (h d List.mem_cons_self)]; decide)

/-- The number at the front of a text is that of its digits, of which no more than the width are taken. -/
theorem number_digits (width : Nat) (hdigits : AreDigits ds) (hne : ds.take width ≠ []) (hwidth : width ≤ 9)
    (hrest : ds.length < width → ∀ c ∈ rest.head?, isDigit c = false) :
    number (some width) (ds ++ rest) = .ok (digitsValue (ds.take width), ds.drop width ++ rest) := by
  have hrun : ((ds ++ rest).takeWhile isDigit).take width = ds.take width := by
    rw [List.takeWhile_append_of_pos hdigits]
    by_cases hlength : ds.length < width
    · have hnil : rest.takeWhile isDigit = [] := by
        cases rest with
        | nil => rfl
        | cons c rest => exact List.takeWhile_cons_of_neg (by rw [hrest hlength c rfl]; decide)
      rw [hnil, List.append_nil]
    · exact List.take_append_of_le_length (Nat.not_lt.mp hlength)
  have hempty : ¬((ds ++ rest).isEmpty = true) := by
    rintro h
    rw [List.isEmpty_iff, List.append_eq_nil_iff] at h
    rw [h.1, List.take_nil] at hne
    exact hne rfl
  have hnot : ¬((ds.take width).isEmpty = true) := by rwa [List.isEmpty_iff]
  have hsmall : digitsValue (ds.take width) < 10 ^ 9 :=
    (digitsValue_lt fun c hc => hdigits c (List.mem_of_mem_take hc)).trans_le
      (Nat.pow_le_pow_right (by decide) ((List.length_take_le _ _).trans hwidth))
  have hdrop : (ds ++ rest).drop (ds.take width).length = ds.drop width ++ rest := by
    rw [List.length_take, List.drop_append_of_le_length (Nat.min_le_right _ _)]
    congr 1
    rcases Nat.le_total width ds.length with h | h
    · rw [Nat.min_eq_left h]
    · rw [Nat.min_eq_right h, List.drop_length, List.drop_eq_nil_of_le h]
  rw [number, hrun, if_neg hempty, if_neg hnot, if_neg (by omega), hdrop]

/-- A number of as many digits as are taken. -/
theorem number_padded {width n : Nat} (hpos : 0 < width) (hwidth : width ≤ 9) (hn : n < 10 ^ width) (rest : List Char) :
    number (some width) (padded width n ++ rest) = .ok (n, rest) := by
  have hlength := length_padded hpos hn
  have htake : (padded width n).take width = padded width n := List.take_of_length_le (Nat.le_of_eq hlength)
  rw [number_digits width (areDigits_padded width n) (by rw [htake]; exact List.ne_nil_of_length_pos (by omega)) hwidth (by omega), htake,
    digitsValue_padded, List.drop_eq_nil_of_le (Nat.le_of_eq hlength), List.nil_append]

theorem part_padded {low high n : Nat} (hlow : low ≤ n) (hhigh : n ≤ high) (hn : n < 100) (rest : List Char) :
    part low high (padded 2 n ++ rest) = .ok (n, rest) := by
  have hlength : (padded 2 n).length = 2 := length_padded (by decide) hn
  rw [part, trimStart_digits (areDigits_padded 2 n) (List.ne_nil_of_length_pos (by omega)), number_padded (by decide) (by decide) hn]
  exact if_pos ⟨hlow, hhigh⟩

theorem mark_cons {c : Char} (hc : Text.isBlank c = false) (rest : List Char) : mark c (c :: rest) = .ok rest := by
  rw [mark, Text.trimStart, List.dropWhile_cons_of_neg (by rw [hc]; decide)]
  exact if_pos rfl

theorem year_padded {y : Nat} (hy : y < 10000) (rest : List Char) : year (padded 4 y ++ rest) = .ok (y, rest) := by
  have hlength : (padded 4 y).length = 4 := length_padded (by decide) hy
  have hnumber : number (some 4) (padded 4 y ++ rest) = .ok (y, rest) := number_padded (by decide) (by decide) hy rest
  have hdigits := areDigits_padded 4 y
  rw [year, trimStart_digits hdigits (List.ne_nil_of_length_pos (by omega))]
  cases hds : padded 4 y with
  | nil => rw [hds] at hlength; cases hlength
  | cons d ds =>
    have hd := isDigit_iff.mp (hdigits d (by rw [hds]; exact List.mem_cons_self))
    rw [hds] at hnumber
    rw [List.cons_append] at hnumber ⊢
    split
    next heq => cases heq; exact absurd hd (by decide)
    next heq => cases heq; exact absurd hd (by decide)
    · have hrange : -0x80000000 ≤ (y : Int) ∧ (y : Int) < 0x80000000 := by omega
      refine bind_eq_ok.mpr ⟨((y : Int), rest), by rw [hnumber]; rfl, ?_⟩
      dsimp only
      rw [if_pos hrange]

/-! ## Offsets and decimals -/

/-- The digits of the number of a clock. -/
theorem padded_two {n : Nat} (hn : n < 100) : padded 2 n = [Nat.digitChar (n / 10), Nat.digitChar (n % 10)] := by
  by_cases h : n < 10
  · rw [padded, Nat.toDigits_of_lt_base h, Nat.div_eq_of_lt h, Nat.mod_eq_of_lt h]
    rfl
  · rw [padded, Nat.toDigits_of_base_le (by decide) (by omega), Nat.toDigits_of_lt_base (by omega)]
    rfl

theorem twoDigits_padded (tens : Nat) {n : Nat} (hn : n / 10 ≤ tens) (htens : tens < 10) (rest : List Char) :
    twoDigits (Nat.digitChar tens) (padded 2 n ++ rest) = .ok (n, rest) := by
  have hpadded := padded_two (n := n) (by omega)
  have hdigits := areDigits_padded 2 n
  have hvalue := digitsValue_padded 2 n
  have hfirst : Nat.digitChar (n / 10) ≤ Nat.digitChar tens := by
    rw [Char.le_def, UInt32.le_iff_toNat_le]
    have h1 := Nat.toNat_digitChar_of_lt_ten (n := n / 10) (by omega)
    have h2 := Nat.toNat_digitChar_of_lt_ten htens
    simp only [Char.toNat] at h1 h2
    omega
  rw [hpadded] at hdigits hvalue ⊢
  have ha := hdigits (Nat.digitChar (n / 10)) (by simp)
  have hb := hdigits (Nat.digitChar (n % 10)) (by simp)
  have hsize : ∀ c, isDigit c = true → c.utf8Size = 1 := by
    intro c hc
    have := isDigit_iff.mp hc
    simp only [Char.utf8Size_eq_one_iff, UInt32.le_iff_toNat_le]
    show c.toNat ≤ 127
    omega
  rw [List.cons_append, List.cons_append, List.nil_append, twoDigits, if_neg (by simp [Utf8.size, hsize _ ha, hsize _ hb]),
    if_pos ⟨ha, hb⟩, if_pos hfirst, hvalue]

theorem hoursMinutes_padded {hours minutes : Nat} (hhours : hours < 100) (hminutes : minutes < 60) (rest : List Char) :
    hoursMinutes (padded 2 hours ++ ':' :: (padded 2 minutes ++ rest)) = .ok (hours * 3600 + minutes * 60, rest) := by
  have hcolon : (':' :: (padded 2 minutes ++ rest)).dropWhile (fun c => c = ':' || Text.isBlank c) = padded 2 minutes ++ rest := by
    rw [List.dropWhile_cons_of_pos (by decide), padded_two (by omega)]
    refine List.dropWhile_cons_of_neg ?_
    have hd := areDigits_padded 2 minutes (Nat.digitChar (minutes / 10)) (by rw [padded_two (by omega)]; simp)
    have hne : Nat.digitChar (minutes / 10) ≠ ':' := by
      intro h
      rw [h] at hd
      exact absurd hd (by decide)
    simp [isBlank_digit hd, hne]
  refine bind_eq_ok.mpr ⟨_, twoDigits_padded 9 (by omega) (by decide) _, ?_⟩
  dsimp only
  rw [hcolon]
  exact bind_eq_ok.mpr ⟨_, twoDigits_padded 5 (by omega) (by decide) _, rfl⟩

/-- The nanoseconds of decimals: nine of them, with zeros for those that are not there. -/
def nanosOf (decimals : List Char) : Nat :=
  digitsValue ((decimals ++ List.replicate 9 '0').take 9)

theorem nanosOf_eq (decimals : List Char) :
    nanosOf decimals = digitsValue (decimals.take 9) * 10 ^ (9 - (decimals.take 9).length) := by
  have hzeros : (List.replicate 9 '0').take (9 - decimals.length) = List.replicate (9 - (decimals.take 9).length) '0' := by
    rw [List.take_replicate, List.length_take]
    congr 1
    omega
  rw [nanosOf, List.take_append, hzeros, digitsValue_append, digitsValue_zeros, List.length_replicate, Nat.add_zero]

/-- The decimals of a second, with the point before them. -/
def fractionText : List Char → List Char
  | [] => []
  | d :: ds => '.' :: d :: ds

theorem fraction_text {decimals : List Char} (hdecimals : AreDigits decimals)
    (hrest : ∀ c ∈ rest.head?, isDigit c = false ∧ c ≠ '.') :
    fraction (fractionText decimals ++ rest) = .ok (nanosOf decimals, rest) := by
  cases decimals with
  | nil =>
    rw [fractionText, List.nil_append, fraction]
    · rfl
    · rintro after rfl
      exact (hrest '.' rfl).2 rfl
  | cons d ds =>
    have hstop : rest.takeWhile isDigit = [] ∧ rest.dropWhile isDigit = rest := by
      cases rest with
      | nil => exact ⟨rfl, rfl⟩
      | cons c rest =>
        have hc : ¬isDigit c = true := by rw [(hrest c rfl).1]; decide
        exact ⟨List.takeWhile_cons_of_neg hc, List.dropWhile_cons_of_neg hc⟩
    have hrun : (d :: ds ++ rest).takeWhile isDigit = d :: ds := by
      rw [List.takeWhile_append_of_pos hdecimals, hstop.1, List.append_nil]
    have hdrop : ((d :: ds).drop 9 ++ rest).dropWhile isDigit = rest := by
      rw [List.dropWhile_append_of_pos fun c hc => hdecimals c (List.mem_of_mem_drop hc), hstop.2]
    have hnumber := number_digits 9 hdecimals (by simp) (Nat.le_refl 9) fun _ c hc => (hrest c hc).1
    rw [fractionText, List.cons_append, fraction]
    refine bind_eq_ok.mpr ⟨_, hnumber, ?_⟩
    dsimp only
    rw [hrun, hdrop, nanosOf_eq]
    rfl

end Colloquy.Timestamp
