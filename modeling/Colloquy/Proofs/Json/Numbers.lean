import Mathlib.Data.List.Basic
import Mathlib.Tactic.IntervalCases
import Colloquy.Json.NumberReader
import Colloquy.Json.Printer

/-!
# Numbers there and back

A whole number of 64 bits is read as it was written (`number_printed`), provided that what follows it is no part of a number. To pass
over a number is to end where reading it ends (`skipUnsigned_of_unsigned`); numbers that are out of range are passed over too, but
are not read.
-/

namespace Colloquy.Json

variable {n : JsonNumber} {text rest : List Char}

/-! ## Read and passed over -/

theorem toDouble_rest {negative : Bool} {significand : Nat} {point : Int} (h : toDouble negative significand point text = .ok (n, rest)) :
    rest = text := by
  unfold toDouble at h
  split at h
  · cases h
    rfl
  · cases h

/-- The digits of an exponent that grows too large are left, and are passed over in the end. -/
theorem exponentDigits_rest (exponent : Nat) (text : List Char) :
    (exponentDigits exponent text).2.2.dropWhile isDigit = text.dropWhile isDigit ∧
      ((exponentDigits exponent text).2.1 = false → (exponentDigits exponent text).2.2 = text.dropWhile isDigit) := by
  induction text generalizing exponent with
  | nil => exact ⟨rfl, fun _ => rfl⟩
  | cons c text ih =>
    rw [exponentDigits]
    by_cases hc : isDigit c
    · rw [if_pos hc, List.dropWhile_cons_of_pos hc]
      dsimp only
      split
      · exact ih _
      · exact ⟨rfl, nofun⟩
    · rw [if_neg hc, List.dropWhile_cons_of_neg hc]
      exact ⟨rfl, fun _ => rfl⟩

theorem skipExponent_of_exponentPart {negative : Bool} {significand : Nat} {point : Int}
    (h : exponentPart negative significand point text = .ok (n, rest)) : skipExponent text = .ok rest ∧ rest.length ≤ text.length := by
  unfold exponentPart at h
  split at h
  next down after hsign =>
  split at h
  · cases h
  next d ds =>
  have hdigits : isDigit d ∧ rest = ds.dropWhile isDigit := by
    split at h
    next hd =>
      obtain ⟨hdropped, hends⟩ := exponentDigits_rest 0 (d :: ds)
      rw [List.dropWhile_cons_of_pos hd] at hdropped hends
      split at h
      next exponent beyond later heq =>
      rw [heq] at hdropped hends
      refine ⟨hd, ?_⟩
      split at h
      · split at h
        · cases h
        · cases h
          exact hdropped
      next hbeyond =>
        rw [toDouble_rest h]
        exact hends (by simpa using hbeyond)
    · cases h
  obtain ⟨hd, rfl⟩ := hdigits
  have hshort : (ds.dropWhile isDigit).length ≤ ds.length := (List.dropWhile_suffix _).length_le
  unfold skipExponent
  split at hsign
  · cases hsign
    exact ⟨if_pos hd, by simp only [List.length_cons]; omega⟩
  · cases hsign
    exact ⟨if_pos hd, by simp only [List.length_cons]; omega⟩
  next hplus hminus =>
    cases hsign
    exact ⟨if_pos hd, by simp only [List.length_cons]; omega⟩

theorem skipAfterFraction_plain (he : ∀ rest, text ≠ 'e' :: rest) (hE : ∀ rest, text ≠ 'E' :: rest) :
    skipAfterFraction text = .ok text := by
  unfold skipAfterFraction
  split
  · exact absurd rfl (he _)
  · exact absurd rfl (hE _)
  · rfl

theorem skipAfterFraction_of_afterFraction {negative : Bool} {significand : Nat} {point : Int}
    (h : afterFraction negative significand point text = .ok (n, rest)) :
    skipAfterFraction text = .ok rest ∧ rest.length ≤ text.length := by
  unfold afterFraction at h
  unfold skipAfterFraction
  split at h
  · obtain ⟨hskip, hshort⟩ := skipExponent_of_exponentPart h
    exact ⟨hskip, Nat.le_succ_of_le hshort⟩
  · obtain ⟨hskip, hshort⟩ := skipExponent_of_exponentPart h
    exact ⟨hskip, Nat.le_succ_of_le hshort⟩
  next he hE =>
    rw [toDouble_rest h]
    exact ⟨rfl, Nat.le_refl _⟩

theorem skipAfterWhole_of_afterWhole {negative : Bool} {significand left : Nat}
    (h : afterWhole negative significand left text = .ok (n, rest)) : skipAfterWhole text = .ok rest ∧ rest.length ≤ text.length := by
  unfold afterWhole at h
  unfold skipAfterWhole
  split at h
  next decimals =>
    unfold fractionPart at h
    dsimp only at h ⊢
    split at h
    · cases h
    next hdigits =>
      obtain ⟨hskip, hshort⟩ := skipAfterFraction_of_afterFraction h
      have hdropped : (decimals.dropWhile isDigit).length ≤ decimals.length := (List.dropWhile_suffix _).length_le
      exact ⟨(if_neg hdigits).trans hskip, by simp only [List.length_cons]; omega⟩
  · exact skipAfterFraction_of_afterFraction (show afterFraction negative significand left _ = _ from h)
  · exact skipAfterFraction_of_afterFraction (show afterFraction negative significand left _ = _ from h)
  next hpoint he hE =>
    have hrest : rest = text := by
      split at h
      · cases h
        rfl
      · exact toDouble_rest h
    rw [hrest]
    split
    · exact absurd rfl (hpoint _)
    · exact ⟨skipAfterFraction_plain he hE, Nat.le_refl _⟩

/-- To pass over a number is to end where reading it ends, and that takes something away. -/
theorem skipUnsigned_of_unsigned {negative : Bool} (h : unsigned negative text = .ok (n, rest)) :
    skipUnsigned text = .ok rest ∧ rest.length < text.length := by
  unfold unsigned at h
  unfold skipUnsigned
  split at h
  · cases h
  · split at h
    · split at h
      · cases h
      next hc =>
        obtain ⟨hskip, hshort⟩ := skipAfterWhole_of_afterWhole h
        exact ⟨(if_neg hc).trans hskip, Nat.lt_succ_of_le hshort⟩
    · obtain ⟨hskip, hshort⟩ := skipAfterWhole_of_afterWhole h
      cases hskip
      exact ⟨rfl, Nat.lt_succ_self _⟩
  next c later hzero =>
    split at h
    next hc =>
      rw [List.dropWhile_cons_of_pos hc] at h
      obtain ⟨hskip, hshort⟩ := skipAfterWhole_of_afterWhole h
      have hdropped : (later.dropWhile isDigit).length ≤ later.length := (List.dropWhile_suffix _).length_le
      exact ⟨(if_pos hc).trans hskip, by simp only [List.length_cons]; omega⟩
    · cases h

/-- To pass over a number, at its first character, is to end where reading it ends. -/
theorem skip_of_number {c : Char} (h : number (c :: text) = .ok (n, rest)) :
    (if c = '-' then skipUnsigned text else skipUnsigned (c :: text)) = .ok rest ∧ rest.length < (c :: text).length := by
  unfold number at h
  split at h
  next heq =>
    cases heq
    obtain ⟨hskip, hshort⟩ := skipUnsigned_of_unsigned h
    exact ⟨hskip, Nat.lt_succ_of_lt hshort⟩
  next hminus =>
    have hc : c ≠ '-' := by
      rintro rfl
      exact hminus text rfl
    rw [if_neg hc]
    exact skipUnsigned_of_unsigned h

theorem length_of_skipExponent (h : skipExponent text = .ok rest) : rest.length ≤ text.length := by
  have hdigits {c : Char} {later : List Char} {fault : Fault}
      (h : (if isDigit c then .ok (later.dropWhile isDigit) else .error fault) = Except.ok rest) : rest.length ≤ later.length := by
    split at h
    · cases h
      exact (List.dropWhile_suffix _).length_le
    · cases h
  unfold skipExponent at h
  dsimp only at h
  split at h
  · cases h
  next c later htext =>
    -- what stands there is the text, or what comes after its sign
    have hshort : (c :: later).length ≤ text.length := by
      split at htext
      · exact htext ▸ Nat.le_succ _
      · exact htext ▸ Nat.le_succ _
      · exact htext ▸ Nat.le_refl _
    exact (hdigits h).trans (Nat.le_of_succ_le hshort)

theorem length_of_skipAfterFraction (h : skipAfterFraction text = .ok rest) : rest.length ≤ text.length := by
  unfold skipAfterFraction at h
  split at h
  · exact Nat.le_succ_of_le (length_of_skipExponent h)
  · exact Nat.le_succ_of_le (length_of_skipExponent h)
  · cases h
    exact Nat.le_refl _

theorem length_of_skipAfterWhole (h : skipAfterWhole text = .ok rest) : rest.length ≤ text.length := by
  unfold skipAfterWhole at h
  split at h
  · split at h
    · cases h
    · exact Nat.le_succ_of_le ((length_of_skipAfterFraction h).trans (List.dropWhile_suffix _).length_le)
  · exact length_of_skipAfterFraction h

/-- Passing over a number leaves no more than there was. -/
theorem length_of_skipUnsigned (h : skipUnsigned text = .ok rest) : rest.length ≤ text.length := by
  unfold skipUnsigned at h
  split at h
  · cases h
  · split at h
    · split at h
      · cases h
      · exact Nat.le_succ_of_le (length_of_skipAfterWhole h)
    · cases h
      exact Nat.zero_le _
  · split at h
    · exact Nat.le_succ_of_le ((length_of_skipAfterWhole h).trans (List.dropWhile_suffix _).length_le)
    · cases h

/-! ## Written and read -/

/-- What follows a number is no part of it. -/
def EndsNumber (rest : List Char) : Prop :=
  ∀ c ∈ rest.head?, isDigit c = false ∧ c ≠ '.' ∧ c ≠ 'e' ∧ c ≠ 'E'

theorem afterWhole_of_endsNumber (hrest : EndsNumber rest) (negative : Bool) (significand : Nat) :
    afterWhole negative significand 0 rest = .ok (toWhole negative significand, rest) := by
  unfold afterWhole
  split
  · exact absurd rfl (hrest _ rfl).2.1
  · exact absurd rfl (hrest _ rfl).2.2.1
  · exact absurd rfl (hrest _ rfl).2.2.2
  · rfl

theorem isDigit_digitChar {d : Nat} (hd : d < 10) : isDigit (Nat.digitChar d) = true := by
  interval_cases d <;> rfl

/-- Written digits are digits, and the first is no zero unless it is the only one. -/
theorem toDigits_spec (m : Nat) :
    (∀ c ∈ Nat.toDigits 10 m, isDigit c = true) ∧ (0 < m → (Nat.toDigits 10 m).head? ≠ some '0') := by
  induction m using Nat.strongRecOn with
  | _ m ih =>
    rw [Nat.toDigits_eq_if (by decide)]
    by_cases hm : m < 10
    · rw [if_pos hm]
      refine ⟨by simpa using isDigit_digitChar hm, fun hpos => ?_⟩
      interval_cases m <;> decide
    · obtain ⟨hdigits, hhead⟩ := ih (m / 10) (by omega)
      rw [if_neg hm]
      refine ⟨fun c hc => ?_, fun _ => ?_⟩
      · rcases List.mem_append.mp hc with hc | hc
        · exact hdigits c hc
        · rw [List.mem_singleton.mp hc]
          exact isDigit_digitChar (by omega)
      · rw [List.head?_append_of_ne_nil _ Nat.toDigits_ne_nil]
        exact hhead (by omega)

/-- Digits are gathered to the number that they write, if it fits. -/
theorem gather_eq (significand : Nat) (digits : List Char) (h : Nat.ofDigitChars 10 digits significand ≤ 0xFFFFFFFFFFFFFFFF) :
    gather significand digits = (Nat.ofDigitChars 10 digits significand, 0) := by
  induction digits generalizing significand with
  | nil => rfl
  | cons d digits ih =>
    have hnext : significand * 10 + digitValue d = 10 * significand + (d.toNat - '0'.toNat) := by
      rw [Nat.mul_comm]
      rfl
    rw [Nat.ofDigitChars_cons] at h ⊢
    have hgrows : 10 * significand + (d.toNat - '0'.toNat) ≤
        Nat.ofDigitChars 10 digits (10 * significand + (d.toNat - '0'.toNat)) := by
      rw [Nat.ofDigitChars_eq_ofDigitChars_zero]
      exact Nat.le_trans (Nat.le_mul_of_pos_left _ (Nat.pow_pos (by decide))) (Nat.le_add_right _ _)
    rw [gather, hnext, if_pos (Nat.le_trans hgrows h), ih _ h]

/-- Written digits are read as the number of which they are. -/
theorem unsigned_toDigits (hrest : EndsNumber rest) (negative : Bool) {m : Nat} (hm : m ≤ 0xFFFFFFFFFFFFFFFF) :
    unsigned negative (Nat.toDigits 10 m ++ rest) = .ok (toWhole negative m, rest) := by
  obtain ⟨hdigits, hhead⟩ := toDigits_spec m
  have hgather : gather 0 (Nat.toDigits 10 m) = (m, 0) := by
    have h := Nat.ofDigitChars_ten_toDigits (n := m)
    rw [gather_eq 0 _ (by rw [h]; exact hm), h]
  have htake : (Nat.toDigits 10 m ++ rest).takeWhile isDigit = Nat.toDigits 10 m ∧
      (Nat.toDigits 10 m ++ rest).dropWhile isDigit = rest := by
    rw [List.takeWhile_append_of_pos hdigits, List.dropWhile_append_of_pos hdigits]
    cases rest with
    | nil => simp
    | cons c rest =>
      have hc : ¬isDigit c = true := by simp [(hrest c rfl).1]
      rw [List.takeWhile_cons_of_neg hc, List.dropWhile_cons_of_neg hc, List.append_nil]
      exact ⟨rfl, rfl⟩
  rcases Nat.eq_zero_or_pos m with rfl | hpos
  · rw [Nat.toDigits_zero, List.singleton_append]
    unfold unsigned
    cases rest with
    | nil => exact afterWhole_of_endsNumber hrest negative 0
    | cons c rest => exact (if_neg (by simp [(hrest c rfl).1])).trans (afterWhole_of_endsNumber hrest negative 0)
  · cases hd : Nat.toDigits 10 m with
    | nil => exact absurd hd Nat.toDigits_ne_nil
    | cons d digits =>
      have hzero : d ≠ '0' := fun h => hhead hpos (by rw [hd, h]; rfl)
      have hdigit := hdigits d (by rw [hd]; exact List.mem_cons_self)
      rw [hd, List.cons_append] at htake
      rw [hd] at hgather
      unfold unsigned
      rw [List.cons_append]
      split
      next heq => cases heq
      next heq => exact absurd (List.cons.inj heq).1 hzero
      next heq =>
        rw [← (List.cons.inj heq).1, if_pos hdigit, htake.1, htake.2, hgather]
        exact afterWhole_of_endsNumber hrest negative m

/-- A whole number of 64 bits is read as it was written. -/
theorem number_printed (hrest : EndsNumber rest) {i : Int} (hlow : -0x8000000000000000 ≤ i) (hhigh : i ≤ 0xFFFFFFFFFFFFFFFF) :
    number (printNumber (.int i) ++ rest) = .ok (.int i, rest) := by
  obtain ⟨hdigits, -⟩ := toDigits_spec i.natAbs
  by_cases hneg : i < 0
  · have hwhole : toWhole true i.natAbs = .int i := by
      rw [toWhole, if_pos rfl, if_neg (by omega)]
      congr 1
      omega
    rw [printNumber, if_pos hneg, List.cons_append, ← hwhole]
    exact unsigned_toDigits hrest true (by omega)
  · have hwhole : toWhole false i.natAbs = .int i := by
      rw [toWhole, if_neg (by decide)]
      congr 1
      omega
    rw [printNumber, if_neg hneg, ← hwhole]
    unfold number
    split
    next later heq =>
      have hminus : (Nat.toDigits 10 i.natAbs ++ rest).head? = some '-' := by rw [heq]; rfl
      rw [List.head?_append_of_ne_nil _ Nat.toDigits_ne_nil] at hminus
      exact absurd (hdigits _ (List.mem_of_mem_head? hminus)) (by decide)
    · exact unsigned_toDigits hrest false (by omega)

end Colloquy.Json
