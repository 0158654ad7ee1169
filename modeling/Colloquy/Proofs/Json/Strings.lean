import Mathlib.Data.List.Basic
import Mathlib.Tactic.IntervalCases
import Colloquy.Json.Printer
import Colloquy.Json.StringReader

/-!
# Strings there and back

What is written between quotes is read as the text that was written (`stringBody_printed`), whatever the text is, and holds no
control character. To pass over a string is to end where reading it ends (`skipString_of_stringBody`), although a pair of escapes is
one character to the reader and two to the one that passes.
-/

namespace Colloquy.Json

theorem bind_eq_ok {ε α β : Type} {x : Except ε α} {f : α → Except ε β} {b : β} :
    x >>= f = .ok b ↔ ∃ a, x = .ok a ∧ f a = .ok b := by
  cases x <;> simp [bind, Except.bind]

theorem map_eq_ok {ε α β : Type} {x : Except ε α} {f : α → β} {b : β} : x.map f = .ok b ↔ ∃ a, x = .ok a ∧ f a = b := by
  cases x <;> simp [Except.map]

theorem mapError_eq_ok {ε ε' α : Type} {x : Except ε α} {f : ε → ε'} {a : α} : x.mapError f = .ok a ↔ x = .ok a := by
  cases x <;> simp [Except.mapError]

/-! ## Written and read -/

/-- The escape of a control character by its number. -/
theorem escape_control {n : Nat} (hn : n < 0x20) (rest : List Char) :
    ['u', '0', '0', Nat.digitChar (n / 16), Nat.digitChar (n % 16)].all (0x20 ≤ ·.toNat) = true ∧
      escape (['u', '0', '0', Nat.digitChar (n / 16), Nat.digitChar (n % 16)] ++ rest) = .ok (Char.ofNat n, rest) := by
  interval_cases n <;> exact ⟨by decide, rfl⟩

/-- A character is written as itself, or as a backslash and what is read as that character after one. -/
theorem escapeChar_cases (c : Char) :
    (escapeChar c = [c] ∧ c ≠ '"' ∧ c ≠ '\\' ∧ ¬c.toNat < 0x20) ∨
      ∃ letters, escapeChar c = '\\' :: letters ∧ letters.all (0x20 ≤ ·.toNat) = true ∧ ∀ rest, escape (letters ++ rest) = .ok (c, rest) := by
  have hc : Char.ofNat c.toNat = c := Char.ofNat_toNat c
  unfold escapeChar
  split
  · exact .inr ⟨_, rfl, by decide, fun _ => rfl⟩
  · exact .inr ⟨_, rfl, by decide, fun _ => rfl⟩
  · exact .inr ⟨_, rfl, by decide, fun _ => rfl⟩
  · exact .inr ⟨_, rfl, by decide, fun _ => rfl⟩
  · exact .inr ⟨_, rfl, by decide, fun _ => rfl⟩
  · exact .inr ⟨_, rfl, by decide, fun _ => rfl⟩
  · exact .inr ⟨_, rfl, by decide, fun _ => rfl⟩
  next hquote hback _ _ _ _ _ =>
    split
    next hcontrol =>
      refine .inr ⟨_, rfl, (escape_control hcontrol []).1, fun rest => ?_⟩
      have hescape := (escape_control hcontrol rest).2
      rwa [hc] at hescape
    next hplain => exact .inl ⟨rfl, hquote, hback, hplain⟩

theorem toNat_of_mem_escapeChar {c d : Char} (h : d ∈ escapeChar c) : 0x20 ≤ d.toNat := by
  rcases escapeChar_cases c with ⟨hc, -, -, hplain⟩ | ⟨letters, hc, hletters, -⟩
  · rw [hc, List.mem_singleton] at h
    rw [h]
    exact Nat.le_of_not_lt hplain
  · rw [hc, List.mem_cons] at h
    rcases h with rfl | h
    · decide
    · exact of_decide_eq_true (List.all_eq_true.mp hletters d h)

/-- A written string holds no control character. -/
theorem toNat_of_mem_printString {text : List Char} {d : Char} (h : d ∈ printString text) : 0x20 ≤ d.toNat := by
  rw [printString, List.cons_append, List.mem_cons, List.mem_append, List.mem_singleton, List.mem_flatMap] at h
  rcases h with rfl | ⟨c, -, hd⟩ | rfl
  · decide
  · exact toNat_of_mem_escapeChar hd
  · decide

/-- The characters that were written are read, up to the closing quote. -/
theorem stringFrom_printed (text rest : List Char) {steps : List Char} (done : List Char)
    (hsteps : (text.flatMap escapeChar).length < steps.length) :
    stringFrom steps done (text.flatMap escapeChar ++ '"' :: rest) = .ok (done.reverse ++ text, rest) := by
  induction text generalizing steps done with
  | nil =>
    obtain _ | ⟨_, steps⟩ := steps
    · simp at hsteps
    · simp [stringFrom]
  | cons c text ih =>
    obtain _ | ⟨_, steps⟩ := steps
    · simp at hsteps
    rw [List.flatMap_cons, List.length_append, List.length_cons] at hsteps
    have hmore (h : 0 < (escapeChar c).length) : (text.flatMap escapeChar).length < steps.length := by omega
    rcases escapeChar_cases c with ⟨hc, hquote, hback, hplain⟩ | ⟨letters, hc, -, hletters⟩
    · have hlater := ih (c :: done) (hmore (by simp [hc]))
      rw [List.flatMap_cons, hc, List.append_assoc, List.singleton_append, stringFrom, if_neg hquote, if_neg hback, if_neg hplain,
        hlater, List.reverse_cons, List.append_assoc, List.singleton_append]
    · have hlater := ih (c :: done) (hmore (by simp [hc]))
      rw [List.flatMap_cons, hc, List.append_assoc, List.cons_append, stringFrom, if_neg (by decide), if_pos rfl, hletters]
      refine hlater.trans ?_
      rw [List.reverse_cons, List.append_assoc, List.singleton_append]

/-- What is written after the opening quote is read as the text that was written. -/
theorem stringBody_printed (text rest : List Char) :
    stringBody (text.flatMap escapeChar ++ '"' :: rest) = .ok (String.ofList text, rest) := by
  rw [stringBody, stringFrom_printed text rest [] (by simp)]
  rfl

/-! ## Read and passed over -/

theorem length_of_hexEscape {text rest : List Char} {n : Nat} (h : hexEscape text = .ok (n, rest)) : rest.length < text.length := by
  unfold hexEscape at h
  split at h
  · cases h
  split at h
  · split at h
    · cases h
      simp only [List.length_cons]
      omega
    · cases h
  · cases h

theorem pairPart_eq_ok {c : Char} {text rest : List Char} (h : pairPart c text = .ok rest) : text = c :: rest := by
  unfold pairPart at h
  split at h
  · cases h
  · split at h
    next hc =>
      cases h
      rw [hc]
    · cases h

/-- A character of hexadecimal escapes is that of one, or of two in a row. -/
theorem hexChar_cases {text rest : List Char} {c : Char} (h : hexChar text = .ok (c, rest)) :
    (∃ n, hexEscape text = .ok (n, rest)) ∨
      ∃ n m more, hexEscape text = .ok (n, '\\' :: 'u' :: more) ∧ hexEscape more = .ok (m, rest) := by
  obtain ⟨⟨n, after⟩, hn, h⟩ := bind_eq_ok.mp h
  dsimp only at h
  split at h
  · cases h
  split at h
  · cases h
    exact .inl ⟨n, hn⟩
  obtain ⟨after', hback, h⟩ := bind_eq_ok.mp h
  obtain ⟨more, hu, h⟩ := bind_eq_ok.mp h
  obtain ⟨⟨m, last⟩, hm, h⟩ := bind_eq_ok.mp h
  dsimp only at h
  split at h
  · cases h
  obtain ⟨-, rfl⟩ := Prod.mk.inj (Except.ok.inj h)
  rw [pairPart_eq_ok hback, pairPart_eq_ok hu] at hn
  exact .inr ⟨n, m, more, hn, hm⟩

/-- What follows an escape that is read follows it when it is passed over, or a second escape has to be passed over too. -/
theorem skipEscape_cases {text rest : List Char} {c : Char} (h : escape text = .ok (c, rest)) :
    (skipEscape text = .ok rest ∧ rest.length < text.length) ∨
      ∃ more, skipEscape text = .ok ('\\' :: more) ∧ skipEscape more = .ok rest ∧ more.length + 1 < text.length ∧
        rest.length < more.length := by
  unfold escape at h
  split at h
  · cases h
  next a after =>
    split at h
    next d hd =>
      cases h
      refine .inl ⟨?_, Nat.lt_succ_self _⟩
      rw [skipEscape, hd]
      rfl
    next hd =>
      split at h
      next hu =>
        have hskip {b : List Char} {n : Nat} {r : List Char} (hb : hexEscape b = .ok (n, r)) : skipEscape ('u' :: b) = .ok r := by
          rw [skipEscape, if_neg (by decide), if_pos rfl, hb]
          rfl
        rw [hu]
        rcases hexChar_cases h with ⟨n, hn⟩ | ⟨n, m, more, hn, hm⟩
        · exact .inl ⟨hskip hn, Nat.lt_succ_of_lt (length_of_hexEscape hn)⟩
        · have hfirst := length_of_hexEscape hn
          have hsecond := length_of_hexEscape hm
          simp only [List.length_cons] at hfirst
          refine .inr ⟨_, hskip hn, hskip hm, ?_, ?_⟩ <;> simp only [List.length_cons] <;> omega
      · cases h

/-- To pass over a string is to end where reading it ends, and that takes something away. -/
theorem skipStringFrom_of_stringFrom {steps done text chars rest : List Char} (h : stringFrom steps done text = .ok (chars, rest))
    {counted : List Char} (hcounted : text.length ≤ counted.length) :
    skipStringFrom counted text = .ok rest ∧ rest.length < text.length := by
  induction steps generalizing done text counted with
  | nil => cases text <;> cases h
  | cons s steps ih =>
    obtain _ | ⟨c, after⟩ := text
    · cases h
    obtain _ | ⟨_, counted⟩ := counted
    · simp at hcounted
    simp only [List.length_cons, Nat.add_le_add_iff_right] at hcounted
    rw [stringFrom] at h
    rw [skipStringFrom]
    by_cases hquote : c = '"'
    · rw [if_pos hquote] at h ⊢
      cases h
      exact ⟨rfl, Nat.lt_succ_self _⟩
    rw [if_neg hquote] at h ⊢
    by_cases hback : c = '\\'
    · rw [if_pos hback] at h ⊢
      obtain ⟨⟨d, later⟩, hescape, h⟩ := bind_eq_ok.mp h
      rcases skipEscape_cases hescape with ⟨hskip, hshort⟩ | ⟨more, hfirst, hsecond, hlonger, hshort⟩
      · obtain ⟨hrest, hlength⟩ := @ih _ _ h counted (by omega)
        exact ⟨bind_eq_ok.mpr ⟨_, hskip, hrest⟩, by simp only [List.length_cons]; omega⟩
      · -- the second escape takes a step of its own
        obtain _ | ⟨_, counted⟩ := counted
        · simp only [List.length_nil] at hcounted
          omega
        simp only [List.length_cons] at hcounted
        obtain ⟨hrest, hlength⟩ := @ih _ _ h counted (by omega)
        refine ⟨bind_eq_ok.mpr ⟨_, hfirst, ?_⟩, by simp only [List.length_cons]; omega⟩
        rw [skipStringFrom, if_neg (by decide), if_pos rfl]
        exact bind_eq_ok.mpr ⟨_, hsecond, hrest⟩
    rw [if_neg hback] at h ⊢
    split at h
    · cases h
    next hplain =>
      obtain ⟨hrest, hlength⟩ := @ih _ _ h counted hcounted
      rw [if_neg hplain]
      exact ⟨hrest, by simp only [List.length_cons]; omega⟩

theorem skipString_of_stringBody {text rest : List Char} {s : String} (h : stringBody text = .ok (s, rest)) :
    skipString text = .ok rest ∧ rest.length < text.length := by
  obtain ⟨⟨chars, after⟩, hchars, h⟩ := bind_eq_ok.mp h
  cases h
  exact skipStringFrom_of_stringFrom hchars (Nat.le_refl _)

theorem length_of_skipEscape {text rest : List Char} (h : skipEscape text = .ok rest) : rest.length ≤ text.length := by
  unfold skipEscape at h
  split at h
  · cases h
  · split at h
    · cases h
      exact Nat.le_succ _
    · split at h
      · obtain ⟨_, hhex, rfl⟩ := map_eq_ok.mp h
        exact Nat.le_succ_of_le (Nat.le_of_lt (length_of_hexEscape hhex))
      · cases h

theorem length_of_skipStringFrom {steps text rest : List Char} (h : skipStringFrom steps text = .ok rest) :
    rest.length ≤ text.length := by
  induction steps generalizing text with
  | nil => cases text <;> cases h
  | cons _ steps ih =>
    obtain _ | ⟨c, after⟩ := text
    · cases h
    rw [skipStringFrom] at h
    split at h
    · cases h
      exact Nat.le_succ _
    split at h
    · obtain ⟨later, hescape, h⟩ := bind_eq_ok.mp h
      exact Nat.le_succ_of_le ((ih h).trans (length_of_skipEscape hescape))
    split at h
    · cases h
    · exact Nat.le_succ_of_le (ih h)

/-- Passing over a string leaves no more than there was. -/
theorem length_of_skipString {text rest : List Char} (h : skipString text = .ok rest) : rest.length ≤ text.length :=
  length_of_skipStringFrom h

end Colloquy.Json
