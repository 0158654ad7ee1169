import Colloquy.Proofs.Json.Spelling

/-!
# Values that are passed over

To pass over a value is to end where reading it ends (`skipValue_of_value`), at any depth. The one that passes keeps only the open
brackets, and goes through all values inside in one loop, while the reader calls itself for each. So what is followed is the loop in
the middle of its way (`Continues`): with some brackets open, after a value or after a bracket, and with enough steps to go on.
-/

namespace Colloquy.Json

variable {text rest start after : List Char} {opened : List Bracket} {result : Except Fault (List Char)}

/-- The way on with some brackets open: closing brackets, and passing over more values. -/
def resume (afterValue : Bool) (opened : List Bracket) (closing steps text : List Char) : Except Fault (List Char) := do
  let (opened, text) ← skipToNext afterValue opened closing text
  if opened.isEmpty then .ok text else skipFrom steps opened text

/-- A result is that of the way on at a text, with steps for all of it. -/
def Continues (result : Except Fault (List Char)) (afterValue : Bool) (opened : List Bracket) (text : List Char) : Prop :=
  ∃ closing steps, text.length ≤ closing.length ∧ text.length ≤ steps.length ∧ result = resume afterValue opened closing steps text

/-- Where no bracket is open, the way ends. -/
theorem Continues.finished {afterValue : Bool} (h : Continues result afterValue [] text) : result = .ok text := by
  obtain ⟨closing, steps, -, -, rfl⟩ := h
  cases closing <;> rfl

variable {b : Bracket} {c : Char}

/-- What stands next where a bracket is open: a comma after a value, the end of the container, or its first value. -/
theorem Continues.step {afterValue : Bool} (h : Continues result afterValue (b :: opened) text) (htext : skipSpaces text = c :: rest) :
    ∃ closing steps, rest.length ≤ closing.length ∧ text.length ≤ steps.length ∧ result =
      if c = ',' ∧ afterValue = true then skipToValue b rest >>= skipFrom steps (b :: opened)
      else if c = ']' ∧ b = .array ∨ c = '}' ∧ b = .object then resume true opened closing steps rest
      else if afterValue then
        .error (.next (if b = .array then .expectedCommaOrBracket else .expectedCommaOrBrace) (c :: rest))
      else skipToValue b (c :: rest) >>= skipFrom steps (b :: opened) := by
  obtain ⟨closing, steps, hclosing, hsteps, rfl⟩ := h
  have hshort := length_lt_of_skipSpaces htext
  obtain ⟨_, closing, rfl⟩ := List.exists_cons_of_length_pos (show 0 < closing.length by omega)
  rw [List.length_cons] at hclosing
  refine ⟨closing, steps, by omega, hsteps, ?_⟩
  unfold resume
  rw [skipToNext.eq_def]
  dsimp only
  rw [htext]
  dsimp only
  split
  · cases skipToValue b rest <;> rfl
  split
  · rfl
  split
  · cases b <;> rfl
  · cases skipToValue b (c :: rest) <;> rfl

/-- A bracket is closed. -/
theorem Continues.close {afterValue : Bool} (h : Continues result afterValue (b :: opened) text) (htext : skipSpaces text = c :: rest)
    (hc : c = ']' ∧ b = .array ∨ c = '}' ∧ b = .object) : Continues result true opened rest := by
  have hcomma : ¬(c = ',' ∧ afterValue = true) := by
    rintro ⟨rfl, -⟩
    rcases hc with ⟨hc, -⟩ | ⟨hc, -⟩ <;> exact absurd hc (by decide)
  have hshort := length_lt_of_skipSpaces htext
  obtain ⟨closing, steps, hclosing, hsteps, rfl⟩ := h.step htext
  exact ⟨closing, steps, hclosing, by omega, by rw [if_neg hcomma, if_pos hc]⟩

/-- The first value of a container. -/
theorem Continues.first (h : Continues result false (b :: opened) text) (htext : skipSpaces text = c :: rest)
    (hc : ¬(c = ']' ∧ b = .array ∨ c = '}' ∧ b = .object)) (hstart : skipToValue b (c :: rest) = .ok start)
    (hshort : start.length ≤ text.length) : ∃ steps, start.length ≤ steps.length ∧ result = skipFrom steps (b :: opened) start := by
  obtain ⟨_, steps, -, hsteps, rfl⟩ := h.step htext
  refine ⟨steps, by omega, ?_⟩
  rw [if_neg (by simp), if_neg hc, if_neg (by simp), hstart]
  rfl

/-- The value after a comma. -/
theorem Continues.next (h : Continues result true (b :: opened) text) (htext : skipSpaces text = ',' :: rest)
    (hstart : skipToValue b rest = .ok start) (hshort : start.length ≤ text.length) :
    ∃ steps, start.length ≤ steps.length ∧ result = skipFrom steps (b :: opened) start := by
  obtain ⟨_, steps, -, hsteps, rfl⟩ := h.step htext
  refine ⟨steps, by omega, ?_⟩
  rw [if_pos ⟨rfl, rfl⟩, hstart]
  rfl

/-- A value without brackets is passed over. -/
theorem continues_scalar {steps : List Char} (htext : skipSpaces text = c :: after) (hscalar : skipScalar c after = .ok (some rest))
    (hshort : rest.length < text.length) (hsteps : text.length ≤ steps.length) :
    Continues (skipFrom steps opened text) true opened rest := by
  obtain ⟨_, steps, rfl⟩ := List.exists_cons_of_length_pos (show 0 < steps.length by omega)
  rw [List.length_cons] at hsteps
  refine ⟨steps, steps, by omega, by omega, ?_⟩
  rw [skipFrom, htext]
  dsimp only
  rw [hscalar]
  rfl

/-- The bracket of a container. -/
theorem continues_bracket {steps : List Char} (htext : skipSpaces text = c :: after) (hc : c = '[' ∧ b = .array ∨ c = '{' ∧ b = .object)
    (hsteps : text.length ≤ steps.length) : Continues (skipFrom steps opened text) false (b :: opened) after := by
  have hshort := length_lt_of_skipSpaces htext
  obtain ⟨_, steps, rfl⟩ := List.exists_cons_of_length_pos (show 0 < steps.length by omega)
  rw [List.length_cons] at hsteps
  refine ⟨steps, steps, by omega, by omega, ?_⟩
  rw [skipFrom, htext]
  rcases hc with ⟨rfl, rfl⟩ | ⟨rfl, rfl⟩ <;> rfl

/-! ## Values of any form -/

/-- Whatever a reader reads is passed over, with whatever brackets are open around it. -/
def IsPassed {α : Type} (reader : Reader α) : Prop :=
  ∀ {text rest : List Char} {v : α}, reader text = .ok (v, rest) → ∀ (opened : List Bracket) {steps : List Char},
    text.length ≤ steps.length → Continues (skipFrom steps opened text) true opened rest

variable {depth : Nat}

theorem Items.continues (hpassed : IsPassed (value depth)) {first : Bool} {vs : List Json} (h : Items (value depth) first text vs rest)
    (hresult : Continues result (!first) (.array :: opened) text) : Continues result true opened rest := by
  induction h with
  | close hnext =>
    rcases nextItem_cases hnext with ⟨-, htext⟩ | ⟨h, -⟩ | ⟨h, -⟩
    · exact hresult.close htext (.inl ⟨rfl, rfl⟩)
    · cases h
    · cases h
  | @next _ text start _ _ v _ hnext hv _ ih =>
    rcases nextItem_cases hnext with ⟨h, -⟩ | ⟨-, rfl, htext, hclose, hne⟩ | ⟨-, rfl, later, htext, hlater⟩
    · cases h
    · obtain ⟨c, after, rfl⟩ := List.exists_cons_of_ne_nil hne
      have hc : ¬(c = ']' ∧ Bracket.array = .array ∨ c = '}' ∧ Bracket.array = .object) := by
        rintro (⟨rfl, -⟩ | ⟨-, h⟩)
        · exact hclose rfl
        · cases h
      obtain ⟨steps, hsteps, rfl⟩ := hresult.first htext hc rfl (length_lt_of_skipSpaces htext)
      exact ih (hpassed hv _ hsteps)
    · obtain ⟨steps, hsteps, rfl⟩ := hresult.next htext rfl (Nat.le_of_lt (length_lt_of_skipSpaces htext))
      rw [← hlater, value_skipSpaces] at hv
      exact ih (hpassed hv _ hsteps)

theorem Fields.continues (hpassed : IsPassed (value depth)) {first : Bool} {fs : List (String × Json)}
    (h : Fields (value depth) first text fs rest) (hresult : Continues result (!first) (.object :: opened) text) :
    Continues result true opened rest := by
  induction h with
  | close hnext =>
    rcases nextKey_cases hnext with ⟨-, htext⟩ | ⟨h, -⟩ | ⟨h, -⟩
    · exact hresult.close htext (.inr ⟨rfl, rfl⟩)
    · cases h
    · cases h
  | @next _ text start afterKey start' after _ k v _ hnext hk hcolon hv _ ih =>
    obtain ⟨hskip, hkey⟩ := skipString_of_stringBody hk
    have hlength := length_lt_of_skipSpaces (colon_eq_ok.mp hcolon)
    -- over the key and the colon to the value
    have hto {later : List Char} (hlater : skipSpaces later = '"' :: start) : skipToValue .object later = .ok start' := by
      rw [skipToValue, hlater]
      exact bind_eq_ok.mpr ⟨_, hskip, hcolon⟩
    rcases nextKey_cases hnext with ⟨h, -⟩ | ⟨-, rfl, htext⟩ | ⟨-, rfl, later, htext, hlater⟩
    · cases h
    · have hstart := length_lt_of_skipSpaces htext
      obtain ⟨steps, hsteps, rfl⟩ := hresult.first htext (by decide) (hto (skipSpaces_cons (by decide) _)) (by omega)
      exact ih (hpassed hv _ hsteps)
    · have hstart := length_lt_of_skipSpaces htext
      have hquote := length_lt_of_skipSpaces hlater
      obtain ⟨steps, hsteps, rfl⟩ := hresult.next htext (hto hlater) (by omega)
      exact ih (hpassed hv _ hsteps)

theorem skipScalar_of_number {n : JsonNumber} (hc : c = '-' ∨ isDigit c) (hn : number (c :: after) = .ok (n, rest)) :
    skipScalar c after = .ok (some rest) := by
  have hskip := (skip_of_number hn).1
  rw [skipScalar, if_neg (startsNumber_ne hc (by decide)), if_neg (startsNumber_ne hc (by decide)),
    if_neg (startsNumber_ne hc (by decide))]
  by_cases hminus : c = '-'
  · rw [if_pos hminus] at hskip ⊢
    rw [hskip]
    rfl
  · rw [if_neg hminus] at hskip ⊢
    rw [if_pos (hc.resolve_left hminus), hskip]
    rfl

/-- Whatever is read as a value is passed over. -/
theorem isPassed_value (depth : Nat) : IsPassed (value depth) := by
  induction depth using Nat.strongRecOn with
  | _ depth ih =>
    intro text rest v h opened steps hsteps
    have hshort := length_of_value h
    cases spelled_of_value h with
    | null htext => exact continues_scalar htext rfl hshort hsteps
    | isTrue htext => exact continues_scalar htext rfl hshort hsteps
    | isFalse htext => exact continues_scalar htext rfl hshort hsteps
    | number htext hc hn => exact continues_scalar htext (skipScalar_of_number hc hn) hshort hsteps
    | string htext hs => exact continues_scalar htext (map_eq_ok.mpr ⟨_, (skipString_of_stringBody hs).1, rfl⟩) hshort hsteps
    | array htext hvs => exact hvs.continues (ih _ (Nat.lt_succ_self _)) (continues_bracket htext (.inl ⟨rfl, rfl⟩) hsteps)
    | object htext hfs => exact hfs.continues (ih _ (Nat.lt_succ_self _)) (continues_bracket htext (.inr ⟨rfl, rfl⟩) hsteps)

/-- To pass over a value is to end where reading it ends. -/
theorem skipValue_of_value {v : Json} (h : value depth text = .ok (v, rest)) : skipValue text = .ok rest :=
  (isPassed_value depth h [] (Nat.le_refl _)).finished

/-! ## What is left -/

theorem length_of_skipScalar (h : skipScalar c text = .ok (some rest)) : rest.length ≤ text.length + 1 := by
  have hliteral {letters : List Char} (h : (literal letters text).map some = .ok (some rest)) : rest.length ≤ text.length + 1 := by
    obtain ⟨_, hliteral, heq⟩ := map_eq_ok.mp h
    rw [← Option.some.inj heq, literal_eq_ok.mp hliteral, List.length_append]
    omega
  unfold skipScalar at h
  split at h
  · exact hliteral h
  split at h
  · exact hliteral h
  split at h
  · exact hliteral h
  split at h
  · obtain ⟨_, hnumber, heq⟩ := map_eq_ok.mp h
    cases heq
    exact Nat.le_succ_of_le (length_of_skipUnsigned hnumber)
  split at h
  · obtain ⟨_, hnumber, heq⟩ := map_eq_ok.mp h
    cases heq
    exact length_of_skipUnsigned hnumber
  split at h
  · obtain ⟨_, hstring, heq⟩ := map_eq_ok.mp h
    cases heq
    exact Nat.le_succ_of_le (length_of_skipString hstring)
  split at h <;> cases h

theorem length_of_skipToValue (h : skipToValue b text = .ok rest) : rest.length ≤ text.length := by
  unfold skipToValue at h
  split at h
  · cases h
    exact Nat.le_refl _
  · split at h
    · cases h
    next htext =>
      obtain ⟨_, hstring, h⟩ := bind_eq_ok.mp h
      have hquote := length_lt_of_skipSpaces htext
      have hkey := length_of_skipString hstring
      have hcolon := length_lt_of_skipSpaces (colon_eq_ok.mp h)
      omega
    · cases h

theorem length_of_skipToNext {afterValue : Bool} {opened' : List Bracket} {steps : List Char}
    (h : skipToNext afterValue opened steps text = .ok (opened', rest)) : rest.length ≤ text.length := by
  induction opened generalizing afterValue steps text with
  | nil =>
    cases steps <;> cases h <;> exact Nat.le_refl _
  | cons b outer ih =>
    obtain _ | ⟨_, steps⟩ := steps
    · cases h
    rw [skipToNext.eq_def] at h
    dsimp only at h
    split at h
    · cases h
    next c later htext =>
      have hshort := length_lt_of_skipSpaces htext
      split at h
      · obtain ⟨_, hvalue, h⟩ := bind_eq_ok.mp h
        cases h
        exact (length_of_skipToValue hvalue).trans (Nat.le_of_lt hshort)
      split at h
      · exact (ih h).trans (Nat.le_of_lt hshort)
      split at h
      · cases h
      · obtain ⟨_, hvalue, h⟩ := bind_eq_ok.mp h
        cases h
        exact (length_of_skipToValue hvalue).trans hshort

theorem length_of_skipFrom {steps : List Char} (h : skipFrom steps opened text = .ok rest) : rest.length ≤ text.length := by
  induction steps generalizing opened text with
  | nil => cases h
  | cons _ steps ih =>
    rw [skipFrom] at h
    split at h
    · cases h
    next c later htext =>
      have hshort := length_lt_of_skipSpaces htext
      have hlater {opened' : List Bracket} {text' : List Char} (hleft : text'.length ≤ text.length)
          (h : (if opened'.isEmpty then .ok text' else skipFrom steps opened' text') = Except.ok rest) : rest.length ≤ text.length := by
        split at h
        · cases h
          exact hleft
        · exact (ih h).trans hleft
      obtain ⟨scalar, hscalar, h⟩ := bind_eq_ok.mp h
      cases scalar with
      | some after =>
        obtain ⟨⟨opened', text'⟩, hnext, h⟩ := bind_eq_ok.mp h
        have hafter := length_of_skipScalar hscalar
        have hlength := length_of_skipToNext hnext
        exact hlater (by omega) h
      | none =>
        obtain ⟨⟨opened', text'⟩, hnext, h⟩ := bind_eq_ok.mp h
        exact hlater ((length_of_skipToNext hnext).trans (Nat.le_of_lt hshort)) h

/-- Passing over a value leaves no more than there was. -/
theorem length_of_skipValue (h : skipValue text = .ok rest) : rest.length ≤ text.length :=
  length_of_skipFrom h

end Colloquy.Json
