import Mathlib.Data.List.DropRight
import Colloquy.Json.ValueReader
import Colloquy.Proofs.Json.Numbers
import Colloquy.Proofs.Json.Strings

/-!
# What is read of a text

The readers count their steps, and look ahead over spaces. Here what they read is said without either: how the items of an array and
the fields of an object follow one another (`Items`, `Fields`), and the seven forms that a value has (`Spelled`). A text is read as a
value just if it is spelled so (`value_eq_ok`), and what is read of it is at least one character (`length_of_value`).
-/

namespace Colloquy.Json

variable {α : Type} {text rest start after : List Char}

/-! ## Between the parts -/

theorem length_skipSpaces_le (text : List Char) : (skipSpaces text).length ≤ text.length :=
  (List.dropWhile_suffix _).length_le

theorem skipSpaces_cons {c : Char} (hc : isSpace c = false) (rest : List Char) : skipSpaces (c :: rest) = c :: rest :=
  List.dropWhile_cons_of_neg (by simp [hc])

theorem skipSpaces_skipSpaces (text : List Char) : skipSpaces (skipSpaces text) = skipSpaces text :=
  List.dropWhile_idempotent isSpace text

theorem length_lt_of_skipSpaces {c : Char} (h : skipSpaces text = c :: rest) : rest.length < text.length := by
  have hle := length_skipSpaces_le text
  rw [h, List.length_cons] at hle
  exact hle

theorem literal_eq_ok {letters : List Char} : literal letters text = .ok rest ↔ text = letters ++ rest := by
  induction letters generalizing text with
  | nil => simp [literal]
  | cons a letters ih =>
    cases text with
    | nil => simp [literal]
    | cons c text =>
      by_cases hc : a = c
      · simp [literal, hc, ih]
      · simp [literal, hc, Ne.symm hc]

theorem colon_eq_ok : colon text = .ok rest ↔ skipSpaces text = ':' :: rest := by
  unfold colon
  split
  next h => simp [h]
  next h => simp [h]
  next start hnil hcolon =>
    constructor
    · exact nofun
    · intro h
      exact absurd h (hcolon rest)

theorem finish_eq_ok : finish text = .ok () ↔ skipSpaces text = [] := by
  unfold finish
  split
  next h => simp [h]
  next h => simpa using h

/-- A whole text is read if nothing but spaces is left. -/
theorem all_eq_ok {reader : Reader α} {a : α} :
    Reader.all reader text = .ok a ↔ ∃ rest, reader text = .ok (a, rest) ∧ skipSpaces rest = [] := by
  constructor
  · intro h
    obtain ⟨⟨b, rest⟩, hread, h⟩ := bind_eq_ok.mp h
    obtain ⟨_, hend, h⟩ := bind_eq_ok.mp h
    cases h
    exact ⟨rest, hread, finish_eq_ok.mp hend⟩
  · rintro ⟨rest, hread, hend⟩
    exact bind_eq_ok.mpr ⟨_, hread, bind_eq_ok.mpr ⟨(), finish_eq_ok.mpr hend, rfl⟩⟩

/-- An array goes on with an item, which is its first or follows a comma, or it ends. -/
theorem nextItem_cases {first more : Bool} (h : nextItem first text = .ok (more, start)) :
    (more = false ∧ skipSpaces text = ']' :: start) ∨
      (more = true ∧ first = true ∧ skipSpaces text = start ∧ start.head? ≠ some ']' ∧ start ≠ []) ∨
      (more = true ∧ first = false ∧ ∃ later, skipSpaces text = ',' :: later ∧ skipSpaces later = start) := by
  unfold nextItem at h
  split at h
  · cases h
  next heq =>
    cases h
    exact .inl ⟨rfl, heq⟩
  next c later hc heq =>
    split at h
    next hfirst =>
      cases h
      exact .inr (.inl ⟨rfl, hfirst, heq, fun hhead => hc (Option.some.inj hhead), nofun⟩)
    next hfirst =>
      split at h
      next hcomma =>
        split at h
        · cases h
        · cases h
        next hstart =>
          cases h
          exact .inr (.inr ⟨rfl, by simpa using hfirst, later, by rw [heq, hcomma], rfl⟩)
      · cases h

/-- An object goes on with a key, which is its first or follows a comma, or it ends. -/
theorem nextKey_cases {first more : Bool} (h : nextKey first text = .ok (more, start)) :
    (more = false ∧ skipSpaces text = '}' :: start) ∨
      (more = true ∧ first = true ∧ skipSpaces text = '"' :: start) ∨
      (more = true ∧ first = false ∧ ∃ later, skipSpaces text = ',' :: later ∧ skipSpaces later = '"' :: start) := by
  unfold nextKey at h
  split at h
  · cases h
  next heq =>
    cases h
    exact .inl ⟨rfl, heq⟩
  next c later hc heq =>
    split at h
    next hfirst =>
      split at h
      next hquote =>
        cases h
        exact .inr (.inl ⟨rfl, hfirst, by rw [heq, hquote]⟩)
      · cases h
    next hfirst =>
      split at h
      next hcomma =>
        split at h
        · cases h
        next hkey =>
          cases h
          exact .inr (.inr ⟨rfl, by simpa using hfirst, later, by rw [heq, hcomma], hkey⟩)
        · cases h
        · cases h
      · cases h

/-! ## One after the other -/

/-- The items of an array, up to its end. -/
inductive Items (item : Reader α) : (first : Bool) → List Char → List α → List Char → Prop where
  | close {first : Bool} {text rest : List Char} (h : nextItem first text = .ok (false, rest)) : Items item first text [] rest
  | next {first : Bool} {text start after rest : List Char} {v : α} {vs : List α} (h : nextItem first text = .ok (true, start))
      (hv : item start = .ok (v, after)) (hvs : Items item false after vs rest) : Items item first text (v :: vs) rest

/-- The fields of an object, up to its end. -/
inductive Fields (item : Reader Json) : (first : Bool) → List Char → List (String × Json) → List Char → Prop where
  | close {first : Bool} {text rest : List Char} (h : nextKey first text = .ok (false, rest)) : Fields item first text [] rest
  | next {first : Bool} {text start afterKey start' after rest : List Char} {k : String} {v : Json} {fs : List (String × Json)}
      (h : nextKey first text = .ok (true, start)) (hk : stringBody start = .ok (k, afterKey)) (hcolon : colon afterKey = .ok start')
      (hv : item start' = .ok (v, after)) (hfs : Fields item false after fs rest) : Fields item first text ((k, v) :: fs) rest

section Parts

variable {item : Reader α} {first : Bool} {vs : List α}

theorem items_of_itemsFrom {steps : List Char} {done all : List α} (h : itemsFrom item steps first done text = .ok (all, rest)) :
    ∃ vs, all = done.reverse ++ vs ∧ Items item first text vs rest := by
  induction steps generalizing first done text with
  | nil => cases h
  | cons _ steps ih =>
    obtain ⟨⟨more, start⟩, hnext, h⟩ := bind_eq_ok.mp h
    dsimp only at h
    split at h
    next hmore =>
      obtain ⟨⟨v, after⟩, hv, h⟩ := bind_eq_ok.mp h
      obtain ⟨vs, rfl, hvs⟩ := ih h
      rw [hmore] at hnext
      exact ⟨v :: vs, by simp, .next hnext hv hvs⟩
    next hmore =>
      cases h
      rw [Bool.eq_false_iff.mpr hmore] at hnext
      exact ⟨[], by simp, .close hnext⟩

theorem itemsFrom_of_items (h : Items item first text vs rest) {steps : List Char} (done : List α) (hsteps : vs.length < steps.length) :
    itemsFrom item steps first done text = .ok (done.reverse ++ vs, rest) := by
  induction h generalizing steps done with
  | close hnext =>
    obtain _ | ⟨_, steps⟩ := steps
    · exact absurd hsteps (Nat.not_lt_zero _)
    refine bind_eq_ok.mpr ⟨_, hnext, ?_⟩
    rw [List.append_nil]
    rfl
  | @next _ _ _ _ _ v vs hnext hv _ ih =>
    obtain _ | ⟨_, steps⟩ := steps
    · exact absurd hsteps (Nat.not_lt_zero _)
    refine bind_eq_ok.mpr ⟨_, hnext, bind_eq_ok.mpr ⟨_, hv, ?_⟩⟩
    dsimp only
    rw [ih (v :: done) (Nat.lt_of_succ_lt_succ hsteps), List.reverse_cons, List.append_assoc, List.singleton_append]

/-- Every item takes at least one character, and so does the end. -/
theorem Items.length (h : Items item first text vs rest)
    (hitem : ∀ {text rest : List Char} {v : α}, item text = .ok (v, rest) → rest.length < text.length) :
    vs.length + rest.length < text.length := by
  induction h with
  | close hnext =>
    rcases nextItem_cases hnext with ⟨-, h⟩ | ⟨h, -⟩ | ⟨h, -⟩
    · rw [List.length_nil, Nat.zero_add]
      exact length_lt_of_skipSpaces h
    · cases h
    · cases h
  | @next _ text _ _ _ _ _ hnext hv _ ih =>
    have hshort := hitem hv
    rw [List.length_cons]
    rcases nextItem_cases hnext with ⟨h, -⟩ | ⟨-, -, h, -⟩ | ⟨-, -, later, hcomma, h⟩
    · cases h
    · rw [← h] at hshort
      have hle := length_skipSpaces_le text
      omega
    · rw [← h] at hshort
      have hlt := length_lt_of_skipSpaces hcomma
      have hle := length_skipSpaces_le later
      omega

end Parts

section Fields

variable {item : Reader Json} {first : Bool} {fs : List (String × Json)}

theorem fields_of_fieldsFrom {steps : List Char} {done all : List (String × Json)}
    (h : fieldsFrom item steps first done text = .ok (all, rest)) :
    ∃ fs, all = done.reverse ++ fs ∧ Fields item first text fs rest := by
  induction steps generalizing first done text with
  | nil => cases h
  | cons _ steps ih =>
    obtain ⟨⟨more, start⟩, hnext, h⟩ := bind_eq_ok.mp h
    dsimp only at h
    split at h
    next hmore =>
      obtain ⟨⟨k, afterKey⟩, hk, h⟩ := bind_eq_ok.mp h
      obtain ⟨start', hcolon, h⟩ := bind_eq_ok.mp h
      obtain ⟨⟨v, after⟩, hv, h⟩ := bind_eq_ok.mp h
      obtain ⟨fs, rfl, hfs⟩ := ih h
      rw [hmore] at hnext
      exact ⟨(k, v) :: fs, by simp, .next hnext hk hcolon hv hfs⟩
    next hmore =>
      cases h
      rw [Bool.eq_false_iff.mpr hmore] at hnext
      exact ⟨[], by simp, .close hnext⟩

theorem fieldsFrom_of_fields (h : Fields item first text fs rest) {steps : List Char} (done : List (String × Json))
    (hsteps : fs.length < steps.length) : fieldsFrom item steps first done text = .ok (done.reverse ++ fs, rest) := by
  induction h generalizing steps done with
  | close hnext =>
    obtain _ | ⟨_, steps⟩ := steps
    · exact absurd hsteps (Nat.not_lt_zero _)
    refine bind_eq_ok.mpr ⟨_, hnext, ?_⟩
    rw [List.append_nil]
    rfl
  | @next _ _ _ _ _ _ _ k v fs hnext hk hcolon hv _ ih =>
    obtain _ | ⟨_, steps⟩ := steps
    · exact absurd hsteps (Nat.not_lt_zero _)
    refine bind_eq_ok.mpr ⟨_, hnext, bind_eq_ok.mpr ⟨_, hk, bind_eq_ok.mpr ⟨_, hcolon, bind_eq_ok.mpr ⟨_, hv, ?_⟩⟩⟩⟩
    dsimp only
    rw [ih ((k, v) :: done) (Nat.lt_of_succ_lt_succ hsteps), List.reverse_cons, List.append_assoc, List.singleton_append]

/-- Every field takes at least one character, and so does the end. -/
theorem Fields.length (h : Fields item first text fs rest)
    (hitem : ∀ {text rest : List Char} {v : Json}, item text = .ok (v, rest) → rest.length < text.length) :
    fs.length + rest.length < text.length := by
  induction h with
  | close hnext =>
    rcases nextKey_cases hnext with ⟨-, h⟩ | ⟨h, -⟩ | ⟨h, -⟩
    · rw [List.length_nil, Nat.zero_add]
      exact length_lt_of_skipSpaces h
    · cases h
    · cases h
  | next hnext hk hcolon hv _ ih =>
    have hvalue := hitem hv
    have hkey := (skipString_of_stringBody hk).2
    have hcolon := length_lt_of_skipSpaces (colon_eq_ok.mp hcolon)
    rw [List.length_cons]
    rcases nextKey_cases hnext with ⟨h, -⟩ | ⟨-, -, h⟩ | ⟨-, -, later, hcomma, h⟩
    · cases h
    · have hquote := length_lt_of_skipSpaces h
      omega
    · have hlt := length_lt_of_skipSpaces hcomma
      have hquote := length_lt_of_skipSpaces h
      omega

end Fields

/-! ## Values -/

/-- How a value is written at the front of a text. -/
inductive Spelled : (depth : Nat) → List Char → Json → List Char → Prop where
  | null {depth : Nat} {text rest : List Char} (h : skipSpaces text = "null".toList ++ rest) : Spelled depth text .null rest
  | isTrue {depth : Nat} {text rest : List Char} (h : skipSpaces text = "true".toList ++ rest) : Spelled depth text (.bool true) rest
  | isFalse {depth : Nat} {text rest : List Char} (h : skipSpaces text = "false".toList ++ rest) : Spelled depth text (.bool false) rest
  | number {depth : Nat} {text after rest : List Char} {c : Char} {n : JsonNumber} (h : skipSpaces text = c :: after)
      (hc : c = '-' ∨ isDigit c) (hn : number (c :: after) = .ok (n, rest)) : Spelled depth text (.num n) rest
  | string {depth : Nat} {text after rest : List Char} {s : String} (h : skipSpaces text = '"' :: after)
      (hs : stringBody after = .ok (s, rest)) : Spelled depth text (.str s) rest
  | array {depth : Nat} {text after rest : List Char} {vs : List Json} (h : skipSpaces text = '[' :: after)
      (hvs : Items (value depth) true after vs rest) : Spelled (depth + 1) text (.arr vs) rest
  | object {depth : Nat} {text after rest : List Char} {fs : List (String × Json)} (h : skipSpaces text = '{' :: after)
      (hfs : Fields (value depth) true after fs rest) : Spelled (depth + 1) text (.obj fs) rest

variable {depth : Nat} {v : Json}

theorem value_skipSpaces (text : List Char) : value depth (skipSpaces text) = value depth text := by
  unfold value
  rw [skipSpaces_skipSpaces]

theorem spelled_of_value (h : value depth text = .ok (v, rest)) : Spelled depth text v rest := by
  unfold value at h
  split at h
  · cases h
  next c after heq =>
  split at h
  next hc =>
    obtain ⟨later, hletters, h⟩ := bind_eq_ok.mp h
    cases h
    rw [hc, literal_eq_ok.mp hletters] at heq
    exact .null heq
  split at h
  next hc =>
    obtain ⟨later, hletters, h⟩ := bind_eq_ok.mp h
    cases h
    rw [hc, literal_eq_ok.mp hletters] at heq
    exact .isTrue heq
  split at h
  next hc =>
    obtain ⟨later, hletters, h⟩ := bind_eq_ok.mp h
    cases h
    rw [hc, literal_eq_ok.mp hletters] at heq
    exact .isFalse heq
  split at h
  next hc =>
    obtain ⟨⟨n, later⟩, hn, h⟩ := bind_eq_ok.mp h
    cases h
    exact .number heq hc hn
  split at h
  next hc =>
    obtain ⟨⟨s, later⟩, hs, h⟩ := bind_eq_ok.mp h
    cases h
    exact .string (hc ▸ heq) hs
  split at h
  next hc =>
    split at h
    · cases h
    next inner =>
      obtain ⟨⟨vs, later⟩, hvs, h⟩ := bind_eq_ok.mp h
      cases h
      obtain ⟨_, rfl, hitems⟩ := items_of_itemsFrom hvs
      exact .array (hc ▸ heq) hitems
  split at h
  next hc =>
    split at h
    · cases h
    next inner =>
      obtain ⟨⟨fs, later⟩, hfs, h⟩ := bind_eq_ok.mp h
      cases h
      obtain ⟨_, rfl, hfields⟩ := fields_of_fieldsFrom hfs
      exact .object (hc ▸ heq) hfields
  · cases h

theorem length_lt_of_literal {letters : List Char} (h : skipSpaces text = letters ++ rest) (hletters : letters ≠ []) :
    rest.length < text.length := by
  have hle := length_skipSpaces_le text
  have hpos := List.length_pos_of_ne_nil hletters
  rw [h, List.length_append] at hle
  omega

/-- A value takes at least one character if the values inside it do. -/
theorem Spelled.length (h : Spelled depth text v rest)
    (hinner : ∀ inner < depth, ∀ {text rest : List Char} {v : Json}, value inner text = .ok (v, rest) → rest.length < text.length) :
    rest.length < text.length := by
  cases h with
  | null h => exact length_lt_of_literal h (by decide)
  | isTrue h => exact length_lt_of_literal h (by decide)
  | isFalse h => exact length_lt_of_literal h (by decide)
  | number h _ hn =>
    have hshort := (skip_of_number hn).2
    have hle := length_skipSpaces_le text
    rw [h] at hle
    omega
  | string h hs =>
    have hshort := (skipString_of_stringBody hs).2
    have hlt := length_lt_of_skipSpaces h
    omega
  | array h hvs =>
    have hshort := hvs.length (hinner _ (Nat.lt_succ_self _))
    have hlt := length_lt_of_skipSpaces h
    omega
  | object h hfs =>
    have hshort := hfs.length (hinner _ (Nat.lt_succ_self _))
    have hlt := length_lt_of_skipSpaces h
    omega

/-- What is read of a value is at least one character. -/
theorem length_of_value (h : value depth text = .ok (v, rest)) : rest.length < text.length := by
  induction depth using Nat.strongRecOn generalizing text v rest with
  | _ depth ih => exact (spelled_of_value h).length fun inner hlt => ih inner hlt

/-- What starts a number starts no word, is no space, and ends no array. -/
theorem startsNumber_ne {c d : Char} (hc : c = '-' ∨ isDigit c) (hd : d ∈ ['n', 't', 'f', ' ', '\n', '\t', '\r', ']']) : c ≠ d := by
  rintro rfl
  have hcases : c = 'n' ∨ c = 't' ∨ c = 'f' ∨ c = ' ' ∨ c = '\n' ∨ c = '\t' ∨ c = '\r' ∨ c = ']' := by simpa using hd
  rcases hcases with rfl | rfl | rfl | rfl | rfl | rfl | rfl | rfl <;> exact absurd hc (by decide)

/-- A text is read as a value just if it is spelled so. -/
theorem value_eq_ok : value depth text = .ok (v, rest) ↔ Spelled depth text v rest := by
  refine ⟨spelled_of_value, fun h => ?_⟩
  unfold value
  cases h with
  | null h =>
    rw [h]
    exact bind_eq_ok.mpr ⟨rest, literal_eq_ok.mpr rfl, rfl⟩
  | isTrue h =>
    rw [h]
    exact bind_eq_ok.mpr ⟨rest, literal_eq_ok.mpr rfl, rfl⟩
  | isFalse h =>
    rw [h]
    exact bind_eq_ok.mpr ⟨rest, literal_eq_ok.mpr rfl, rfl⟩
  | @number _ _ after _ c n h hc hn =>
    rw [h]
    dsimp only
    rw [if_neg (startsNumber_ne hc (by decide)), if_neg (startsNumber_ne hc (by decide)), if_neg (startsNumber_ne hc (by decide)), if_pos hc]
    exact bind_eq_ok.mpr ⟨_, hn, rfl⟩
  | string h hs =>
    rw [h]
    exact bind_eq_ok.mpr ⟨_, hs, rfl⟩
  | array h hvs =>
    rw [h]
    refine bind_eq_ok.mpr ⟨_, itemsFrom_of_items hvs [] ?_, rfl⟩
    have hlength := hvs.length length_of_value
    omega
  | object h hfs =>
    rw [h]
    refine bind_eq_ok.mpr ⟨_, fieldsFrom_of_fields hfs [] ?_, rfl⟩
    have hlength := hfs.length length_of_value
    omega

end Colloquy.Json
