import Colloquy.Proofs.Json.Slots

/-!
# Forms that are read

What a reader passes over is not looked at closely, so a text that it reads need not hold a value: a field that it does not know may be
nested deeper than any value, or hold a number out of range. So what a reader makes of a text is said of the text itself, as a form that
stands at its front (`Form`), and a reader reads just what has its form (`Reads`): no other text is read, and none that has the form is
refused. Forms are put together as readers are, from strings, `null`, arrays, and records of one field.
-/

namespace Colloquy.Json

variable {α β σ : Type}

/-- What may stand at the front of a text: what it means, and what comes after it. -/
abbrev Form (α : Type) := List Char → α → List Char → Prop

namespace Form

/-- A string. -/
def string : Form String := fun text s rest =>
  ∃ start, skipSpaces text = '"' :: start ∧ stringBody start = .ok (s, rest)

/-- Something, or `null`. -/
inductive OrNull (form : Form α) : Form (Option α) where
  | null {text rest : List Char} (h : skipSpaces text = "null".toList ++ rest) : OrNull form text none rest
  | some {text rest : List Char} {a : α} (h : form (skipSpaces text) a rest) : OrNull form text (some a) rest

/-- Items of an array, after its bracket or after an item. -/
inductive Items (item : Form α) : (first : Bool) → Form (List α) where
  | close {first : Bool} {text rest : List Char} (h : nextItem first text = .ok (false, rest)) : Items item first text [] rest
  | next {first : Bool} {text start after rest : List Char} {a : α} {as : List α} (h : nextItem first text = .ok (true, start))
      (ha : item start a after) (has : Items item false after as rest) : Items item first text (a :: as) rest

/-- An array. -/
def array (item : Form α) : Form (List α) := fun text as rest =>
  ∃ start, skipSpaces text = '[' :: start ∧ Items item true start as rest

/-- Fields of an object, after its brace or after a field: at most one has the name and is looked at, all others are passed over. -/
inductive Fields (name : String) (held : Form α) : (first : Bool) → Form (Option α) where
  | close {first : Bool} {text rest : List Char} (h : nextKey first text = .ok (false, rest)) : Fields name held first text none rest
  | pass {first : Bool} {text start afterKey start' after rest : List Char} {k : String} {o : Option α}
      (h : nextKey first text = .ok (true, start)) (hkey : stringBody start = .ok (k, afterKey)) (hcolon : colon afterKey = .ok start')
      (hname : k ≠ name) (hskip : skipValue start' = .ok after) (hmore : Fields name held false after o rest) :
      Fields name held first text o rest
  | take {first : Bool} {text start afterKey start' after rest : List Char} {a : α} (h : nextKey first text = .ok (true, start))
      (hkey : stringBody start = .ok (name, afterKey)) (hcolon : colon afterKey = .ok start') (ha : held start' a after)
      (hmore : Fields name held false after none rest) : Fields name held first text (some a) rest

/-- A record of one field: an object that may have it among others, or an array that may have it as its item. -/
inductive Sole (name : String) (held : Form α) : Form (Option α) where
  | object {text start rest : List Char} {o : Option α} (h : skipSpaces text = '{' :: start)
      (hfields : Fields name held true start o rest) : Sole name held text o rest
  | array {text rest : List Char} {o : Option α} (h : Form.array held text o.toList rest) : Sole name held text o rest

end Form

/-- A reader reads just what has a form, and that is at least one character. -/
structure Reads (reader : Reader α) (form : Form α) : Prop where
  iff : ∀ {text rest : List Char} {a : α}, reader text = .ok (a, rest) ↔ form text a rest
  length : ∀ {text rest : List Char} {a : α}, form text a rest → rest.length < text.length

variable {inner : Nat} {text rest start : List Char}

/-- The same form, said otherwise. -/
theorem Reads.congr {reader : Reader α} {form form' : Form α} (h : Reads reader form)
    (hsame : ∀ {text rest : List Char} {a : α}, form text a rest ↔ form' text a rest) : Reads reader form' where
  iff := h.iff.trans hsame
  length ha := h.length (hsame.mpr ha)

/-! ## Between the parts -/

theorem length_of_nextItem {first more : Bool} (h : nextItem first text = .ok (more, start)) : start.length ≤ text.length := by
  rcases nextItem_cases h with ⟨-, htext⟩ | ⟨-, -, rfl, -⟩ | ⟨-, -, later, htext, rfl⟩
  · exact Nat.le_of_lt (length_lt_of_skipSpaces htext)
  · exact length_skipSpaces_le text
  · exact (length_skipSpaces_le later).trans (Nat.le_of_lt (length_lt_of_skipSpaces htext))

theorem length_of_nextKey {first more : Bool} (h : nextKey first text = .ok (more, start)) : start.length < text.length := by
  rcases nextKey_cases h with ⟨-, htext⟩ | ⟨-, -, htext⟩ | ⟨-, -, later, htext, hkey⟩
  · exact length_lt_of_skipSpaces htext
  · exact length_lt_of_skipSpaces htext
  · exact (length_lt_of_skipSpaces hkey).trans (length_lt_of_skipSpaces htext)

/-- The value of a field comes later than the field. -/
theorem length_of_key {first : Bool} {k : String} {afterKey start' : List Char} (h : nextKey first text = .ok (true, start))
    (hkey : stringBody start = .ok (k, afterKey)) (hcolon : colon afterKey = .ok start') : start'.length < text.length := by
  have hkeyed := (skipString_of_stringBody hkey).2
  have hvalue := length_lt_of_skipSpaces (colon_eq_ok.mp hcolon)
  exact hvalue.trans (hkeyed.trans (length_of_nextKey h))

theorem nextItem_eq_end {first : Bool} : nextItem first text = .ok (false, rest) ↔ skipSpaces text = ']' :: rest := by
  constructor
  · intro h
    rcases nextItem_cases h with ⟨-, htext⟩ | ⟨h, -⟩ | ⟨h, -⟩
    · exact htext
    · cases h
    · cases h
  · intro h
    rw [nextItem, h]
    rfl

/-- An array whose items were all taken ends as one that has no further item. -/
theorem closeArray_eq_ok {first : Bool} : closeArray text = .ok rest ↔ nextItem first text = .ok (false, rest) := by
  rw [nextItem_eq_end]
  unfold closeArray
  split
  next htext => simp [htext]
  next htext => simp [htext]
  next later htext =>
    rw [htext]
    split <;> simp
  next hnil hclose hcomma =>
    constructor
    · exact nofun
    · exact fun htext => absurd htext (hclose rest)

section Lengths

variable {form : Form α} (hform : ∀ {text rest : List Char} {a : α}, form text a rest → rest.length < text.length)

include hform

theorem Form.length_of_array {as : List α} (h : form.array text as rest) : rest.length < text.length := by
  obtain ⟨start, htext, has⟩ := h
  refine Nat.lt_of_le_of_lt ?_ (length_lt_of_skipSpaces htext)
  clear htext
  generalize true = first at has
  induction has with
  | close hnext => exact length_of_nextItem hnext
  | next hnext ha _ ih => exact ih.trans ((Nat.le_of_lt (hform ha)).trans (length_of_nextItem hnext))

theorem Form.length_of_fields {name : String} {first : Bool} {o : Option α} (h : form.Fields name first text o rest) :
    rest.length < text.length := by
  induction h with
  | close hnext => exact length_of_nextKey hnext
  | pass hnext hkey hcolon _ hskip _ ih =>
    exact ih.trans (Nat.lt_of_le_of_lt (length_of_skipValue hskip) (length_of_key hnext hkey hcolon))
  | take hnext hkey hcolon ha _ ih =>
    exact ih.trans ((hform ha).trans (length_of_key hnext hkey hcolon))

end Lengths

/-! ## Readers and their forms -/

theorem reads_string : Reads string Form.string where
  iff := by
    intro text rest s
    unfold string stringAs Form.string
    split
    next start htext =>
      constructor
      · intro h
        obtain ⟨⟨t, later⟩, hbody, h⟩ := bind_eq_ok.mp h
        cases h
        exact ⟨start, htext, hbody⟩
      · rintro ⟨start', htext', hbody⟩
        cases htext.symm.trans htext'
        exact bind_eq_ok.mpr ⟨_, hbody, rfl⟩
    next hquote =>
      constructor
      · exact fun h => absurd h Record.wrongType_ne_ok
      · rintro ⟨start', htext', -⟩
        exact absurd htext' (hquote start')
  length := by
    rintro text rest s ⟨start, htext, hbody⟩
    exact (skipString_of_stringBody hbody).2.trans (length_lt_of_skipSpaces htext)

variable {reader : Reader α} {form : Form α}

/-- A reader of something that does not start as `null` does. -/
theorem Reads.orNull (h : Reads reader form) (hnull : ∀ {start rest : List Char} {a : α}, ¬form ('n' :: start) a rest) :
    Reads (optional reader) form.OrNull where
  iff := by
    intro text rest o
    unfold optional
    split
    next start htext =>
      constructor
      · intro hread
        obtain ⟨later, hletters, hread⟩ := bind_eq_ok.mp hread
        cases hread
        exact .null (by rw [htext, literal_eq_ok.mp hletters]; rfl)
      · rintro (hword | ha)
        · exact bind_eq_ok.mpr ⟨_, literal_eq_ok.mpr (List.cons.inj (htext.symm.trans hword)).2, rfl⟩
        · rw [htext] at ha
          exact absurd ha hnull
    next hstart =>
      constructor
      · intro hread
        obtain ⟨⟨a, later⟩, ha, hread⟩ := bind_eq_ok.mp hread
        cases hread
        exact .some (h.iff.mp ha)
      · rintro (hword | ha)
        · exact absurd hword (hstart _)
        · exact bind_eq_ok.mpr ⟨_, h.iff.mpr ha, rfl⟩
  length := by
    rintro text rest _ (hword | ha)
    · exact length_lt_of_literal hword (by decide)
    · exact (h.length ha).trans_le (length_skipSpaces_le text)

/-- The items of an array, by the reader of their form. -/
theorem Reads.items_iff (h : Reads reader form) {first : Bool} {as : List α} :
    Items reader first text as rest ↔ form.Items first text as rest := by
  constructor
  · intro has
    induction has with
    | close hnext => exact .close hnext
    | next hnext ha _ ih => exact .next hnext (h.iff.mp ha) ih
  · intro has
    induction has with
    | close hnext => exact .close hnext
    | next hnext ha _ ih => exact .next hnext (h.iff.mpr ha) ih

theorem Reads.array {item : Nat → Reader α} (h : Reads (item inner) form) : Reads (array item (inner + 1)) form.array where
  iff := by
    intro text rest as
    have htakes {text rest : List Char} {a : α} (ha : item inner text = .ok (a, rest)) : rest.length < text.length :=
      h.length (h.iff.mp ha)
    unfold Json.array Form.array
    split
    next start htext =>
      constructor
      · intro hread
        obtain ⟨as', hdone, has⟩ := items_of_itemsFrom hread
        cases hdone
        exact ⟨start, htext, h.items_iff.mp has⟩
      · rintro ⟨start', htext', has⟩
        cases htext.symm.trans htext'
        have hitems := h.items_iff.mpr has
        have hlength := hitems.length htakes
        exact itemsFrom_of_items hitems [] (by omega)
    next hbracket =>
      constructor
      · exact fun hread => absurd hread Record.wrongType_ne_ok
      · rintro ⟨start', htext', -⟩
        exact absurd htext' (hbracket start')
  length := Form.length_of_array h.length

/-! ## Records of one field -/

namespace Record

variable {r : Record σ α} {name : String} {get : σ → Option β} {set : σ → β → σ} {reader : Nat → Reader β} {held : Form β}
  (hr : r.fields = [.slot name get set reader]) (hget : ∀ s b, get (set s b) = some b) (h : Reads (reader inner) held)

include hr h

include hget in
/-- The fields that were read have their form, and none has the name if the slot was filled before. -/
theorem fields_of_fieldsFrom {steps : List Char} {first : Bool} {s s' : σ}
    (hread : r.fieldsFrom inner steps first s text = .ok (s', rest)) :
    ∃ o, held.Fields name first text o rest ∧ s' = o.elim s (set s) ∧ (get s ≠ none → o = none) := by
  induction steps generalizing first s text with
  | nil => cases hread
  | cons _ steps ih =>
    obtain ⟨⟨more, start⟩, hnext, hread⟩ := bind_eq_ok.mp hread
    dsimp only at hread
    split at hread
    next hmore =>
      rw [hmore] at hnext
      obtain ⟨⟨k, afterKey⟩, hkey, hread⟩ := bind_eq_ok.mp hread
      dsimp only at hread
      rw [find?_slot hr] at hread
      by_cases hname : k = name
      · rw [if_pos hname] at hread
        dsimp only at hread
        split at hread
        · cases hread
        next hunset =>
          have hnone : get s = none := by simpa [Field.slot] using hunset
          obtain ⟨start', hcolon, hread⟩ := bind_eq_ok.mp hread
          obtain ⟨⟨s'', after⟩, hfield, hread⟩ := bind_eq_ok.mp hread
          obtain ⟨⟨b, after'⟩, hb, hfield⟩ := bind_eq_ok.mp hfield
          cases hfield
          obtain ⟨o, hmore, rfl, hfilled⟩ := ih hread
          obtain rfl := hfilled (by rw [hget]; exact Option.some_ne_none b)
          subst hname
          exact ⟨some b, .take hnext hkey hcolon (h.iff.mp hb) hmore, rfl, fun hsome => absurd hnone hsome⟩
      · rw [if_neg hname] at hread
        obtain ⟨start', hcolon, hread⟩ := bind_eq_ok.mp hread
        obtain ⟨after, hskip, hread⟩ := bind_eq_ok.mp hread
        obtain ⟨o, hmore, hs', hfilled⟩ := ih hread
        exact ⟨o, .pass hnext hkey hcolon hname hskip hmore, hs', hfilled⟩
    next hmore =>
      rw [Bool.eq_false_iff.mpr hmore] at hnext
      cases hread
      exact ⟨none, .close hnext, rfl, fun _ => rfl⟩

/-- Fields of the form are read, if the slot is free for the one that has the name. -/
theorem fieldsFrom_of_fields {first : Bool} {o : Option β} (hfields : held.Fields name first text o rest) {s : σ}
    (hfree : o ≠ none → get s = none) {steps : List Char} (hsteps : text.length ≤ steps.length) :
    r.fieldsFrom inner steps first s text = .ok (o.elim s (set s), rest) := by
  induction hfields generalizing s steps with
  | close hnext =>
    have hshort := length_of_nextKey hnext
    obtain ⟨_, steps, rfl⟩ := List.exists_cons_of_length_pos (show 0 < steps.length by omega)
    exact bind_eq_ok.mpr ⟨_, hnext, rfl⟩
  | pass hnext hkey hcolon hname hskip _ ih =>
    have hshort := length_of_key hnext hkey hcolon
    have hskipped := length_of_skipValue hskip
    obtain ⟨_, steps, rfl⟩ := List.exists_cons_of_length_pos (show 0 < steps.length by omega)
    rw [List.length_cons] at hsteps
    refine bind_eq_ok.mpr ⟨_, hnext, bind_eq_ok.mpr ⟨_, hkey, ?_⟩⟩
    dsimp only
    rw [find?_slot hr, if_neg hname]
    exact bind_eq_ok.mpr ⟨_, hcolon, bind_eq_ok.mpr ⟨_, hskip, ih hfree (by omega)⟩⟩
  | take hnext hkey hcolon hb _ ih =>
    have hshort := length_of_key hnext hkey hcolon
    have htaken := h.length hb
    obtain ⟨_, steps, rfl⟩ := List.exists_cons_of_length_pos (show 0 < steps.length by omega)
    rw [List.length_cons] at hsteps
    have hunset : (Field.slot name get set reader).isSet s = false := by
      simp [Field.slot, hfree (Option.some_ne_none _)]
    refine bind_eq_ok.mpr ⟨_, hnext, bind_eq_ok.mpr ⟨_, hkey, ?_⟩⟩
    dsimp only
    rw [find?_slot hr, if_pos rfl]
    dsimp only
    rw [hunset]
    refine bind_eq_ok.mpr ⟨_, hcolon, bind_eq_ok.mpr ⟨_, bind_eq_ok.mpr ⟨_, h.iff.mpr hb, rfl⟩, ?_⟩⟩
    exact ih (fun hnone => absurd rfl hnone) (by omega)

omit hr in
/-- The one item of an array, or none. -/
theorem items_of_itemsFrom {s s' : σ} {ended : Bool} {after : List Char}
    (hread : Record.itemsFrom inner [.slot name get set reader] true s text = .ok ((s', ended), after))
    (hclose : (if ended then pure after else closeArray after) = .ok rest) :
    ∃ o : Option β, held.Items true text o.toList rest ∧ s' = o.elim s (set s) := by
  obtain ⟨⟨more, start⟩, hnext, hread⟩ := bind_eq_ok.mp hread
  dsimp only at hread
  split at hread
  next hmore =>
    rw [hmore] at hnext
    obtain ⟨⟨s'', later⟩, hfield, hread⟩ := bind_eq_ok.mp hread
    obtain ⟨⟨b, later'⟩, hb, hfield⟩ := bind_eq_ok.mp hfield
    cases hfield
    cases hread
    exact ⟨some b, .next hnext (h.iff.mp hb) (.close (closeArray_eq_ok.mp hclose)), rfl⟩
  next hmore =>
    rw [Bool.eq_false_iff.mpr hmore] at hnext
    cases hread
    cases hclose
    exact ⟨none, .close hnext, rfl⟩

omit hr in
theorem itemsFrom_of_items {o : Option β} (hitems : held.Items true text o.toList rest) (s : σ) :
    ∃ ended after, Record.itemsFrom inner [.slot name get set reader] true s text = .ok ((o.elim s (set s), ended), after) ∧
      (if ended then pure after else closeArray after) = .ok rest := by
  cases o with
  | none =>
    cases hitems with
    | close hnext => exact ⟨true, rest, bind_eq_ok.mpr ⟨_, hnext, rfl⟩, rfl⟩
  | some b =>
    cases hitems with
    | @next _ _ _ after _ _ _ hnext hb hend =>
      cases hend with
      | close hend =>
        have hfield : (Field.slot name get set reader).read inner s _ = .ok (set s b, after) := bind_eq_ok.mpr ⟨_, h.iff.mpr hb, rfl⟩
        exact ⟨false, after, bind_eq_ok.mpr ⟨_, hnext, bind_eq_ok.mpr ⟨_, hfield, rfl⟩⟩, closeArray_eq_ok.mpr hend⟩

variable {a : α}

theorem ofArray_eq_ok : r.ofArray inner text = .ok (a, rest) ↔
    ∃ o : Option β, held.Items true text o.toList rest ∧ r.finish (o.elim r.start (set r.start)) = .ok a := by
  unfold Record.ofArray
  rw [hr]
  constructor
  · intro hread
    obtain ⟨⟨⟨s, ended⟩, after⟩, hitems, hread⟩ := bind_eq_ok.mp hread
    have hfinish {later : List Char} (hclose : (if ended then pure after else closeArray after) = .ok later)
        (hfinished : r.finish s = .ok a) (hlater : later = rest) :
        ∃ o : Option β, held.Items true text o.toList rest ∧ r.finish (o.elim r.start (set r.start)) = .ok a := by
      obtain ⟨o, ho, rfl⟩ := items_of_itemsFrom h hitems hclose
      exact ⟨o, hlater ▸ ho, hfinished⟩
    dsimp only at hread
    split at hread
    next hended =>
      obtain ⟨later, hlater, hread⟩ := bind_eq_ok.mp hread
      split at hread
      next hfinished =>
        cases hread
        exact hfinish ((if_pos hended).trans hlater) hfinished rfl
      · cases hread
    next hended =>
      obtain ⟨later, hlater, hread⟩ := bind_eq_ok.mp hread
      split at hread
      next hfinished =>
        cases hread
        exact hfinish ((if_neg hended).trans hlater) hfinished rfl
      · cases hread
  · rintro ⟨o, ho, hfinished⟩
    obtain ⟨ended, after, hitems, hclose⟩ := itemsFrom_of_items h ho r.start
    refine bind_eq_ok.mpr ⟨_, hitems, ?_⟩
    dsimp only
    split
    next hended =>
      rw [if_pos hended] at hclose
      refine bind_eq_ok.mpr ⟨_, hclose, ?_⟩
      rw [hfinished]
    next hended =>
      rw [if_neg hended] at hclose
      refine bind_eq_ok.mpr ⟨_, hclose, ?_⟩
      rw [hfinished]

include hget in
theorem ofObject_eq_ok (hstart : get r.start = none) : r.ofObject inner text = .ok (a, rest) ↔
    ∃ o : Option β, held.Fields name true text o rest ∧ r.finish (o.elim r.start (set r.start)) = .ok a := by
  unfold Record.ofObject
  constructor
  · intro hread
    obtain ⟨⟨s, later⟩, hfields, hread⟩ := bind_eq_ok.mp hread
    dsimp only at hread
    split at hread
    next hfinished =>
      cases hread
      obtain ⟨o, ho, rfl, -⟩ := fields_of_fieldsFrom hr hget h hfields
      exact ⟨o, ho, hfinished⟩
    · cases hread
  · rintro ⟨o, ho, hfinished⟩
    refine bind_eq_ok.mpr ⟨_, fieldsFrom_of_fields hr h ho (fun _ => hstart) (Nat.le_refl _), ?_⟩
    dsimp only
    rw [hfinished]

end Record

/-- A record of one slot: its form, and what is made of the slot. -/
theorem Reads.record {r : Record σ α} {name : String} {get : σ → Option β} {set : σ → β → σ} {reader : Nat → Reader β} {held : Form β}
    (hr : r.fields = [.slot name get set reader]) (hget : ∀ s b, get (set s b) = some b) (hstart : get r.start = none)
    (h : Reads (reader inner) held) :
    Reads (r.read (inner + 1)) fun text a rest =>
      ∃ o : Option β, held.Sole name text o rest ∧ r.finish (o.elim r.start (set r.start)) = .ok a where
  iff := by
    intro text rest a
    unfold Record.read
    split
    next start htext =>
      rw [Record.ofArray_eq_ok hr h]
      constructor
      · rintro ⟨o, ho, hfinished⟩
        exact ⟨o, .array ⟨start, htext, ho⟩, hfinished⟩
      · rintro ⟨o, ⟨htext', -⟩ | ⟨start', htext', ho⟩, hfinished⟩
        · cases htext.symm.trans htext'
        · cases htext.symm.trans htext'
          exact ⟨o, ho, hfinished⟩
    next start htext =>
      rw [Record.ofObject_eq_ok hr hget h hstart]
      constructor
      · rintro ⟨o, ho, hfinished⟩
        exact ⟨o, .object htext ho, hfinished⟩
      · rintro ⟨o, ⟨htext', ho⟩ | ⟨start', htext', -⟩, hfinished⟩
        · cases htext.symm.trans htext'
          exact ⟨o, ho, hfinished⟩
        · cases htext.symm.trans htext'
    next hbracket hbrace =>
      constructor
      · exact fun hread => absurd hread Record.wrongType_ne_ok
      · rintro ⟨o, ⟨htext, -⟩ | ⟨start, htext, -⟩, -⟩
        · exact absurd htext (hbrace _)
        · exact absurd htext (hbracket _)
  length := by
    rintro text rest a ⟨o, ⟨htext, ho⟩ | hitems, -⟩
    · exact (Form.length_of_fields h.length ho).trans (length_lt_of_skipSpaces htext)
    · exact Form.length_of_array h.length hitems

/-- A record of one slot that must be filled. -/
theorem Reads.record_need {r : Record σ α} {name : String} {get : σ → Option α} {set : σ → α → σ} {reader : Nat → Reader α}
    {held : Form α} (hr : r.fields = [.slot name get set reader]) (hget : ∀ s b, get (set s b) = some b)
    (hstart : get r.start = none) (hfinish : ∀ s, r.finish s = need name (get s)) (h : Reads (reader inner) held) :
    Reads (r.read (inner + 1)) fun text a rest => held.Sole name text (some a) rest := by
  refine (Reads.record hr hget hstart h).congr fun {text rest a} => ⟨?_, fun ha => ⟨some a, ha, ?_⟩⟩
  · rintro ⟨o, ho, hmade⟩
    cases o with
    | none =>
      rw [hfinish, Option.elim_none, hstart] at hmade
      cases hmade
    | some b =>
      rw [hfinish, Option.elim_some, hget] at hmade
      cases hmade
      exact ho
  · rw [hfinish, Option.elim_some, hget]
    rfl

end Colloquy.Json
