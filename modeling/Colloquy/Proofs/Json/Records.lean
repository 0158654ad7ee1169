import Mathlib.Data.List.Forall2
import Colloquy.Json.Record
import Colloquy.Proofs.Json.Passing

/-!
# Readers that follow the reader of values

A reader of a known shape never builds a value. Where a text is read as a value all the same, and the value has the shape, the reader
makes of the text what the value means, and ends at the same place (`Follows`). For records this is shown field by field
(`Record.Gathers`): fields that are known go to their slots, all others are passed over.
-/

namespace Colloquy.Json

variable {α β σ : Type} {depth inner : Nat} {text rest : List Char} {v : Json}

/-- What is read as a value with a meaning is read as that meaning. -/
def Follows (reader : Reader α) (meaning : Json → α → Prop) : Prop :=
  ∀ {depth : Nat} {text rest : List Char} {v : Json} {a : α}, value depth text = .ok (v, rest) → meaning v a →
    reader text = .ok (a, rest)

/-- A whole text. -/
theorem Follows.all {reader : Reader α} {meaning : Json → α → Prop} (h : Follows reader meaning) {a : α}
    (hv : Reader.all (value depth) text = .ok v) (ha : meaning v a) : Reader.all reader text = .ok a := by
  obtain ⟨⟨w, rest⟩, hvalue, hv⟩ := bind_eq_ok.mp hv
  obtain ⟨_, hend, hw⟩ := bind_eq_ok.mp hv
  cases hw
  exact bind_eq_ok.mpr ⟨_, h hvalue ha, bind_eq_ok.mpr ⟨_, hend, rfl⟩⟩

/-- A string that a rule accepts. -/
theorem follows_stringAs (expected : String) (accept : String → Except Cause α) :
    Follows (stringAs expected accept) fun v a => ∃ s, v = .str s ∧ accept s = .ok a := by
  rintro depth text rest _ a h ⟨s, rfl, ha⟩
  cases value_eq_ok.mp h with
  | string htext hs =>
    rw [stringAs, htext]
    refine bind_eq_ok.mpr ⟨_, hs, ?_⟩
    dsimp only
    rw [ha]

/-- A string. -/
theorem follows_string : Follows string fun v s => v = .str s := by
  rintro depth text rest _ s h rfl
  exact follows_stringAs _ _ h ⟨s, rfl, rfl⟩

/-- A whole number within the limit. -/
theorem follows_natUpTo (expected : String) (limit : Nat) : Follows (natUpTo expected limit) fun v n => v = .nat n ∧ n ≤ limit := by
  rintro depth text rest _ n h ⟨rfl, hn⟩
  cases value_eq_ok.mp h with
  | number htext hc hnumber =>
    have hlimit : (0 : Int) ≤ n ∧ (n : Int) ≤ limit := ⟨Int.natCast_nonneg n, Int.ofNat_le.mpr hn⟩
    rw [natUpTo, htext]
    dsimp only
    rw [if_pos hc]
    refine bind_eq_ok.mpr ⟨_, hnumber, ?_⟩
    dsimp only
    rw [if_pos hlimit]
    rfl

/-- One of several names, as a string. -/
theorem follows_choice (names : List (String × α)) (depth : Nat) :
    Follows (choice names depth) fun v a => ∃ s, v = .str s ∧ names.lookup s = some a := by
  rintro depth' text rest _ a h ⟨s, rfl, ha⟩
  cases value_eq_ok.mp h with
  | string htext hs =>
    rw [choice, htext]
    refine bind_eq_ok.mpr ⟨_, hs, ?_⟩
    dsimp only
    rw [ha]

/-- What starts with its letter is `null`. -/
theorem Spelled.eq_null {later : List Char} (h : Spelled depth text v rest) (htext : skipSpaces text = 'n' :: later) : v = .null := by
  cases h with
  | null => rfl
  | isTrue h => exact absurd (List.cons.inj (htext.symm.trans h)).1 (by decide)
  | isFalse h => exact absurd (List.cons.inj (htext.symm.trans h)).1 (by decide)
  | number h hc => exact absurd (List.cons.inj (htext.symm.trans h)).1.symm (startsNumber_ne hc (by decide))
  | string h => exact absurd (List.cons.inj (htext.symm.trans h)).1 (by decide)
  | array h => exact absurd (List.cons.inj (htext.symm.trans h)).1 (by decide)
  | object h => exact absurd (List.cons.inj (htext.symm.trans h)).1 (by decide)

/-- A value that may be `null`, if `null` has no meaning to the reader itself. -/
theorem Follows.optional {reader : Reader α} {meaning : Json → α → Prop} (h : Follows reader meaning)
    (hnull : ∀ a, ¬meaning .null a) :
    Follows (optional reader) fun v a => v = .null ∧ a = none ∨ ∃ b, meaning v b ∧ a = some b := by
  rintro depth text rest v a hv (⟨rfl, rfl⟩ | ⟨b, hb, rfl⟩)
  · cases value_eq_ok.mp hv with
    | null htext =>
      rw [Json.optional, htext]
      exact bind_eq_ok.mpr ⟨_, literal_eq_ok.mpr rfl, rfl⟩
  · unfold Json.optional
    split
    next later htext =>
      rw [(value_eq_ok.mp hv).eq_null htext] at hb
      exact absurd hb (hnull b)
    next =>
      rw [← value_skipSpaces] at hv
      exact bind_eq_ok.mpr ⟨_, h hv hb, rfl⟩

/-- The items of an array, each by the reader that follows. -/
theorem Items.follows {item : Reader α} {meaning : Json → α → Prop} (h : Follows item meaning) {first : Bool} {vs : List Json}
    {as : List α} (hvs : Items (value depth) first text vs rest) (has : List.Forall₂ meaning vs as) : Items item first text as rest := by
  induction hvs generalizing as with
  | close hnext =>
    cases has
    exact .close hnext
  | next hnext hv _ ih =>
    obtain _ | ⟨ha, has⟩ := has
    exact .next hnext (h hv ha) (ih has)

/-- An array whose items mean something each. -/
theorem Follows.array {item : Nat → Reader α} {meaning : Json → α → Prop} (h : Follows (item inner) meaning) :
    Follows (array item (inner + 1)) fun v as => ∃ vs, v = .arr vs ∧ List.Forall₂ meaning vs as := by
  rintro depth text rest _ as hv ⟨vs, rfl, has⟩
  cases value_eq_ok.mp hv with
  | array htext hvs =>
    have hlength := hvs.length length_of_value
    rw [Json.array, htext]
    refine itemsFrom_of_items (hvs.follows h has) [] ?_
    rw [← has.length_eq]
    omega

/-- What an object holds under a name, where a text is looked for: nothing or `null`, or the text. -/
inductive HoldsText (name : String) : Json → Option String → Prop where
  | absent {fs : List (String × Json)} (h : fs.filter (·.1 = name) = []) : HoldsText name (.obj fs) none
  | null {fs : List (String × Json)} (h : fs.filter (·.1 = name) = [(name, .null)]) : HoldsText name (.obj fs) none
  | text {fs : List (String × Json)} {s : String} (h : fs.filter (·.1 = name) = [(name, .str s)]) : HoldsText name (.obj fs) (some s)

/-! ## Records -/

namespace Record

variable {r : Record σ α}

/-- The fields of an object, one after the other, change the slots of a record; those that it does not know are passed over. -/
inductive Gathers (r : Record σ α) (depth : Nat) : σ → List (String × Json) → σ → Prop where
  | nil {s : σ} : Gathers r depth s [] s
  | pass {s s' : σ} {k : String} {v : Json} {fs : List (String × Json)} (h : r.fields.find? (·.name == k) = none)
      (hfs : Gathers r depth s fs s') : Gathers r depth s ((k, v) :: fs) s'
  | take {s s' s'' : σ} {f : Field σ} {k : String} {v : Json} {fs : List (String × Json)} (h : r.fields.find? (·.name == k) = some f)
      (hset : f.isSet s = false) (hread : Follows (f.read depth s) fun w t => w = v ∧ t = s') (hfs : Gathers r depth s' fs s'') :
      Gathers r depth s ((k, v) :: fs) s''

/-- The field of a slot, whose value means something to the reader of the slot. -/
theorem follows_slot {name : String} {get : σ → Option β} {set : σ → β → σ} (reader : Nat → Reader β) {meaning : Json → β → Prop}
    (hreader : Follows (reader inner) meaning) {b : β} (hb : meaning v b) (s : σ) :
    Follows ((Field.slot name get set reader).read inner s) fun w t => w = v ∧ t = set s b := by
  rintro depth text rest w t hw ⟨rfl, rfl⟩
  exact bind_eq_ok.mpr ⟨_, hreader hw hb, rfl⟩

/-- A field that is only written if there is something to write. -/
theorem gathers_optional {γ : Type} {f : Field σ} {k : String} {s s' t : σ} {o : Option γ} {write : γ → Json}
    {fs : List (String × Json)} (hfind : r.fields.find? (·.name == k) = some f) (hset : f.isSet s = false) (hnone : o = none → t = s)
    (hsome : ∀ x, o = some x → ∃ t', Follows (f.read inner s) (fun w t => w = write x ∧ t = t') ∧ t' = t)
    (hfs : r.Gathers inner t fs s') :
    r.Gathers inner s ((o.map fun x => (k, write x)).toList ++ fs) s' := by
  cases o with
  | none =>
    rw [hnone rfl] at hfs
    exact hfs
  | some x =>
    obtain ⟨_, hread, rfl⟩ := hsome x rfl
    exact .take hfind hset hread hfs

/-- The fields of an object are gathered from its text. -/
theorem fieldsFrom_of_gathers {first : Bool} {fs : List (String × Json)} {s s' : σ} (hfs : Fields (value depth) first text fs rest)
    (h : r.Gathers inner s fs s') {steps : List Char} (hsteps : fs.length < steps.length) :
    r.fieldsFrom inner steps first s text = .ok (s', rest) := by
  induction hfs generalizing s steps with
  | close hnext =>
    obtain _ | ⟨_, steps⟩ := steps
    · exact absurd hsteps (Nat.not_lt_zero _)
    cases h
    exact bind_eq_ok.mpr ⟨_, hnext, rfl⟩
  | next hnext hk hcolon hv _ ih =>
    obtain _ | ⟨_, steps⟩ := steps
    · exact absurd hsteps (Nat.not_lt_zero _)
    refine bind_eq_ok.mpr ⟨_, hnext, bind_eq_ok.mpr ⟨_, hk, ?_⟩⟩
    dsimp only
    cases h with
    | pass hfind hfs =>
      rw [hfind]
      exact bind_eq_ok.mpr ⟨_, hcolon, bind_eq_ok.mpr ⟨_, skipValue_of_value hv, ih hfs (Nat.lt_of_succ_lt_succ hsteps)⟩⟩
    | take hfind hset hread hfs =>
      rw [hfind]
      dsimp only
      rw [hset]
      exact bind_eq_ok.mpr ⟨_, hcolon, bind_eq_ok.mpr ⟨_, hread hv ⟨rfl, rfl⟩, ih hfs (Nat.lt_of_succ_lt_succ hsteps)⟩⟩

/-- A record, from an object. -/
theorem follows_read (r : Record σ α) (inner : Nat) :
    Follows (r.read (inner + 1)) fun v a => ∃ fs s, v = .obj fs ∧ r.Gathers inner r.start fs s ∧ r.finish s = .ok a := by
  rintro depth text rest _ a hv ⟨fs, s, rfl, hgathers, hfinish⟩
  cases value_eq_ok.mp hv with
  | object htext hfs =>
    have hlength := hfs.length length_of_value
    rw [read, htext]
    refine bind_eq_ok.mpr ⟨_, fieldsFrom_of_gathers hfs hgathers (by omega), ?_⟩
    dsimp only
    rw [hfinish]

/-- Fields of other names leave the slots as they are. -/
theorem gathers_absent {s : σ} {fs : List (String × Json)} (h : ∀ f ∈ fs, r.fields.find? (·.name == f.1) = none) :
    r.Gathers inner s fs s := by
  induction fs with
  | nil => exact .nil
  | cons f fs ih => exact .pass (h f List.mem_cons_self) (ih fun g hg => h g (List.mem_cons_of_mem _ hg))

section Slot

variable {name : String} {get : σ → Option β} {set : σ → β → σ} {reader : Nat → Reader β}

theorem find?_slot (hr : r.fields = [.slot name get set reader]) (k : String) :
    r.fields.find? (·.name == k) = if k = name then some (.slot name get set reader) else none := by
  rw [hr]
  by_cases hk : k = name
  · simp [Field.slot, hk]
  · simp [Field.slot, hk, Ne.symm hk]

/-- A record of one slot whose field does not occur. -/
theorem gathers_slot_absent (hr : r.fields = [.slot name get set reader]) {s : σ} {fs : List (String × Json)}
    (hfs : fs.filter (·.1 = name) = []) : r.Gathers inner s fs s :=
  gathers_absent fun f hf => (find?_slot hr f.1).trans (if_neg (by simpa using List.filter_eq_nil_iff.mp hfs f hf))

/-- A record of one slot whose field occurs once. -/
theorem gathers_slot (hr : r.fields = [.slot name get set reader]) {meaning : Json → β → Prop} (hreader : Follows (reader inner) meaning)
    {s : σ} (hget : get s = none) {b : β} (hb : meaning v b) {fs : List (String × Json)}
    (hfs : fs.filter (·.1 = name) = [(name, v)]) : r.Gathers inner s fs (set s b) := by
  induction fs with
  | nil => cases hfs
  | cons f fs ih =>
    obtain ⟨k, w⟩ := f
    by_cases hk : k = name
    · rw [List.filter_cons_of_pos (by simpa using hk)] at hfs
      obtain ⟨hf, hnone⟩ := List.cons.inj hfs
      cases hf
      exact .take ((find?_slot hr name).trans (if_pos rfl)) (by simp [Field.slot, hget]) (follows_slot reader hreader hb s)
        (gathers_slot_absent hr hnone)
    · rw [List.filter_cons_of_neg (by simpa using hk)] at hfs
      exact .pass ((find?_slot hr k).trans (if_neg hk)) (ih hfs)

end Slot

end Record

end Colloquy.Json
