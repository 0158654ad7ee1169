import Colloquy.Proofs.Json.Records

/-!
# The slots of a record

Fields come in any order, among others that the record does not know. What they do to one slot depends on those of its name alone
(`Record.Fills`), so that a record of several slots is gathered slot by slot. And what every field of a record leaves true of the slots
is true of those that the record is made of (`Record.exists_slots_of_read`), however it was written.
-/

namespace Colloquy.Json.Record

variable {α β σ : Type} {depth : Nat} {text rest : List Char}

/-- What the fields of one name do to their slot: there is none and the slot stays as it is, or there is one and the slot takes what it
means. -/
inductive Fills (name : String) (meaning : Json → β → Prop) (fs : List (String × Json)) : Option β → Option β → Prop where
  | stay {o : Option β} (h : fs.filter (·.1 = name) = []) : Fills name meaning fs o o
  | take {v : Json} {b : β} (h : fs.filter (·.1 = name) = [(name, v)]) (hb : meaning v b) : Fills name meaning fs none (some b)

namespace Fills

variable {name k : String} {meaning : Json → β → Prop} {v : Json} {fs : List (String × Json)} {o o' : Option β}

theorem eq_of_nil (h : Fills name meaning [] o o') : o = o' := by
  cases h with
  | stay => rfl
  | take h => cases h

/-- A field of another name does nothing to the slot. -/
theorem of_cons (h : Fills name meaning ((k, v) :: fs) o o') (hk : k ≠ name) : Fills name meaning fs o o' := by
  have hfilter : ((k, v) :: fs).filter (·.1 = name) = fs.filter (·.1 = name) := List.filter_cons_of_neg (by simpa using hk)
  cases h with
  | stay h => exact .stay (hfilter.symm.trans h)
  | take h hb => exact .take (hfilter.symm.trans h) hb

/-- Nor does one that stands before. -/
theorem cons (h : Fills name meaning fs o o') (hk : k ≠ name) : Fills name meaning ((k, v) :: fs) o o' := by
  have hfilter : ((k, v) :: fs).filter (·.1 = name) = fs.filter (·.1 = name) := List.filter_cons_of_neg (by simpa using hk)
  cases h with
  | stay h => exact .stay (hfilter.trans h)
  | take h hb => exact .take (hfilter.trans h) hb

/-- Where the slot is filled, the field of its name has come before. -/
theorem cons_self {b : β} (hb : meaning v b) (h : Fills name meaning fs (some b) o') : Fills name meaning ((name, v) :: fs) none o' := by
  have hfilter : ((name, v) :: fs).filter (·.1 = name) = (name, v) :: fs.filter (·.1 = name) := List.filter_cons_of_pos (by simp)
  cases h with
  | stay h => exact .take (hfilter.trans (by rw [h])) hb

/-- The field of its name is the only one. -/
theorem exists_of_cons (h : Fills name meaning ((name, v) :: fs) o o') :
    ∃ b, meaning v b ∧ o = none ∧ o' = some b ∧ Fills name meaning fs (some b) o' := by
  have hfilter : ((name, v) :: fs).filter (·.1 = name) = (name, v) :: fs.filter (·.1 = name) := List.filter_cons_of_pos (by simp)
  cases h with
  | stay h => cases hfilter.symm.trans h
  | take h hb =>
    obtain ⟨hv, hnone⟩ := List.cons.inj (hfilter.symm.trans h)
    cases hv
    exact ⟨_, hb, rfl, rfl, .stay hnone⟩

/-- What is put into the slot is settled by what the fields mean. -/
theorem unique (hmeaning : ∀ {v : Json} {b b' : β}, meaning v b → meaning v b' → b = b') {o'' : Option β} (h : Fills name meaning fs o o')
    (h' : Fills name meaning fs o o'') : o' = o'' := by
  cases h with
  | stay hnone =>
    cases h' with
    | stay => rfl
    | take honce => cases hnone.symm.trans honce
  | take honce hb =>
    cases h' with
    | stay hnone => cases hnone.symm.trans honce
    | take honce' hb' =>
      cases honce.symm.trans honce'
      rw [hmeaning hb hb']

/-- A text that may be missing, or `null`. -/
theorem of_holdsText {s : Option String} (h : HoldsText name (.obj fs) s) :
    ∃ o, Fills name (fun v o => v = .null ∧ o = none ∨ ∃ s, v = .str s ∧ o = some s) fs none o ∧ o.join = s := by
  cases h with
  | absent h => exact ⟨none, .stay h, rfl⟩
  | null h => exact ⟨_, .take h (.inl ⟨rfl, rfl⟩), rfl⟩
  | text h => exact ⟨_, .take h (.inr ⟨_, rfl, rfl⟩), rfl⟩

end Fills

/-! ## What stays true -/

theorem wrongType_ne_ok {expected : String} {a : α} : wrongType expected text ≠ .ok (a, rest) := by
  intro h
  -- whatever is there is read on only to say what was found
  unfold wrongType at h
  dsimp only at h
  repeat' split at h
  all_goals first
    | cases h
    | obtain ⟨_, -, h⟩ := bind_eq_ok.mp h
      cases h

section Kept

variable {r : Record σ α} {P : σ → Prop}

/-- What the fields of a record leave true of the slots. -/
def Keeps (fs : List (Field σ)) (P : σ → Prop) : Prop :=
  ∀ f ∈ fs, ∀ {depth : Nat} {s s' : σ} {text rest : List Char}, f.read depth s text = .ok (s', rest) → P s → P s'

theorem Keeps.fieldsFrom (h : Keeps r.fields P) {steps : List Char} {first : Bool} {s s' : σ} (hs : P s)
    (hread : r.fieldsFrom depth steps first s text = .ok (s', rest)) : P s' := by
  induction steps generalizing first s text with
  | nil => cases hread
  | cons c steps ih =>
    obtain ⟨⟨more, start⟩, -, hread⟩ := bind_eq_ok.mp hread
    dsimp only at hread
    split at hread
    · obtain ⟨⟨key, later⟩, -, hread⟩ := bind_eq_ok.mp hread
      dsimp only at hread
      split at hread
      · obtain ⟨_, -, hread⟩ := bind_eq_ok.mp hread
        obtain ⟨_, -, hread⟩ := bind_eq_ok.mp hread
        exact ih hs hread
      next f hfind =>
        split at hread
        · cases hread
        · obtain ⟨_, -, hread⟩ := bind_eq_ok.mp hread
          obtain ⟨⟨s'', later'⟩, hfield, hread⟩ := bind_eq_ok.mp hread
          exact ih (h f (List.mem_of_find?_eq_some hfind) hfield hs) hread
    · cases hread
      exact hs

theorem Keeps.itemsFrom {fs : List (Field σ)} (h : Keeps fs P) {first ended : Bool} {s s' : σ} (hs : P s)
    (hread : Record.itemsFrom depth fs first s text = .ok ((s', ended), rest)) : P s' := by
  induction fs generalizing first s text with
  | nil =>
    cases hread
    exact hs
  | cons f fs ih =>
    obtain ⟨⟨more, start⟩, -, hread⟩ := bind_eq_ok.mp hread
    dsimp only at hread
    split at hread
    · obtain ⟨⟨s'', later⟩, hfield, hread⟩ := bind_eq_ok.mp hread
      exact ih (fun g hg => h g (List.mem_cons_of_mem _ hg)) (h f List.mem_cons_self hfield hs) hread
    · cases hread
      exact hs

/-- A record that was read is made of slots of which what every field keeps is true. -/
theorem exists_slots_of_read (h : Keeps r.fields P) (hstart : P r.start) {a : α} (hread : r.read depth text = .ok (a, rest)) :
    ∃ s, P s ∧ r.finish s = .ok a := by
  unfold Record.read at hread
  split at hread
  · split at hread
    · cases hread
    · obtain ⟨⟨⟨s, ended⟩, later⟩, hitems, hread⟩ := bind_eq_ok.mp hread
      refine ⟨s, h.itemsFrom hstart hitems, ?_⟩
      dsimp only at hread
      split at hread
      · obtain ⟨_, -, hread⟩ := bind_eq_ok.mp hread
        split at hread
        next hfinish =>
          cases hread
          exact hfinish
        · cases hread
      · obtain ⟨_, -, hread⟩ := bind_eq_ok.mp hread
        split at hread
        next hfinish =>
          cases hread
          exact hfinish
        · cases hread
  · split at hread
    · cases hread
    · obtain ⟨⟨s, later⟩, hfields, hread⟩ := bind_eq_ok.mp hread
      dsimp only at hread
      split at hread
      next hfinish =>
        cases hread
        exact ⟨s, h.fieldsFrom hstart hfields, hfinish⟩
      · cases hread
  · exact absurd hread wrongType_ne_ok

/-- A field keeps what any value that is read puts into its slot. -/
theorem keeps_slot {name : String} {get : σ → Option β} {set : σ → β → σ} {reader : Nat → Reader β} {s s' : σ}
    (hread : (Field.slot name get set reader).read depth s text = .ok (s', rest)) (hs : P s)
    (h : ∀ {rest : List Char} {b : β}, reader depth text = .ok (b, rest) → P s → P (set s b)) : P s' := by
  obtain ⟨⟨b, later⟩, hb, hread⟩ := bind_eq_ok.mp hread
  cases hread
  exact h hb hs

end Kept

end Colloquy.Json.Record
