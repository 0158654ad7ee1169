import Mathlib.Data.String.Basic
import Colloquy.Proofs.Json.Printing
import Colloquy.Proofs.Json.Records

/-!
# Values of any shape

Where a record holds a value of any shape, the reader of values follows itself, if the value is nested no deeper than is left
(`follows_value`). Such a value is kept in canonical form: every object has its keys in order, each once (`IsCanonical`). That is what
`canonical` makes of any value (`isCanonical_canonical`), and it leaves such a value as it is (`canonical_eq_self`).
-/

namespace Colloquy.Json

variable {depth inner : Nat} {text rest : List Char} {v : Json}

/-! ## Read at another depth -/

/-- The fields of an object, by another reader that reads their values alike. -/
theorem Fields.mono {item item' : Reader Json} {first : Bool} {fs : List (String × Json)} (h : Fields item first text fs rest)
    (hitem : ∀ f ∈ fs, ∀ {start after : List Char}, item start = .ok (f.2, after) → item' start = .ok (f.2, after)) :
    Fields item' first text fs rest := by
  induction h with
  | close hnext => exact .close hnext
  | next hnext hk hcolon hv _ ih =>
    exact .next hnext hk hcolon (hitem _ List.mem_cons_self hv) (ih fun f hf => hitem f (List.mem_cons_of_mem _ hf))

/-- A value is read at any depth that it is not nested deeper than. -/
theorem follows_value (inner : Nat) : Follows (value inner) fun v w => w = v ∧ Exact inner v := by
  induction inner with
  | zero =>
    rintro depth text rest v _ hv ⟨rfl, hexact⟩
    refine value_eq_ok.mpr ?_
    cases value_eq_ok.mp hv with
    | null htext => exact .null htext
    | isTrue htext => exact .isTrue htext
    | isFalse htext => exact .isFalse htext
    | number htext hc hnumber => exact .number htext hc hnumber
    | string htext hs => exact .string htext hs
    | array => cases hexact
    | object => cases hexact
  | succ inner ih =>
    rintro depth text rest v _ hv ⟨rfl, hexact⟩
    refine value_eq_ok.mpr ?_
    cases value_eq_ok.mp hv with
    | null htext => exact .null htext
    | isTrue htext => exact .isTrue htext
    | isFalse htext => exact .isFalse htext
    | number htext hc hnumber => exact .number htext hc hnumber
    | string htext hs => exact .string htext hs
    | array htext hvs =>
      obtain _ | _ | _ | _ | h := hexact
      exact .array htext (hvs.follows ih (List.forall₂_same.mpr fun w hw => ⟨rfl, h w hw⟩))
    | object htext hfs =>
      obtain _ | _ | _ | _ | _ | h := hexact
      exact .object htext (hfs.mono fun f hf _ _ hvalue => ih hvalue ⟨rfl, h f hf⟩)

/-! ## Canonical form -/

/-- Every object has its keys in order, each once. -/
inductive IsCanonical : Json → Prop where
  | null : IsCanonical .null
  | bool (b : Bool) : IsCanonical (.bool b)
  | num (n : JsonNumber) : IsCanonical (.num n)
  | str (s : String) : IsCanonical (.str s)
  | arr {vs : List Json} (h : ∀ v ∈ vs, IsCanonical v) : IsCanonical (.arr vs)
  | obj {fs : List (String × Json)} (hkeys : fs.Pairwise fun f g => f.1 < g.1) (h : ∀ f ∈ fs, IsCanonical f.2) : IsCanonical (.obj fs)

theorem mem_insertField {k : String} {fs : List (String × Json)} {f : String × Json} (h : f ∈ insertField k v fs) :
    f = (k, v) ∨ f ∈ fs := by
  induction fs with
  | nil => exact .inl (List.mem_singleton.mp h)
  | cons g fs ih =>
    rw [insertField] at h
    split at h
    · exact List.mem_cons.mp h
    · rcases List.mem_cons.mp h with rfl | h
      · exact .inr List.mem_cons_self
      · exact (ih h).imp id (List.mem_cons_of_mem _)

/-- A field with a key of its own is put where the keys stay in order. -/
theorem pairwise_insertField {k : String} {fs : List (String × Json)} (hfs : fs.Pairwise fun f g => f.1 < g.1)
    (hk : ∀ f ∈ fs, f.1 ≠ k) : (insertField k v fs).Pairwise fun f g => f.1 < g.1 := by
  induction fs with
  | nil => exact List.pairwise_singleton _ _
  | cons g fs ih =>
    obtain ⟨hg, hfs'⟩ := List.pairwise_cons.mp hfs
    rw [insertField]
    split
    next hlt =>
      refine List.pairwise_cons.mpr ⟨?_, hfs⟩
      intro f hf
      rcases List.mem_cons.mp hf with rfl | hf
      · exact hlt
      · exact lt_trans hlt (hg f hf)
    next hlt =>
      have hgk : g.1 < k := lt_of_le_of_ne (not_lt.mp hlt) (hk g List.mem_cons_self)
      refine List.pairwise_cons.mpr ⟨?_, ih hfs' fun f hf => hk f (List.mem_cons_of_mem _ hf)⟩
      intro f hf
      rcases mem_insertField hf with rfl | hf
      · exact hgk
      · exact hg f hf

mutual

/-- What is made canonical is canonical. -/
theorem isCanonical_canonical : ∀ v : Json, IsCanonical v.canonical
  | .null => .null
  | .bool b => .bool b
  | .num n => .num n
  | .str s => .str s
  | .arr vs => .arr (isCanonical_canonicalItems vs)
  | .obj fs => .obj (isCanonical_canonicalFields fs).1 (isCanonical_canonicalFields fs).2

theorem isCanonical_canonicalItems : ∀ vs : List Json, ∀ v ∈ canonicalItems vs, IsCanonical v
  | [] => nofun
  | v :: vs => by
    rw [canonicalItems, List.forall_mem_cons]
    exact ⟨isCanonical_canonical v, isCanonical_canonicalItems vs⟩

theorem isCanonical_canonicalFields : ∀ fs : List (String × Json),
    (canonicalFields fs).Pairwise (fun f g => f.1 < g.1) ∧ ∀ f ∈ canonicalFields fs, IsCanonical f.2
  | [] => ⟨.nil, nofun⟩
  | (k, v) :: fs => by
    obtain ⟨hkeys, hvalues⟩ := isCanonical_canonicalFields fs
    have hv := isCanonical_canonical v
    rw [canonicalFields]
    split
    · exact ⟨hkeys, hvalues⟩
    next hnew =>
      refine ⟨pairwise_insertField hkeys fun f hf hk => hnew (List.any_eq_true.mpr ⟨f, hf, beq_iff_eq.mpr hk⟩), ?_⟩
      intro f hf
      rcases mem_insertField hf with rfl | hf
      · exact hv
      · exact hvalues f hf

end

theorem canonicalItems_eq_self {vs : List Json} (h : ∀ v ∈ vs, v.canonical = v) : canonicalItems vs = vs := by
  induction vs with
  | nil => rfl
  | cons v vs ih => rw [canonicalItems, h v List.mem_cons_self, ih fun w hw => h w (List.mem_cons_of_mem _ hw)]

theorem canonicalFields_eq_self {fs : List (String × Json)} (hkeys : fs.Pairwise fun f g => f.1 < g.1)
    (h : ∀ f ∈ fs, f.2.canonical = f.2) : canonicalFields fs = fs := by
  induction fs with
  | nil => rfl
  | cons f fs ih =>
    obtain ⟨k, v⟩ := f
    obtain ⟨hk, hkeys⟩ := List.pairwise_cons.mp hkeys
    have hnew : ¬fs.any (·.1 == k) = true := by
      simp only [List.any_eq_true, beq_iff_eq, not_exists, not_and]
      exact fun g hg hgk => absurd (hgk ▸ hk g hg) (lt_irrefl _)
    rw [canonicalFields, ih hkeys fun g hg => h g (List.mem_cons_of_mem _ hg), h _ List.mem_cons_self, if_neg hnew]
    cases fs with
    | nil => rfl
    | cons g fs => exact if_pos (hk g List.mem_cons_self)

/-- A value in canonical form stays as it is. -/
theorem canonical_eq_self (h : IsCanonical v) : v.canonical = v := by
  induction h with
  | null => rfl
  | bool => rfl
  | num => rfl
  | str => rfl
  | arr _ ih => rw [canonical, canonicalItems_eq_self ih]
  | obj hkeys _ ih => rw [canonical, canonicalFields_eq_self hkeys ih]

end Colloquy.Json
