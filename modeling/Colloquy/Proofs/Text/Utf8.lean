import Mathlib.Data.List.Basic
import Mathlib.Tactic.IntervalCases
import Colloquy.Text.Utf8

/-!
# Decoding what was encoded

A character is begun octet by octet: `Awaits` says of its first octets to which state they lead the machine, and the last octet completes
it (`encodeChar_awaits`). So bytes that encode a text are decoded to it (`decodeLossy_encode`), and they are well formed
(`decode?_encode`). A plain character is encoded as its own byte, which is in no other character (`encodeChar_cases`).
-/

namespace Colloquy.Utf8

theorem toNat_ofNat {n : Nat} (h : n < 256) : (UInt8.ofNat n).toNat = n :=
  Nat.mod_eq_of_lt h

theorem decodeFrom_cons (state : Option Begun) (b : UInt8) (bs : List UInt8) :
    decodeFrom state (b :: bs) = (step state b).1 ++ decodeFrom (step state b).2 bs := rfl

/-! ## What was encoded -/

/-- Some octets are well formed, are read as some characters, and lead from one state to another. -/
def Reads (state : Option Begun) (octets : List UInt8) (chars : List Char) (next : Option Begun) : Prop :=
  ∀ rest, decodeFrom state (octets ++ rest) = chars ++ decodeFrom next rest ∧
    isWellFormedFrom state (octets ++ rest) = isWellFormedFrom next rest

/-- Octets after octets. -/
theorem Reads.append {a b c : Option Begun} {xs ys : List UInt8} {cs ds : List Char} (h : Reads a xs cs b) (h' : Reads b ys ds c) :
    Reads a (xs ++ ys) (cs ++ ds) c := by
  intro rest
  obtain ⟨hfirst, hfits⟩ := h (ys ++ rest)
  obtain ⟨hsecond, hfits'⟩ := h' rest
  rw [List.append_assoc, List.append_assoc]
  exact ⟨by rw [hfirst, hsecond], hfits.trans hfits'⟩

/-- The first octet of a character, which may be its only one. -/
theorem reads_lead {b : UInt8} {chars : List Char} {next : Option Begun} (hlead : lead b = (chars, next))
    (hfits : b.toNat < 0x80 ∨ next.isSome = true) : Reads none [b] chars next := by
  have hstep : step none b = (chars, next) := hlead
  intro rest
  rw [List.singleton_append, decodeFrom_cons, isWellFormedFrom, hstep, hlead]
  exact ⟨rfl, by rcases hfits with h | h <;> simp [h]⟩

variable {value low high k : Nat}

/-- The last octet of a character. -/
theorem reads_completes (hk : k < 64) :
    Reads (some ⟨value, 1, 0x80, 0xBF⟩) [UInt8.ofNat (k + 128)] [Char.ofNat (value * 64 + k)] none := by
  have hoctet : (UInt8.ofNat (k + 128)).toNat = k + 128 := toNat_ofNat (by omega)
  have hrange : 0x80 ≤ k + 128 ∧ k + 128 ≤ 0xBF := by omega
  intro rest
  rw [List.singleton_append, decodeFrom_cons, isWellFormedFrom, step]
  simp only [hoctet]
  rw [if_pos hrange, if_pos (Nat.le_refl 1), Nat.add_sub_cancel, decide_eq_true hrange.1, decide_eq_true hrange.2]
  exact ⟨rfl, rfl⟩

/-- An octet of a character that has more of them. -/
theorem reads_continues {due : Nat} (hk : k < 64) (hrange : low ≤ k + 128 ∧ k + 128 ≤ high) :
    Reads (some ⟨value, due + 2, low, high⟩) [UInt8.ofNat (k + 128)] [] (some ⟨value * 64 + k, due + 1, 0x80, 0xBF⟩) := by
  have hoctet : (UInt8.ofNat (k + 128)).toNat = k + 128 := toNat_ofNat (by omega)
  intro rest
  rw [List.singleton_append, decodeFrom_cons, isWellFormedFrom, step]
  simp only [hoctet]
  rw [if_pos hrange, if_neg (by omega), Nat.add_sub_cancel, decide_eq_true hrange.1, decide_eq_true hrange.2]
  exact ⟨rfl, rfl⟩

theorem reads_plain (hk : k < 128) : Reads none [UInt8.ofNat k] [Char.ofNat k] none := by
  have hoctet : (UInt8.ofNat k).toNat = k := toNat_ofNat (by omega)
  have hlead : lead (UInt8.ofNat k) = ([Char.ofNat k], none) := by
    unfold lead
    simp only [hoctet]
    rw [if_pos hk]
  exact reads_lead hlead (.inl (by rw [hoctet]; exact hk))

/-- The first octet of two. -/
theorem reads_two (hlow : 2 ≤ k) (hhigh : k < 32) : Reads none [UInt8.ofNat (k + 192)] [] (some ⟨k, 1, 0x80, 0xBF⟩) := by
  refine reads_lead ?_ (.inr rfl)
  interval_cases k <;> rfl

/-- The first octet of three: the range of the second leaves out what is too small, and the surrogates. -/
theorem reads_three (hk : k < 16) :
    Reads none [UInt8.ofNat (k + 224)] [] (some ⟨k, 2, if k = 0 then 0xA0 else 0x80, if k = 13 then 0x9F else 0xBF⟩) := by
  refine reads_lead ?_ (.inr rfl)
  interval_cases k <;> rfl

/-- The first octet of four: the range of the second leaves out what is too small, and what is too large. -/
theorem reads_four (hk : k < 5) :
    Reads none [UInt8.ofNat (k + 240)] [] (some ⟨k, 3, if k = 0 then 0x90 else 0x80, if k = 4 then 0x8F else 0xBF⟩) := by
  refine reads_lead ?_ (.inr rfl)
  interval_cases k <;> rfl

/-- Octets that begin a character and do not complete it, with the state of the machine after them. -/
inductive Awaits : List UInt8 → Begun → Prop where
  | two {k : Nat} (hlow : 2 ≤ k) (hhigh : k < 32) : Awaits [UInt8.ofNat (k + 192)] ⟨k, 1, 0x80, 0xBF⟩
  | three {k : Nat} (hk : k < 16) :
      Awaits [UInt8.ofNat (k + 224)] ⟨k, 2, if k = 0 then 0xA0 else 0x80, if k = 13 then 0x9F else 0xBF⟩
  | four {k : Nat} (hk : k < 5) :
      Awaits [UInt8.ofNat (k + 240)] ⟨k, 3, if k = 0 then 0x90 else 0x80, if k = 4 then 0x8F else 0xBF⟩
  | more {octets : List UInt8} {value due low high k : Nat} (h : Awaits octets ⟨value, due + 2, low, high⟩) (hk : k < 64)
      (hrange : low ≤ k + 128 ∧ k + 128 ≤ high) :
      Awaits (octets ++ [UInt8.ofNat (k + 128)]) ⟨value * 64 + k, due + 1, 0x80, 0xBF⟩

namespace Awaits

variable {octets : List UInt8} {g : Begun}

/-- The machine reads them so. -/
theorem reads (h : Awaits octets g) : Reads none octets [] (some g) := by
  induction h with
  | two hlow hhigh => exact reads_two hlow hhigh
  | three hk => exact reads_three hk
  | four hk => exact reads_four hk
  | more _ hk hrange ih => exact ih.append (reads_continues hk hrange)

/-- What is due is one to three octets, and some octet can be the next. -/
theorem bounds (h : Awaits octets g) : 1 ≤ g.due ∧ g.due ≤ 3 ∧ 0x80 ≤ g.low ∧ g.low ≤ g.high ∧ g.high ≤ 0xBF := by
  induction h with
  | two => simp
  | three hk =>
    dsimp only
    split <;> split <;> omega
  | four hk =>
    dsimp only
    split <;> split <;> omega
  | more _ _ _ ih =>
    dsimp only at ih ⊢
    omega

/-- None of the octets is plain. -/
theorem beyond (h : Awaits octets g) : ∀ b ∈ octets, 0x80 ≤ b.toNat := by
  have hone {k : Nat} (hlow : 0x80 ≤ k) (hhigh : k < 256) : ∀ b ∈ [UInt8.ofNat k], 0x80 ≤ b.toNat := by
    intro b hb
    rw [List.mem_singleton.mp hb, toNat_ofNat hhigh]
    exact hlow
  induction h with
  | two => exact hone (by omega) (by omega)
  | three => exact hone (by omega) (by omega)
  | four => exact hone (by omega) (by omega)
  | more _ _ _ ih => exact List.forall_mem_append.mpr ⟨ih, hone (by omega) (by omega)⟩

end Awaits

/-- A character is one plain octet, or its octets up to the last await that one. -/
theorem encodeChar_awaits (c : Char) :
    (c.toNat < 0x80 ∧ String.utf8EncodeChar c = [UInt8.ofNat c.toNat]) ∨
      ∃ octets value k, Awaits octets ⟨value, 1, 0x80, 0xBF⟩ ∧ k < 64 ∧ 0x80 ≤ c.toNat ∧ value * 64 + k = c.toNat ∧
        String.utf8EncodeChar c = octets ++ [UInt8.ofNat (k + 128)] := by
  have hvalid : c.val.toNat < 0xD800 ∨ 0xDFFF < c.val.toNat ∧ c.val.toNat < 0x110000 := c.valid
  have hnat : c.toNat = c.val.toNat := rfl
  rw [hnat]
  unfold String.utf8EncodeChar
  generalize c.val.toNat = v at hvalid
  dsimp only
  split
  next h1 => exact .inl ⟨by omega, rfl⟩
  next h1 =>
  refine .inr ?_
  split
  next h2 =>
    exact ⟨_, v / 64 % 32, v % 64, .two (by omega) (by omega), by omega, by omega, by omega, rfl⟩
  next h2 =>
  split
  next h3 =>
    have hrange : (if v / 4096 % 16 = 0 then 0xA0 else 0x80) ≤ v / 64 % 64 + 128 ∧
        v / 64 % 64 + 128 ≤ if v / 4096 % 16 = 13 then 0x9F else 0xBF := by
      split <;> split <;> omega
    have hawaits := Awaits.more (Awaits.three (k := v / 4096 % 16) (by omega)) (k := v / 64 % 64) (by omega) hrange
    exact ⟨_, _, v % 64, hawaits, by omega, by omega, by omega, rfl⟩
  next h3 =>
    have hrange : (if v / 262144 % 8 = 0 then 0x90 else 0x80) ≤ v / 4096 % 64 + 128 ∧
        v / 4096 % 64 + 128 ≤ if v / 262144 % 8 = 4 then 0x8F else 0xBF := by
      split <;> split <;> omega
    have hawaits := Awaits.more (Awaits.more (Awaits.four (k := v / 262144 % 8) (by omega)) (k := v / 4096 % 64) (by omega) hrange)
      (k := v / 64 % 64) (by omega) (by omega)
    exact ⟨_, _, v % 64, hawaits, by omega, by omega, by omega, rfl⟩

/-- A character is read from the octets that encode it. -/
theorem reads_encodeChar (c : Char) : Reads none (String.utf8EncodeChar c) [c] none := by
  have hc : Char.ofNat c.toNat = c := Char.ofNat_toNat c
  rcases encodeChar_awaits c with ⟨hplain, hone⟩ | ⟨octets, value, k, hawaits, hk, -, hvalue, hwhole⟩
  · have hread := reads_plain hplain
    rw [hc] at hread
    rw [hone]
    exact hread
  · have hread := hawaits.reads.append (reads_completes hk)
    rw [hvalue, hc] at hread
    rw [hwhole]
    exact hread

theorem encode_cons (c : Char) (text : List Char) : encode (c :: text) = String.utf8EncodeChar c ++ encode text :=
  List.flatMap_cons

theorem encode_append (a b : List Char) : encode (a ++ b) = encode a ++ encode b :=
  List.flatMap_append

/-- A text is read from the bytes that encode it. -/
theorem reads_encode (text : List Char) : Reads none (encode text) text none := by
  induction text with
  | nil => exact fun _ => ⟨rfl, rfl⟩
  | cons c text ih => exact (reads_encodeChar c).append ih

theorem decodeLossy_encode (text : List Char) : decodeLossy (encode text) = text := by
  have h := (reads_encode text []).1
  rw [List.append_nil] at h
  exact h.trans (List.append_nil text)

/-- The bytes of a text are well formed, and that text. -/
theorem decode?_encode (text : List Char) : decode? (encode text) = some text := by
  have h : isWellFormedFrom none (encode text) = true := by
    have hfits := (reads_encode text []).2
    rw [List.append_nil] at hfits
    exact hfits
  rw [decode?, if_pos h, decodeLossy_encode]

/-! ## Plain characters -/

/-- A plain character is encoded as its own byte, and no other character has such a byte. -/
theorem encodeChar_cases (c : Char) :
    (c.toNat < 0x80 ∧ String.utf8EncodeChar c = [UInt8.ofNat c.toNat]) ∨
      (0x80 ≤ c.toNat ∧ ∀ b ∈ String.utf8EncodeChar c, 0x80 ≤ b.toNat) := by
  rcases encodeChar_awaits c with hplain | ⟨octets, value, k, hawaits, hk, hlarge, -, hwhole⟩
  · exact .inl hplain
  · refine .inr ⟨hlarge, fun b hb => ?_⟩
    rw [hwhole, List.mem_append, List.mem_singleton] at hb
    rcases hb with hb | rfl
    · exact hawaits.beyond b hb
    · rw [toNat_ofNat (by omega)]
      omega

theorem ofNat_toNat_inj {c d : Char} (hc : c.toNat < 0x80) (hd : d.toNat < 0x80) :
    UInt8.ofNat c.toNat = UInt8.ofNat d.toNat ↔ c = d := by
  constructor
  · intro heq
    have hnat := congrArg UInt8.toNat heq
    rw [toNat_ofNat (by omega), toNat_ofNat (by omega)] at hnat
    exact Char.ext (UInt32.toNat_inj.mp hnat)
  · rintro rfl
    rfl

/-- The byte of a plain character stands in an encoded text for that character. -/
theorem mem_encode {c : Char} (hc : c.toNat < 0x80) {text : List Char} : UInt8.ofNat c.toNat ∈ encode text ↔ c ∈ text := by
  have hof : (UInt8.ofNat c.toNat).toNat = c.toNat := toNat_ofNat (by omega)
  induction text with
  | nil => simp [encode]
  | cons d text ih =>
    rw [encode_cons, List.mem_append, List.mem_cons]
    refine or_congr ?_ ih
    rcases encodeChar_cases d with ⟨hd, hencode⟩ | ⟨hd, hencode⟩
    · rw [hencode, List.mem_singleton, ofNat_toNat_inj hc hd]
    · constructor
      · intro hmem
        have hlarge := hencode _ hmem
        omega
      · rintro rfl
        omega

/-- An encoded text ends in the byte of a plain character just if it ends in that character. -/
theorem getLast?_encode {c : Char} (hc : c.toNat < 0x80) (text : List Char) :
    (encode text).getLast? = some (UInt8.ofNat c.toNat) ↔ text.getLast? = some c := by
  rcases List.eq_nil_or_concat text with rfl | ⟨front, d, rfl⟩
  · simp [encode]
  rw [List.concat_eq_append, encode_append, List.getLast?_concat]
  have hlast : encode [d] = String.utf8EncodeChar d := by rw [encode_cons]; exact List.append_nil _
  rw [hlast, List.getLast?_append_of_ne_nil _ String.utf8EncodeChar_ne_nil, Option.some_inj]
  rcases encodeChar_cases d with ⟨hd, hencode⟩ | ⟨hd, hencode⟩
  · rw [hencode, List.getLast?_singleton, Option.some_inj, ofNat_toNat_inj hd hc]
  · constructor
    · intro hend
      have hlarge := hencode _ (List.mem_of_getLast? hend)
      rw [toNat_ofNat (by omega)] at hlarge
      omega
    · rintro rfl
      omega

/-! ## Sizes -/

theorem foldl_size (n : Nat) (text : List Char) : text.foldl (fun n c => n + c.utf8Size) n = n + size text := by
  induction text generalizing n with
  | nil => rfl
  | cons c text ih =>
    rw [size, List.foldl_cons, List.foldl_cons, ih, ih]
    omega

theorem size_cons (c : Char) (text : List Char) : size (c :: text) = c.utf8Size + size text := by
  rw [size, List.foldl_cons, foldl_size, Nat.zero_add]

theorem size_append (text rest : List Char) : size (text ++ rest) = size text + size rest := by
  rw [size, List.foldl_append, foldl_size]
  rfl

end Colloquy.Utf8
