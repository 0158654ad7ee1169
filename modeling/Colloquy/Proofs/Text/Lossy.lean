import Mathlib.Data.Nat.Find
import Colloquy.Proofs.Text.Utf8

/-!
# What lossy decoding replaces

Said without the machine: where octets start with the encoding of a character, that character is read; where they start with none,
the longest part that begins one, or a single octet if none is begun, is ill formed (`IsIllFormed`) and stands for one U+FFFD. This
determines a text (`IsDecoded`), and the machine finds it (`isDecoded_iff`).

The octets of a character begun are described step by step along with the state that they lead to (`Awaits`). A plain octet encodes
its own character and is part of nothing else, so that it is never replaced (`IsIllFormed.not_plain`) and parts what is before it from
what is after it (`decodeLossy_plain`).
-/

namespace Colloquy.Utf8

/-- Octets with which the encoding of some character begins. -/
def BeginsCharacter (octets : List UInt8) : Prop :=
  ∃ c, octets <+: String.utf8EncodeChar c

/-- The part of octets that is replaced by one character: no character is encoded where it starts, and it is the longest part from
there that begins a character, or one octet if none does. -/
structure IsIllFormed (part rest : List UInt8) : Prop where
  noCharacter : ∀ c, ¬String.utf8EncodeChar c <+: part ++ rest
  isPart : (part ≠ [] ∧ BeginsCharacter part) ∨ ∃ b, part = [b]
  isLongest : ∀ longer, longer <+: part ++ rest → BeginsCharacter longer → longer.length ≤ part.length

/-- The text of octets, part by part. -/
inductive IsDecoded : List UInt8 → List Char → Prop where
  | nil : IsDecoded [] []
  | character (c : Char) {rest : List UInt8} {text : List Char} (hrest : IsDecoded rest text) :
      IsDecoded (String.utf8EncodeChar c ++ rest) (c :: text)
  | illFormed {part rest : List UInt8} {text : List Char} (hpart : IsIllFormed part rest) (hrest : IsDecoded rest text) :
      IsDecoded (part ++ rest) (replacement :: text)

/-! ## Characters begun -/

namespace Awaits

variable {octets : List UInt8} {g : Begun}

/-- Fewer octets of the same character begin it, too. -/
theorem of_prefix (h : Awaits octets g) {part : List UInt8} (hpart : part <+: octets) (hne : part ≠ []) : ∃ g', Awaits part g' := by
  have hone {b : UInt8} (hb : part <+: [b]) : part = [b] := by
    obtain ⟨surplus, hsurplus⟩ := hb
    rcases List.append_eq_singleton_iff.mp hsurplus with ⟨hnil, -⟩ | ⟨heq, -⟩
    · exact absurd hnil hne
    · exact heq
  induction h with
  | two hlow hhigh =>
    rw [hone hpart]
    exact ⟨_, .two hlow hhigh⟩
  | three hk =>
    rw [hone hpart]
    exact ⟨_, .three hk⟩
  | four hk =>
    rw [hone hpart]
    exact ⟨_, .four hk⟩
  | more h hk hrange ih =>
    rcases List.prefix_concat_iff.mp hpart with rfl | hpart
    · exact ⟨_, .more h hk hrange⟩
    · exact ih hpart

end Awaits

theorem toNat_ofNat_char {n : Nat} (h : n.isValidChar) : (Char.ofNat n).toNat = n := by
  rw [Char.ofNat, dif_pos h]
  rfl

theorem encodeChar_ofNat {v : Nat} (hv : v.isValidChar) :
    String.utf8EncodeChar (Char.ofNat v) =
      if v ≤ 127 then [UInt8.ofNat v]
      else if v ≤ 2047 then [UInt8.ofNat (v / 64 % 32 + 192), UInt8.ofNat (v % 64 + 128)]
      else if v ≤ 65535 then
        [UInt8.ofNat (v / 4096 % 16 + 224), UInt8.ofNat (v / 64 % 64 + 128), UInt8.ofNat (v % 64 + 128)]
      else
        [UInt8.ofNat (v / 262144 % 8 + 240), UInt8.ofNat (v / 4096 % 64 + 128), UInt8.ofNat (v / 64 % 64 + 128),
          UInt8.ofNat (v % 64 + 128)] := by
  have hval : (Char.ofNat v).val.toNat = v := toNat_ofNat_char hv
  unfold String.utf8EncodeChar
  rw [hval]

/-- The last octet that is due completes the encoding of a character. -/
theorem Awaits.encodes {octets : List UInt8} {value low high k : Nat} (h : Awaits octets ⟨value, 1, low, high⟩) (hk : k < 64)
    (hrange : low ≤ k + 128 ∧ k + 128 ≤ high) :
    String.utf8EncodeChar (Char.ofNat (value * 64 + k)) = octets ++ [UInt8.ofNat (k + 128)] := by
  cases h with
  | two hlow hhigh =>
    have h1 : (value * 64 + k) / 64 % 32 = value := by omega
    have h2 : (value * 64 + k) % 64 = k := by omega
    rw [encodeChar_ofNat (.inl (by omega)), if_neg (by omega), if_pos (by omega), h1, h2]
    rfl
  | @more _ i _ _ _ j h hj hrange' =>
    cases h with
    | three hi =>
      have hlow : i = 0 → 32 ≤ j := by split at hrange' <;> omega
      have hhigh : i = 13 → j < 32 := by split at hrange' <;> split at hrange' <;> omega
      have hvalid : ((i * 64 + j) * 64 + k).isValidChar := by
        rcases Nat.lt_or_ge i 14 with hi' | hi'
        · exact .inl (by omega)
        · exact .inr ⟨by omega, by omega⟩
      have h1 : ((i * 64 + j) * 64 + k) / 4096 % 16 = i := by omega
      have h2 : ((i * 64 + j) * 64 + k) / 64 % 64 = j := by omega
      have h3 : ((i * 64 + j) * 64 + k) % 64 = k := by omega
      rw [encodeChar_ofNat hvalid, if_neg (by omega), if_neg (by omega), if_pos (by omega), h1, h2, h3]
      rfl
    | @more _ n _ _ _ i h hi hrange'' =>
      cases h with
      | four hn =>
        have hlow : n = 0 → 16 ≤ i := by split at hrange'' <;> omega
        have hhigh : n = 4 → i < 16 := by split at hrange'' <;> split at hrange'' <;> omega
        have hvalid : (((n * 64 + i) * 64 + j) * 64 + k).isValidChar := .inr ⟨by omega, by omega⟩
        have h1 : (((n * 64 + i) * 64 + j) * 64 + k) / 262144 % 8 = n := by omega
        have h2 : (((n * 64 + i) * 64 + j) * 64 + k) / 4096 % 64 = i := by omega
        have h3 : (((n * 64 + i) * 64 + j) * 64 + k) / 64 % 64 = j := by omega
        have h4 : (((n * 64 + i) * 64 + j) * 64 + k) % 64 = k := by omega
        rw [encodeChar_ofNat hvalid, if_neg (by omega), if_neg (by omega), if_neg (by omega), h1, h2, h3, h4]
        rfl
      | more h _ _ => exact absurd h.bounds.2.1 (by simp)

/-- What awaits more octets begins a character. -/
theorem Awaits.begins {octets : List UInt8} {g : Begun} (h : Awaits octets g) : BeginsCharacter octets := by
  obtain ⟨value, due, low, high⟩ := g
  induction due generalizing octets value low high with
  | zero => exact absurd h.bounds.1 (by simp)
  | succ due ih =>
    obtain ⟨-, -, hlow, hle, hhigh⟩ := h.bounds
    dsimp only at hlow hle hhigh
    -- the least octet that can be the next
    have hk : low - 128 < 64 := by omega
    have hrange : low ≤ low - 128 + 128 ∧ low - 128 + 128 ≤ high := by omega
    cases due with
    | zero => exact ⟨_, h.encodes hk hrange ▸ List.prefix_append _ _⟩
    | succ due =>
      obtain ⟨c, hc⟩ := ih _ _ _ (.more h hk hrange)
      exact ⟨c, (List.prefix_append _ _).trans hc⟩

/-- So does it with the next octet. -/
theorem Awaits.begins_next {octets : List UInt8} {g : Begun} (h : Awaits octets g) {b : UInt8}
    (hrange : g.low ≤ b.toNat ∧ b.toNat ≤ g.high) : BeginsCharacter (octets ++ [b]) := by
  obtain ⟨value, due, low, high⟩ := g
  obtain ⟨hdue, -, hlow, -, hhigh⟩ := h.bounds
  dsimp only at hdue hlow hhigh hrange
  have hk : b.toNat - 128 < 64 := by omega
  have hb : UInt8.ofNat (b.toNat - 128 + 128) = b := by
    rw [Nat.sub_add_cancel (by omega), UInt8.ofNat_toNat]
  have hrange' : low ≤ b.toNat - 128 + 128 ∧ b.toNat - 128 + 128 ≤ high := by omega
  match due, hdue with
  | 1, _ =>
    have hwhole := h.encodes hk hrange'
    rw [hb] at hwhole
    exact ⟨_, [], by rw [hwhole, List.append_nil]⟩
  | due + 2, _ =>
    have hmore := Awaits.more h hk hrange'
    rw [hb] at hmore
    exact hmore.begins

/-- A plain octet encodes its own character. -/
theorem encodeChar_plain {b : UInt8} (h : b.toNat < 0x80) : String.utf8EncodeChar (Char.ofNat b.toNat) = [b] := by
  rw [encodeChar_ofNat (.inl (by omega)), if_pos (by omega), UInt8.ofNat_toNat]

/-- Octets that begin a character without completing it await more. -/
theorem BeginsCharacter.awaits {octets : List UInt8} {c : Char} (h : octets <+: String.utf8EncodeChar c) (hne : octets ≠ [])
    (hopen : octets ≠ String.utf8EncodeChar c) : ∃ g, Awaits octets g := by
  rcases encodeChar_awaits c with ⟨-, hplain⟩ | ⟨front, value, k, hawaits, -, -, -, hwhole⟩
  · rw [hplain] at h hopen
    obtain ⟨surplus, hsurplus⟩ := h
    rcases List.append_eq_singleton_iff.mp hsurplus with ⟨hnil, -⟩ | ⟨heq, -⟩
    · exact absurd hnil hne
    · exact absurd heq hopen
  · rw [hwhole] at h hopen
    rcases List.prefix_concat_iff.mp h with heq | hfront
    · exact absurd heq hopen
    · exact hawaits.of_prefix hfront hne

/-- What an octet starts: a character that is its own, one that awaits more, or none. -/
theorem lead_awaits (b : UInt8) :
    (b.toNat < 0x80 ∧ lead b = ([Char.ofNat b.toNat], none)) ∨ (∃ g, Awaits [b] g ∧ lead b = ([], some g)) ∨
      lead b = ([replacement], none) := by
  obtain ⟨n, hn, rfl⟩ : ∃ n < 256, b = UInt8.ofNat n := ⟨b.toNat, b.toNat_lt, UInt8.ofNat_toNat.symm⟩
  unfold lead
  simp only [toNat_ofNat hn]
  by_cases h1 : n < 0x80
  · exact .inl ⟨h1, if_pos h1⟩
  refine .inr ?_
  rw [if_neg h1]
  by_cases h2 : n < 0xC2
  · exact .inr (if_pos h2)
  rw [if_neg h2]
  by_cases h3 : n < 0xE0
  · obtain ⟨k, rfl⟩ : ∃ k, n = k + 0xC0 := ⟨n - 0xC0, by omega⟩
    exact .inl ⟨_, .two (by omega) (by omega), by rw [if_pos h3, Nat.add_sub_cancel]⟩
  rw [if_neg h3]
  by_cases h4 : n < 0xF0
  · obtain ⟨k, rfl⟩ : ∃ k, n = k + 0xE0 := ⟨n - 0xE0, by omega⟩
    have hk : k < 16 := by omega
    exact .inl ⟨_, .three hk, by interval_cases k <;> rfl⟩
  by_cases h5 : n < 0xF5
  · obtain ⟨k, rfl⟩ : ∃ k, n = k + 0xF0 := ⟨n - 0xF0, by omega⟩
    have hk : k < 5 := by omega
    exact .inl ⟨_, .four hk, by interval_cases k <;> rfl⟩
  · exact .inr (by interval_cases n <;> rfl)

/-! ## One replacement for each ill-formed part -/

theorem decodeLossy_cons_replaced {b : UInt8} (h : lead b = ([replacement], none)) (rest : List UInt8) :
    decodeLossy (b :: rest) = replacement :: decodeLossy rest := by
  rw [decodeLossy, decodeFrom_cons, step, h]
  rfl

theorem step_replaced {g : Begun} {b : UInt8} (h : ¬(g.low ≤ b.toNat ∧ b.toNat ≤ g.high)) :
    step (some g) b = (replacement :: (lead b).1, (lead b).2) :=
  if_neg h

/-- A part that awaits more is replaced where the next octet is not what it awaits. -/
theorem decodeFrom_replaced {g : Begun} {rest : List UInt8}
    (h : ∀ b more, rest = b :: more → ¬(g.low ≤ b.toNat ∧ b.toNat ≤ g.high)) :
    decodeFrom (some g) rest = replacement :: decodeLossy rest := by
  cases rest with
  | nil => rfl
  | cons b more =>
    rw [decodeLossy, decodeFrom_cons, decodeFrom_cons, step_replaced (h b more rfl)]
    rfl

/-- An ill-formed part is read as one replacement. -/
theorem IsIllFormed.decodeLossy_eq {part rest : List UInt8} (h : IsIllFormed part rest) :
    decodeLossy (part ++ rest) = replacement :: decodeLossy rest := by
  by_cases hbegins : BeginsCharacter part
  · have hne : part ≠ [] := by
      rcases h.isPart with ⟨hne, -⟩ | ⟨b, rfl⟩
      · exact hne
      · exact List.cons_ne_nil _ _
    obtain ⟨c, hc⟩ := hbegins
    have hopen : part ≠ String.utf8EncodeChar c := fun heq => h.noCharacter c (heq ▸ List.prefix_append _ _)
    obtain ⟨g, hawaits⟩ := BeginsCharacter.awaits hc hne hopen
    rw [decodeLossy, (hawaits.reads rest).1, List.nil_append]
    refine decodeFrom_replaced fun b more hrest hrange => ?_
    -- such an octet would make the part longer
    have hlonger := h.isLongest (part ++ [b]) ⟨more, by simp [hrest]⟩ (hawaits.begins_next hrange)
    simp at hlonger
  · rcases h.isPart with ⟨-, hpart⟩ | ⟨b, rfl⟩
    · exact absurd hpart hbegins
    · rcases lead_awaits b with ⟨hplain, -⟩ | ⟨g, hawaits, -⟩ | hlead
      · exact absurd (encodeChar_plain hplain) fun heq => h.noCharacter _ ⟨rest, by rw [heq]⟩
      · exact absurd hawaits.begins hbegins
      · exact decodeLossy_cons_replaced hlead rest

theorem decodeLossy_encodeChar (c : Char) (rest : List UInt8) :
    decodeLossy (String.utf8EncodeChar c ++ rest) = c :: decodeLossy rest :=
  (reads_encodeChar c rest).1

/-- Where no character is encoded there is an ill-formed part. -/
theorem exists_illFormed {octets : List UInt8} (hne : octets ≠ []) (h : ∀ c, ¬String.utf8EncodeChar c <+: octets) :
    ∃ part rest, octets = part ++ rest ∧ part ≠ [] ∧ IsIllFormed part rest := by
  classical
  -- the length of the longest part that begins a character
  let longest := Nat.findGreatest (fun n => BeginsCharacter (octets.take n)) octets.length
  have hlongest {longer : List UInt8} (hpre : longer <+: octets) (hbegins : BeginsCharacter longer) : longer.length ≤ longest := by
    refine Nat.le_findGreatest hpre.length_le ?_
    rw [← List.prefix_iff_eq_take.mp hpre]
    exact hbegins
  have hsplit (n : Nat) : octets = octets.take n ++ octets.drop n := (List.take_append_drop n octets).symm
  rcases Nat.eq_zero_or_pos longest with hzero | hpos
  · cases octets with
    | nil => exact absurd rfl hne
    | cons b rest =>
      refine ⟨[b], rest, rfl, List.cons_ne_nil _ _, ⟨h, .inr ⟨b, rfl⟩, fun longer hpre hbegins => ?_⟩⟩
      have hlonger := hlongest hpre hbegins
      rw [hzero] at hlonger
      exact hlonger.trans (Nat.zero_le _)
  · have hle : longest ≤ octets.length := Nat.findGreatest_le _
    have hlength : (octets.take longest).length = longest := List.length_take_of_le hle
    have hbegins : BeginsCharacter (octets.take longest) :=
      Nat.findGreatest_of_ne_zero (P := fun n => BeginsCharacter (octets.take n)) rfl hpos.ne'
    have hpart : octets.take longest ≠ [] := List.ne_nil_of_length_pos (by omega)
    refine ⟨octets.take longest, octets.drop longest, hsplit longest, hpart, ?_, .inl ⟨hpart, hbegins⟩, ?_⟩
    · rw [← hsplit]
      exact h
    · rw [← hsplit, hlength]
      exact fun longer hpre => hlongest hpre

/-- The machine finds the text of any octets. -/
theorem isDecoded_decodeLossy (octets : List UInt8) : IsDecoded octets (decodeLossy octets) := by
  induction hn : octets.length using Nat.strongRecOn generalizing octets with
  | _ n ih =>
    by_cases hne : octets = []
    · rw [hne]
      exact .nil
    by_cases hchar : ∃ c, String.utf8EncodeChar c <+: octets
    · obtain ⟨c, rest, rfl⟩ := hchar
      have hpos := List.length_pos_iff.mpr (@String.utf8EncodeChar_ne_nil c)
      rw [decodeLossy_encodeChar]
      exact .character c (ih rest.length (by rw [← hn, List.length_append]; omega) rest rfl)
    · obtain ⟨part, rest, rfl, hpart, hill⟩ := exists_illFormed hne (not_exists.mp hchar)
      have hpos := List.length_pos_iff.mpr hpart
      rw [hill.decodeLossy_eq]
      exact .illFormed hill (ih rest.length (by rw [← hn, List.length_append]; omega) rest rfl)

/-- Octets have one text, and it is the one that the machine finds. -/
theorem isDecoded_iff {octets : List UInt8} {text : List Char} : IsDecoded octets text ↔ decodeLossy octets = text := by
  constructor
  · intro h
    induction h with
    | nil => rfl
    | character c _ ih => rw [decodeLossy_encodeChar, ih]
    | illFormed hpart _ ih => rw [hpart.decodeLossy_eq, ih]
  · rintro rfl
    exact isDecoded_decodeLossy octets

/-! ## Plain octets -/

/-- An octet of a character's encoding is plain only if it is all of it. -/
theorem encodeChar_eq_of_mem {c : Char} {b : UInt8} (h : b ∈ String.utf8EncodeChar c) (hb : b.toNat < 0x80) :
    String.utf8EncodeChar c = [b] := by
  rcases encodeChar_cases c with ⟨-, hone⟩ | ⟨-, hlarge⟩
  · rw [hone] at h ⊢
    rw [List.mem_singleton.mp h]
  · have := hlarge b h
    omega

/-- No plain octet is in an ill-formed part. -/
theorem IsIllFormed.not_plain {part rest : List UInt8} (h : IsIllFormed part rest) {b : UInt8} (hmem : b ∈ part) : 0x80 ≤ b.toNat := by
  by_contra hlt
  have hb : b.toNat < 0x80 := by omega
  rcases h.isPart with ⟨hne, c, hc⟩ | ⟨b', rfl⟩
  · have hone := encodeChar_eq_of_mem (hc.subset hmem) hb
    have hpart : part = String.utf8EncodeChar c := by
      rw [hone] at hc ⊢
      exact hc.eq_of_length_le (by simpa [Nat.one_le_iff_ne_zero] using hne)
    exact h.noCharacter c (hpart ▸ List.prefix_append _ _)
  · obtain rfl := List.mem_singleton.mp hmem
    exact h.noCharacter _ ⟨rest, by rw [encodeChar_plain hb]⟩

/-- Octets with which a character begins do not reach across a plain octet. -/
theorem prefix_of_plain {part front after : List UInt8} {b : UInt8} (hb : b.toNat < 0x80) {c : Char}
    (hpart : part <+: String.utf8EncodeChar c) (hpre : part <+: front ++ b :: after) :
    part <+: front ∨ front = [] ∧ part = [b] := by
  rcases List.prefix_or_prefix_of_prefix hpre (List.prefix_append front _) with hfront | ⟨surplus, rfl⟩
  · exact .inl hfront
  cases surplus with
  | nil =>
    rw [List.append_nil]
    exact .inl List.prefix_rfl
  | cons x more =>
    have hx : x = b := (List.cons_prefix_cons.mp ((List.prefix_append_right_inj front).mp hpre)).1
    subst hx
    have hone := encodeChar_eq_of_mem (hpart.subset (List.mem_append_right _ List.mem_cons_self)) hb
    rw [hone] at hpart
    have hlength := hpart.length_le
    simp only [List.length_append, List.length_cons, List.length_nil] at hlength
    have hfront : front = [] := List.length_eq_zero_iff.mp (by omega)
    have hmore : more = [] := List.length_eq_zero_iff.mp (by omega)
    exact .inr ⟨hfront, by rw [hfront, hmore, List.nil_append]⟩

/-- A part stays ill formed when a plain octet and more follow. -/
theorem IsIllFormed.plain {part rest : List UInt8} (h : IsIllFormed part rest) {b : UInt8} (hb : b.toNat < 0x80) (after : List UInt8) :
    IsIllFormed part (rest ++ b :: after) := by
  have hpos : 1 ≤ part.length := by
    rcases h.isPart with ⟨hne, -⟩ | ⟨b', rfl⟩
    · exact List.length_pos_iff.mpr hne
    · exact le_rfl
  refine ⟨fun c hc => ?_, h.isPart, fun longer hlonger hbegins => ?_⟩
  · rw [← List.append_assoc] at hc
    rcases prefix_of_plain hb List.prefix_rfl hc with hin | ⟨hnil, -⟩
    · exact h.noCharacter c hin
    · rw [(List.append_eq_nil_iff.mp hnil).1] at hpos
      exact absurd hpos (by decide)
  · rw [← List.append_assoc] at hlonger
    obtain ⟨c, hc⟩ := hbegins
    rcases prefix_of_plain hb hc hlonger with hin | ⟨-, rfl⟩
    · exact h.isLongest longer hin ⟨c, hc⟩
    · exact hpos

/-- It is ill formed, too, when less follows. -/
theorem IsIllFormed.of_append {part rest after : List UInt8} (h : IsIllFormed part (rest ++ after)) : IsIllFormed part rest := by
  have hmore {octets : List UInt8} (hpre : octets <+: part ++ rest) : octets <+: part ++ (rest ++ after) := by
    rw [← List.append_assoc]
    exact hpre.trans (List.prefix_append _ _)
  exact ⟨fun c hc => h.noCharacter c (hmore hc), h.isPart, fun longer hlonger => h.isLongest longer (hmore hlonger)⟩

theorem replacement_ne_plain {b : UInt8} (hb : b.toNat < 0x80) : replacement ≠ Char.ofNat b.toNat := by
  intro heq
  have hnat := congrArg Char.toNat heq
  rw [toNat_ofNat_char (.inl (by omega))] at hnat
  rw [← hnat] at hb
  exact absurd hb (by decide)

/-- A plain octet is read as its own character, which stands for nothing else, and parts what is before it from what is after it. -/
theorem isDecoded_plain_iff {octets : List UInt8} {b : UInt8} (hb : b.toNat < 0x80) {text more : List Char} :
    IsDecoded octets (text ++ Char.ofNat b.toNat :: more) ↔
      ∃ before after, octets = before ++ b :: after ∧ IsDecoded before text ∧ IsDecoded after more := by
  constructor
  · intro h
    generalize hwhole : text ++ Char.ofNat b.toNat :: more = whole at h
    induction h generalizing text with
    | nil => simp at hwhole
    | @character c rest _ hrest ih =>
      cases text with
      | nil =>
        obtain ⟨rfl, rfl⟩ := List.cons.inj hwhole
        exact ⟨[], rest, by rw [encodeChar_plain hb]; rfl, .nil, hrest⟩
      | cons d text =>
        obtain ⟨rfl, hlater⟩ := List.cons.inj hwhole
        obtain ⟨before, after, rfl, hbefore, hafter⟩ := ih hlater
        exact ⟨_, after, (List.append_assoc _ _ _).symm, .character d hbefore, hafter⟩
    | @illFormed part rest _ hpart hrest ih =>
      cases text with
      | nil => exact absurd (List.cons.inj hwhole).1.symm (replacement_ne_plain hb)
      | cons d text =>
        obtain ⟨rfl, hlater⟩ := List.cons.inj hwhole
        obtain ⟨before, after, rfl, hbefore, hafter⟩ := ih hlater
        exact ⟨_, after, (List.append_assoc _ _ _).symm, .illFormed hpart.of_append hbefore, hafter⟩
  · rintro ⟨before, after, rfl, hbefore, hafter⟩
    induction hbefore with
    | nil =>
      have hone := IsDecoded.character (Char.ofNat b.toNat) hafter
      rw [encodeChar_plain hb] at hone
      exact hone
    | character c _ ih =>
      rw [List.append_assoc]
      exact .character c ih
    | illFormed hpart _ ih =>
      rw [List.append_assoc]
      exact .illFormed (hpart.plain hb after) ih

theorem decodeLossy_plain (before : List UInt8) {b : UInt8} (hb : b.toNat < 0x80) (after : List UInt8) :
    decodeLossy (before ++ b :: after) = decodeLossy before ++ Char.ofNat b.toNat :: decodeLossy after :=
  isDecoded_iff.mp ((isDecoded_plain_iff hb).mpr ⟨before, after, rfl, isDecoded_decodeLossy _, isDecoded_decodeLossy _⟩)

theorem exists_of_decodeLossy_plain {octets : List UInt8} {b : UInt8} (hb : b.toNat < 0x80) {text more : List Char}
    (h : decodeLossy octets = text ++ Char.ofNat b.toNat :: more) :
    ∃ before after, octets = before ++ b :: after ∧ decodeLossy before = text ∧ decodeLossy after = more := by
  obtain ⟨before, after, hoctets, hbefore, hafter⟩ := (isDecoded_plain_iff hb).mp (isDecoded_iff.mpr h)
  exact ⟨before, after, hoctets, isDecoded_iff.mp hbefore, isDecoded_iff.mp hafter⟩

/-- A character that does not replace others is read from its own octets. -/
theorem IsDecoded.of_cons {octets : List UInt8} {c : Char} {text : List Char} (h : IsDecoded octets (c :: text)) (hc : c ≠ replacement) :
    ∃ rest, octets = String.utf8EncodeChar c ++ rest ∧ IsDecoded rest text := by
  cases h with
  | character _ hrest => exact ⟨_, rfl, hrest⟩
  | illFormed => exact absurd rfl hc

/-- A text without replacements is that of the octets that encode it, and of no others. -/
theorem IsDecoded.eq_encode {octets : List UInt8} {text : List Char} (h : IsDecoded octets text) (hno : replacement ∉ text) :
    octets = encode text := by
  induction h with
  | nil => rfl
  | character c _ ih =>
    rw [encode_cons, ← ih fun hmem => hno (List.mem_cons_of_mem _ hmem)]
  | illFormed => exact absurd List.mem_cons_self hno

/-- A text begins with characters that replace nothing just if the octets begin with theirs. -/
theorem prefix_decodeLossy_iff {mark : List Char} (hno : replacement ∉ mark) {octets : List UInt8} :
    mark <+: decodeLossy octets ↔ encode mark <+: octets := by
  constructor
  · rintro ⟨more, hmore⟩
    have h := isDecoded_iff.mpr hmore.symm
    clear hmore
    induction mark generalizing octets with
    | nil => exact List.nil_prefix
    | cons c mark ih =>
      obtain ⟨rest, rfl, hrest⟩ := h.of_cons fun hc => hno (hc ▸ List.mem_cons_self)
      rw [encode_cons, List.prefix_append_right_inj]
      exact ih (fun hmem => hno (List.mem_cons_of_mem _ hmem)) hrest
  · rintro ⟨rest, rfl⟩
    exact ⟨decodeLossy rest, (reads_encode mark rest).1.symm⟩

end Colloquy.Utf8
