import Colloquy.Proofs.Json.Layouts
import Colloquy.Proofs.Json.Spelling

/-!
# Values there and back

A value is read as it was written (`value_written`), in whatever layout and whatever follows it, provided that it has no doubles and that
its containers lie no deeper in one another than the reader goes (`Exact`).
-/

namespace Colloquy.Json

/-- The numbers of a value are whole numbers of 64 bits, and at most `depth` of its arrays and objects lie inside one another. -/
inductive Exact : (depth : Nat) → Json → Prop where
  | null {depth : Nat} : Exact depth .null
  | bool {depth : Nat} (b : Bool) : Exact depth (.bool b)
  | int {depth : Nat} {i : Int} (hlow : -0x8000000000000000 ≤ i) (hhigh : i ≤ 0xFFFFFFFFFFFFFFFF) : Exact depth (.num (.int i))
  | str {depth : Nat} (s : String) : Exact depth (.str s)
  | arr {depth : Nat} {vs : List Json} (h : ∀ v ∈ vs, Exact depth v) : Exact (depth + 1) (.arr vs)
  | obj {depth : Nat} {fs : List (String × Json)} (h : ∀ f ∈ fs, Exact depth f.2) : Exact (depth + 1) (.obj fs)

variable {depth : Nat} {v : Json} {rest : List Char}

/-- A written number starts with a minus or a digit. -/
theorem printNumber_cons (i : Int) : ∃ c later, printNumber (.int i) = c :: later ∧ (c = '-' ∨ isDigit c) := by
  by_cases hneg : i < 0
  · exact ⟨_, _, if_pos hneg, .inl rfl⟩
  · cases hdigits : Nat.toDigits 10 i.natAbs with
    | nil => exact absurd hdigits Nat.toDigits_ne_nil
    | cons c later =>
      refine ⟨c, later, (if_neg hneg).trans hdigits, .inr ?_⟩
      exact (toDigits_spec i.natAbs).1 c (by rw [hdigits]; exact List.mem_cons_self)

theorem isSpace_of_startsNumber {c : Char} (hc : c = '-' ∨ isDigit c) : isSpace c = false := by
  simp [isSpace, startsNumber_ne hc]

/-- What is written of a value starts neither with a space nor with the end of an array. -/
theorem Exact.write_cons (h : Exact depth v) (l : Layout) (level : Nat) :
    ∃ c later, writeAt l level v = c :: later ∧ isSpace c = false ∧ c ≠ ']' := by
  cases h with
  | null => exact ⟨_, _, rfl, by decide, by decide⟩
  | bool b => cases b <;> exact ⟨_, _, rfl, by decide, by decide⟩
  | @int _ i hlow hhigh =>
    obtain ⟨c, later, hprint, hc⟩ := printNumber_cons i
    exact ⟨c, later, hprint, isSpace_of_startsNumber hc, startsNumber_ne hc (by decide)⟩
  | str s => exact ⟨_, _, rfl, by decide, by decide⟩
  | @arr _ vs h => cases vs <;> exact ⟨'[', _, rfl, by decide, by decide⟩
  | @obj _ fs h => cases fs <;> exact ⟨'{', _, rfl, by decide, by decide⟩

/-- A comma or the end of a container is no part of a number. -/
theorem endsNumber_cons {c : Char} (hc : c ∈ [',', ']', '}']) (rest : List Char) : EndsNumber (c :: rest) := by
  intro d hd
  cases Option.some.inj hd
  have hc' : c = ',' ∨ c = ']' ∨ c = '}' := by simpa using hc
  rcases hc' with rfl | rfl | rfl <;> decide

/-- A space is no part of a number either. -/
theorem endsNumber_blank {spaces : List Char} (hspaces : IsBlank spaces) (hrest : EndsNumber rest) : EndsNumber (spaces ++ rest) := by
  cases spaces with
  | nil => exact hrest
  | cons c later =>
    intro d hd
    cases Option.some.inj hd
    have hc : c = ' ' ∨ c = '\n' ∨ c = '\t' ∨ c = '\r' := by simpa [isSpace, or_assoc] using hspaces c List.mem_cons_self
    rcases hc with rfl | rfl | rfl | rfl <;> decide

section Written

variable (l : Layout) (level : Nat)

theorem endsNumber_writeItems (vs : List Json) (rest : List Char) : EndsNumber (writeItems l level vs ++ rest) := by
  cases vs with
  | nil =>
    rw [writeItems, List.append_assoc]
    exact endsNumber_blank (l.isBlank_close level) (endsNumber_cons (by decide) _)
  | cons v vs => exact endsNumber_cons (by decide) _

theorem endsNumber_writeFields (fs : List (String × Json)) (rest : List Char) : EndsNumber (writeFields l level fs ++ rest) := by
  cases fs with
  | nil =>
    rw [writeFields, List.append_assoc]
    exact endsNumber_blank (l.isBlank_close level) (endsNumber_cons (by decide) _)
  | cons f fs => exact endsNumber_cons (by decide) _

end Written

section Spaces

variable {spaces : List Char} (hspaces : IsBlank spaces)

include hspaces

theorem nextItem_first {c : Char} {later : List Char} (hspace : isSpace c = false) (hclose : c ≠ ']') :
    nextItem true (spaces ++ c :: later) = .ok (true, c :: later) := by
  unfold nextItem
  rw [skipSpaces_blank hspaces, skipSpaces_cons hspace]
  split
  next h => cases h
  next h => exact absurd (List.cons.inj h).1 hclose
  next h =>
    rw [if_pos rfl, ← h]

theorem nextItem_comma {c : Char} {later : List Char} (hspace : isSpace c = false) (hclose : c ≠ ']') :
    nextItem false (',' :: (spaces ++ c :: later)) = .ok (true, c :: later) := by
  unfold nextItem
  rw [skipSpaces_cons (by decide)]
  split
  next h => cases h
  next h => exact absurd (List.cons.inj h).1 (by decide)
  next h =>
    obtain ⟨rfl, rfl⟩ := List.cons.inj h
    rw [if_neg (by decide), if_pos rfl, skipSpaces_blank hspaces, skipSpaces_cons hspace]
    split
    next h => cases h
    next h => exact absurd (List.cons.inj h).1 hclose
    · rfl

theorem nextItem_close (first : Bool) : nextItem first (spaces ++ ']' :: rest) = .ok (false, rest) := by
  unfold nextItem
  rw [skipSpaces_blank hspaces]
  rfl

theorem nextKey_first (key : List Char) : nextKey true (spaces ++ '"' :: key) = .ok (true, key) := by
  unfold nextKey
  rw [skipSpaces_blank hspaces]
  rfl

theorem nextKey_comma (key : List Char) : nextKey false (',' :: (spaces ++ '"' :: key)) = .ok (true, key) := by
  unfold nextKey
  rw [skipSpaces_cons (by decide)]
  split
  next h => cases h
  next h => exact absurd (List.cons.inj h).1 (by decide)
  next h =>
    obtain ⟨rfl, rfl⟩ := List.cons.inj h
    rw [if_neg (by decide), if_pos rfl, skipSpaces_blank hspaces]
    rfl

theorem nextKey_close (first : Bool) : nextKey first (spaces ++ '}' :: rest) = .ok (false, rest) := by
  unfold nextKey
  rw [skipSpaces_blank hspaces]
  rfl

end Spaces

/-- A value is read as it was written, in any layout. -/
def IsReadAsWritten (depth : Nat) (v : Json) : Prop :=
  ∀ (l : Layout) (level : Nat) (rest : List Char), EndsNumber rest → value depth (writeAt l level v ++ rest) = .ok (v, rest)

section Containers

variable (l : Layout) (level : Nat)

theorem items_written {vs : List Json} (hexact : ∀ v ∈ vs, Exact depth v) (hread : ∀ v ∈ vs, IsReadAsWritten depth v)
    (rest : List Char) : Items (value depth) false (writeItems l level vs ++ rest) vs rest := by
  induction vs with
  | nil =>
    rw [writeItems, List.append_assoc]
    exact .close (nextItem_close (l.isBlank_close level) false)
  | cons v vs ih =>
    obtain ⟨c, later, hwrite, hspace, hclose⟩ := (hexact v List.mem_cons_self).write_cons l (level + 1)
    have hitem := hread v List.mem_cons_self l (level + 1) (writeItems l level vs ++ rest) (endsNumber_writeItems l level vs rest)
    have hnext : nextItem false (writeItems l level (v :: vs) ++ rest) =
        .ok (true, writeAt l (level + 1) v ++ (writeItems l level vs ++ rest)) := by
      rw [writeItems, List.cons_append, List.append_assoc, List.append_assoc, hwrite]
      exact nextItem_comma (l.isBlank_item level) hspace hclose
    exact .next hnext hitem (ih (fun w hw => hexact w (List.mem_cons_of_mem _ hw)) fun w hw => hread w (List.mem_cons_of_mem _ hw))

/-- A key is read as it was written, up to its value. -/
theorem key_written (k : String) (rest : List Char) :
    stringBody (k.toList.flatMap escapeChar ++ '"' :: ':' :: rest) = .ok (k, ':' :: rest) ∧ colon (':' :: rest) = .ok rest := by
  rw [stringBody_printed, String.ofList_toList]
  exact ⟨rfl, rfl⟩

/-- The value of a field is read over the spaces after the colon. -/
theorem fieldValue_written (hread : IsReadAsWritten depth v) {after : List Char} (hafter : EndsNumber after) :
    value depth (l.colon ++ (writeAt l level v ++ after)) = .ok (v, after) := by
  rw [← value_skipSpaces, skipSpaces_blank l.isBlank_colon, value_skipSpaces]
  exact hread l level after hafter

theorem fields_written {fs : List (String × Json)} (hread : ∀ f ∈ fs, IsReadAsWritten depth f.2) (rest : List Char) :
    Fields (value depth) false (writeFields l level fs ++ rest) fs rest := by
  induction fs with
  | nil =>
    rw [writeFields, List.append_assoc]
    exact .close (nextKey_close (l.isBlank_close level) false)
  | cons f fs ih =>
    obtain ⟨k, v⟩ := f
    have hvalue := fieldValue_written l (level + 1) (hread _ List.mem_cons_self) (endsNumber_writeFields l level fs rest)
    obtain ⟨hkey, hcolon⟩ := key_written k (l.colon ++ (writeAt l (level + 1) v ++ (writeFields l level fs ++ rest)))
    rw [writeFields, printString]
    simp only [List.cons_append, List.append_assoc, List.nil_append]
    exact .next (nextKey_comma (l.isBlank_item level) _) hkey hcolon hvalue (ih fun g hg => hread g (List.mem_cons_of_mem _ hg))

end Containers

/-- A value that is exact is read as it was written. -/
theorem value_written (h : Exact depth v) : IsReadAsWritten depth v := by
  induction h with
  | null => exact fun l level rest _ => value_eq_ok.mpr (.null rfl)
  | bool b =>
    cases b
    · exact fun l level rest _ => value_eq_ok.mpr (.isFalse rfl)
    · exact fun l level rest _ => value_eq_ok.mpr (.isTrue rfl)
  | @int _ i hlow hhigh =>
    intro l level rest hrest
    obtain ⟨c, later, hprint, hc⟩ := printNumber_cons i
    have hnumber := number_printed hrest hlow hhigh
    rw [hprint, List.cons_append] at hnumber
    rw [writeAt_num, hprint]
    exact value_eq_ok.mpr (.number (skipSpaces_cons (isSpace_of_startsNumber hc) _) hc hnumber)
  | str s =>
    intro l level rest _
    have hstring := stringBody_printed s.toList rest
    rw [String.ofList_toList] at hstring
    refine value_eq_ok.mpr (.string ?_ hstring)
    rw [writeAt_str, printString, List.append_assoc]
    rfl
  | @arr _ vs h ih =>
    intro l level rest _
    cases vs with
    | nil => exact value_eq_ok.mpr (.array rfl (.close rfl))
    | cons v vs =>
      obtain ⟨c, later, hwrite, hspace, hclose⟩ := (h v List.mem_cons_self).write_cons l (level + 1)
      have hitem := ih v List.mem_cons_self l (level + 1) (writeItems l level vs ++ rest) (endsNumber_writeItems l level vs rest)
      have hitems := items_written l level (fun w hw => h w (List.mem_cons_of_mem _ hw)) (fun w hw => ih w (List.mem_cons_of_mem _ hw)) rest
      have hnext : nextItem true (l.item level ++ (writeAt l (level + 1) v ++ (writeItems l level vs ++ rest))) =
          .ok (true, writeAt l (level + 1) v ++ (writeItems l level vs ++ rest)) := by
        rw [hwrite]
        exact nextItem_first (l.isBlank_item level) hspace hclose
      rw [writeAt, List.cons_append, List.append_assoc, List.append_assoc]
      exact value_eq_ok.mpr (.array rfl (.next hnext hitem hitems))
  | @obj _ fs h ih =>
    intro l level rest _
    cases fs with
    | nil => exact value_eq_ok.mpr (.object rfl (.close rfl))
    | cons f fs =>
      obtain ⟨k, v⟩ := f
      have hvalue := fieldValue_written l (level + 1) (ih _ List.mem_cons_self) (endsNumber_writeFields l level fs rest)
      have hfields := fields_written l level (fun g hg => ih g (List.mem_cons_of_mem _ hg)) rest
      obtain ⟨hkey, hcolon⟩ := key_written k (l.colon ++ (writeAt l (level + 1) v ++ (writeFields l level fs ++ rest)))
      rw [writeAt, printString]
      simp only [List.cons_append, List.append_assoc, List.nil_append]
      exact value_eq_ok.mpr (.object rfl (.next (nextKey_first (l.isBlank_item level) _) hkey hcolon hvalue hfields))

/-- The whole text of a value, in any layout. -/
theorem all_writeAt (h : Exact depth v) (l : Layout) (level : Nat) : Reader.all (value depth) (writeAt l level v) = .ok v := by
  have hread := value_written h l level [] nofun
  rw [List.append_nil] at hread
  exact bind_eq_ok.mpr ⟨_, hread, rfl⟩

theorem all_print (h : Exact depth v) : Reader.all (value depth) (print v) = .ok v := by
  rw [print_eq 0]
  exact all_writeAt h .tight 0

theorem read_compact (h : Exact depthLimit v) : Json.read v.compact = .ok v := by
  rw [Json.read, compact, String.toList_ofList]
  exact all_print h

theorem all_pretty (h : Exact depth v) : Reader.all (value depth) (pretty v) = .ok v := by
  rw [pretty, prettyAt_eq]
  exact all_writeAt h .indented 0

/-! ## Control characters -/

/-- A text without control characters. -/
def IsPlain (text : List Char) : Prop :=
  text.all (0x20 ≤ ·.toNat) = true

instance (text : List Char) : Decidable (IsPlain text) :=
  inferInstanceAs (Decidable (text.all _ = true))

theorem IsPlain.toNat {text : List Char} (h : IsPlain text) {c : Char} (hc : c ∈ text) : 0x20 ≤ c.toNat :=
  of_decide_eq_true (List.all_eq_true.mp h c hc)

theorem isPlain_append {a b : List Char} : IsPlain (a ++ b) ↔ IsPlain a ∧ IsPlain b := by
  simp [IsPlain, List.all_append]

theorem isPlain_cons {c : Char} (hc : 0x20 ≤ c.toNat) {text : List Char} : IsPlain (c :: text) ↔ IsPlain text := by
  simp [IsPlain, hc]

theorem isPlain_printString (text : List Char) : IsPlain (printString text) :=
  List.all_eq_true.mpr fun _ hc => decide_eq_true (toNat_of_mem_printString hc)

theorem isPlain_toDigits (m : Nat) : IsPlain (Nat.toDigits 10 m) := by
  refine List.all_eq_true.mpr fun c hc => decide_eq_true ?_
  have hdigit := (toDigits_spec m).1 c hc
  simp only [isDigit, Bool.and_eq_true, decide_eq_true_eq] at hdigit
  exact Nat.le_trans (by decide) (UInt32.le_iff_toNat_le.mp (Char.le_def.mp hdigit.1))

theorem isPlain_printItems {vs : List Json} (h : ∀ v ∈ vs, IsPlain (print v)) : IsPlain (printItems vs) := by
  induction vs with
  | nil => rfl
  | cons v vs ih =>
    rw [printItems, isPlain_append, isPlain_cons (by decide)]
    exact ⟨h v List.mem_cons_self, ih fun w hw => h w (List.mem_cons_of_mem _ hw)⟩

theorem isPlain_printFields {fs : List (String × Json)} (h : ∀ f ∈ fs, IsPlain (print f.2)) : IsPlain (printFields fs) := by
  induction fs with
  | nil => rfl
  | cons f fs ih =>
    rw [printFields, isPlain_append, isPlain_append, isPlain_cons (by decide), isPlain_cons (by decide)]
    exact ⟨⟨isPlain_printString _, h _ List.mem_cons_self⟩, ih fun g hg => h g (List.mem_cons_of_mem _ hg)⟩

/-- What is written of a value holds no control character. -/
theorem isPlain_print (h : Exact depth v) : IsPlain (print v) := by
  induction h with
  | null => decide
  | bool b => cases b <;> decide
  | @int _ i =>
    rw [print, printNumber]
    split
    · exact (isPlain_cons (by decide)).mpr (isPlain_toDigits _)
    · exact isPlain_toDigits _
  | str s => exact isPlain_printString _
  | @arr _ vs _ ih =>
    cases vs with
    | nil => decide
    | cons v vs =>
      rw [print, isPlain_append, isPlain_cons (by decide)]
      exact ⟨ih v List.mem_cons_self, isPlain_printItems fun w hw => ih w (List.mem_cons_of_mem _ hw)⟩
  | @obj _ fs _ ih =>
    cases fs with
    | nil => decide
    | cons f fs =>
      rw [print, isPlain_append, isPlain_append, isPlain_cons (by decide), isPlain_cons (by decide)]
      exact ⟨⟨isPlain_printString _, ih _ List.mem_cons_self⟩, isPlain_printFields fun g hg => ih g (List.mem_cons_of_mem _ hg)⟩

end Colloquy.Json
