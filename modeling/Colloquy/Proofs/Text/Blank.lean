import Colloquy.Text.Blank

/-!
# White space

Classes of characters that have nothing in common, told from their ranges, and what trimming leaves of a text.
-/

namespace Colloquy.Text

namespace Ranges

variable {a b : Ranges} {c : Char}

theorem contains_iff : a.contains c = true ↔ ∃ r ∈ a, r.1 ≤ c.toNat ∧ c.toNat ≤ r.2 := by
  simp [contains]

/-- Whether two classes have no range in common. -/
def areApart (a b : Ranges) : Bool :=
  a.all fun r => b.all fun s => Nat.blt r.2 s.1 || Nat.blt s.2 r.1

theorem not_contains_of_areApart (h : areApart a b = true) (hc : a.contains c = true) : b.contains c = false := by
  obtain ⟨r, hr, hfirst, hlast⟩ := contains_iff.mp hc
  refine Bool.eq_false_iff.mpr fun hb => ?_
  obtain ⟨s, hs, hfirst', hlast'⟩ := contains_iff.mp hb
  have happart := List.all_eq_true.mp (List.all_eq_true.mp h r hr) s hs
  simp only [Bool.or_eq_true, Nat.blt_eq] at happart
  omega

end Ranges

/-- Trimming takes from a text that starts with no blank only what follows its last character that is no blank. -/
theorem trim_append_cons {text rest : List Char} {m : Char} (hm : isBlank m = false)
    (hstart : trimStart (text ++ m :: rest) = text ++ m :: rest) : ∃ tail ⊆ rest, trim (text ++ m :: rest) = text ++ m :: tail := by
  refine ⟨(rest.reverse.dropWhile isBlank).reverse, fun c hc => ?_, ?_⟩
  · have hmem := (List.dropWhile_sublist isBlank).subset (List.mem_reverse.mp hc)
    exact List.mem_reverse.mp hmem
  · rw [trim, hstart, trimStart, List.reverse_append, List.reverse_cons, List.append_assoc, List.dropWhile_append]
    split <;> simp_all

end Colloquy.Text
