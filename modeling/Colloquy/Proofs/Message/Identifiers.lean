import Mathlib.Tactic.IntervalCases
import Mathlib.Data.List.Basic
import Colloquy.Uuid

/-!
# Identifiers there and back

An identifier is read as it was written (`Uuid.read_toText`): the digits are those of its number in base sixteen, the highest first, and
of the four forms that are read a written one has that of five groups.
-/

namespace Colloquy

theorem Text.hexValue?_digitChar {d : Nat} (hd : d < 16) : Text.hexValue? (Nat.digitChar d) = some d := by
  interval_cases d <;> rfl

namespace Uuid

/-- The first digits are those of what is left of the number once it is divided by the powers of the others. -/
theorem foldlM_digits (n : Nat) {k : Nat} (hk : k ≤ 32) (hn : n < 16 ^ 32) :
    ((List.range k).map fun i => Nat.digitChar (n / Nat.pow 16 (31 - i) % 16)).foldlM
      (fun n d => (Text.hexValue? d).map (n * 16 + ·)) 0 = some (n / 16 ^ (32 - k)) := by
  induction k with
  | zero =>
    rw [Nat.sub_zero, Nat.div_eq_of_lt hn]
    rfl
  | succ k ih =>
    have hpow : 16 ^ (32 - k) = 16 ^ (31 - k) * 16 := by
      rw [← Nat.pow_succ]
      congr 1
      omega
    have hstep : n / 16 ^ (32 - k) * 16 + n / 16 ^ (31 - k) % 16 = n / 16 ^ (31 - k) := by
      rw [hpow, ← Nat.div_div_eq_div_mul, Nat.mul_comm]
      exact Nat.div_add_mod _ 16
    rw [List.range_succ, List.map_append, List.foldlM_append, ih (by omega)]
    have hdigit := Text.hexValue?_digitChar (Nat.mod_lt (n / Nat.pow 16 (31 - k)) (by decide : 0 < 16))
    have hlast : 31 - k = 32 - (k + 1) := by omega
    simp only [List.map_cons, List.map_nil, List.foldlM_cons, List.foldlM_nil, hdigit, Option.map_some, Option.bind_eq_bind,
      Option.bind_some, Option.pure_def, Option.bind_fun_some]
    rw [← hlast]
    exact congrArg some hstep

theorem ofDigits?_digits (u : Uuid) : ofDigits? u.digits = some u := by
  have hn : u.value.val < 16 ^ 32 := u.value.isLt
  have hfold := foldlM_digits u.value.val (Nat.le_refl 32) hn
  rw [Nat.sub_self, Nat.pow_zero, Nat.div_one] at hfold
  have hlength : u.digits.length = 32 := by rw [digits, List.length_map, List.length_range]
  rw [ofDigits?, if_pos hlength, digits, hfold, Option.map_some, ofNat]
  congr
  exact Nat.mod_eq_of_lt u.value.isLt

/-- The five groups of a written identifier hold its digits. -/
theorem ofGroups?_print (u : Uuid) : ofGroups? u.print = some u := by
  have hgroups : u.print.length = 36 ∧ [8, 13, 18, 23].all (fun i => u.print[i]? = some '-') := ⟨rfl, rfl⟩
  have hdigits : u.print.take 8 ++ (u.print.drop 9).take 4 ++ (u.print.drop 14).take 4 ++ (u.print.drop 19).take 4 ++ u.print.drop 24 =
      u.digits := rfl
  rw [ofGroups?, if_pos hgroups, hdigits, ofDigits?_digits]

/-- A written identifier stands bare: its first character opens no braces and no URN. -/
theorem unwrap_print (u : Uuid) : unwrap u.print = (u.print, 0, true) := by
  have hfirst {d : Nat} (hd : d < 16) : Nat.digitChar d ≠ '{' ∧ (Nat.digitChar d).toLower ≠ 'u' := by
    interval_cases d <;> decide
  obtain ⟨c, later, hprint, hbrace, hscheme⟩ : ∃ c later, u.print = c :: later ∧ c ≠ '{' ∧ c.toLower ≠ 'u' :=
    ⟨_, _, rfl, hfirst (Nat.mod_lt _ (by decide))⟩
  rw [hprint]
  unfold unwrap
  split
  next heq => exact absurd (List.cons.inj heq).1 hbrace
  next =>
    have hurn : ¬((c :: later).take urn.length).map Char.toLower = urn := fun h => hscheme (List.cons.inj h).1
    exact if_neg hurn

/-- An identifier is read as it was written. -/
theorem read_toText (u : Uuid) : read u.toText = .ok u := by
  have hlength : ¬u.print.length = 32 := by
    have : u.print.length = 36 := rfl
    omega
  rw [read, toText, String.toList_ofList, unwrap_print]
  dsimp only
  rw [if_neg fun h => hlength h.2, ofGroups?_print]

end Uuid

end Colloquy
