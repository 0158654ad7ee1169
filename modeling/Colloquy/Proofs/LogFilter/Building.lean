import Colloquy.Proofs.LogFilter.Directives

/-!
# What a filter asks for

A filter that is built from entries has, for each target, the last directive that was added for it, and the last to be
added are the bare level `warn` and, for a verbose log, `debug` for the library's own targets. These replace what the
entries ask for instead of raising it, so the filter can ask for less than they did (`filter_replaces_levels`).
-/

namespace Colloquy

namespace LogDirective

/-- Without spans and fields. -/
structure IsSimple (d : LogDirective) : Prop where
  span : d.span = none
  field : d.field = none

/-- The last of the directives for its target. -/
def IsLast (d : LogDirective) (ds : List LogDirective) : Prop :=
  ∃ before after, ds = before ++ d :: after ∧ ∀ e ∈ after, e.target ≠ d.target

variable {d e : LogDirective} {ds : List LogDirective}

theorem IsWritten.isSimple {text : List Char} (h : d.IsWritten text) : d.IsSimple := by
  cases h <;> exact ⟨rfl, rfl⟩

theorem IsSimple.isPlain (h : d.IsSimple) : d.isPlain = true := by
  simp [LogDirective.isPlain, h.span, h.field]

theorem IsSimple.isContextual (h : d.IsSimple) : d.isContextual = false := by
  simp [LogDirective.isContextual, h.span, h.field]

/-- Without spans and fields, the target is the scope. -/
theorem IsSimple.sameScope_iff (hd : d.IsSimple) (he : e.IsSimple) : d.sameScope e = true ↔ d.target = e.target := by
  simp [sameScope, hd.span, hd.field, he.span, he.field]

theorem IsLast.mem (h : d.IsLast ds) : d ∈ ds := by
  obtain ⟨before, after, rfl, -⟩ := h
  exact List.mem_append_right before List.mem_cons_self

theorem isLast_cons : e.IsLast (d :: ds) ↔ e.IsLast ds ∨ (e = d ∧ ∀ d' ∈ ds, d'.target ≠ e.target) := by
  constructor
  · rintro ⟨before, after, heq, hafter⟩
    cases before with
    | nil =>
      obtain ⟨rfl, rfl⟩ := List.cons.inj heq
      exact .inr ⟨rfl, hafter⟩
    | cons _ before =>
      obtain ⟨rfl, rfl⟩ := List.cons.inj heq
      exact .inl ⟨before, after, rfl, hafter⟩
  · rintro (⟨before, after, rfl, hafter⟩ | ⟨rfl, hafter⟩)
    · exact ⟨d :: before, after, rfl, hafter⟩
    · exact ⟨[], ds, rfl, hafter⟩

/-- Where no target occurs twice, every directive is the last for its target. -/
theorem isLast_iff_mem (h : (ds.map (·.target)).Nodup) : e.IsLast ds ↔ e ∈ ds := by
  refine ⟨IsLast.mem, fun he => ?_⟩
  obtain ⟨before, after, rfl⟩ := List.append_of_mem he
  refine ⟨before, after, rfl, fun d hd heq => ?_⟩
  rw [List.map_append, List.map_cons, List.nodup_append, List.nodup_cons] at h
  exact h.2.1.1 (List.mem_map.mpr ⟨d, hd, heq⟩)

end LogDirective

namespace LogFilter

open LogDirective

variable {f : LogFilter} {d e : LogDirective} {ds : List LogDirective}

/-! ## Adding directives -/

/-- What is put into a list takes the place of what has the same scope. -/
theorem mem_put : e ∈ put ds d ↔ e = d ∨ (e ∈ ds ∧ d.sameScope e = false) := by
  unfold put
  split
  · rename_i hany
    obtain ⟨x, hx, hscope⟩ := List.any_eq_true.mp hany
    rw [List.mem_map]
    constructor
    · rintro ⟨y, hy, rfl⟩
      cases hsame : d.sameScope y <;> simp [hsame, hy]
    · rintro (rfl | ⟨he, hother⟩)
      · exact ⟨x, hx, if_pos hscope⟩
      · exact ⟨e, he, by simp [hother]⟩
  · rename_i hnone
    have hother : ∀ x ∈ ds, d.sameScope x = false := by simpa using hnone
    rw [List.mem_append, List.mem_singleton, or_comm]
    exact or_congr_right (iff_self_and.mpr fun he => hother e he)

/-- A filter without spans and fields, by what is in it. -/
structure Holds (f : LogFilter) (P : LogDirective → Prop) : Prop where
  contextual : f.contextual = []
  mem_plain : ∀ e, e ∈ f.plain ↔ P e
  isSimple : ∀ e, P e → e.IsSimple

namespace Holds

variable {P : LogDirective → Prop}

theorem congr {Q : LogDirective → Prop} (h : f.Holds P) (hPQ : ∀ e, P e ↔ Q e) : f.Holds Q :=
  ⟨h.contextual, fun e => (h.mem_plain e).trans (hPQ e), fun e he => h.isSimple e ((hPQ e).mpr he)⟩

/-- A directive that is added takes the place of the one for its target. -/
theorem add (h : f.Holds P) (hd : d.IsSimple) : (f.add d).Holds fun e => e = d ∨ (P e ∧ d.target ≠ e.target) where
  contextual := by simp [LogFilter.add, hd.isContextual, h.contextual]
  mem_plain e := by
    have hplain : (f.add d).plain = put f.plain d := if_pos hd.isPlain
    rw [hplain, mem_put, h.mem_plain]
    refine or_congr_right (and_congr_right fun he => ?_)
    rw [← Bool.not_eq_true, hd.sameScope_iff (h.isSimple e he)]
  isSimple := by
    rintro e (rfl | ⟨he, -⟩)
    · exact hd
    · exact h.isSimple e he

/-- Of directives that are added one after the other, the last for each target stays, and what was there for other targets. -/
theorem foldl_add (h : f.Holds P) (hds : ∀ d ∈ ds, d.IsSimple) :
    (ds.foldl LogFilter.add f).Holds fun e => e.IsLast ds ∨ (P e ∧ ∀ d ∈ ds, d.target ≠ e.target) := by
  induction ds generalizing f P with
  | nil => exact h.congr fun e => by simp [IsLast]
  | cons d ds ih =>
    have hnext := ih (h.add (hds d List.mem_cons_self)) fun d' hd' => hds d' (List.mem_cons_of_mem d hd')
    refine hnext.congr fun e => ?_
    rw [isLast_cons, List.forall_mem_cons, or_and_right, and_assoc, or_assoc]

end Holds

/-! ## Filters that are built -/

/-- The bare directive that every filter ends up with. -/
def bareWarn : LogDirective :=
  { target := none, level := .warn }

/-- What a verbose log asks for at one of the library's own targets. -/
def ownDebug (target : String) : LogDirective :=
  { target := some target, level := .debug }

/-- Whether a directive is for one of the library's own targets. -/
def IsOwn (d : LogDirective) : Prop :=
  ∃ t ∈ ownTargets, d.target = some t

instance (d : LogDirective) : Decidable (IsOwn d) :=
  inferInstanceAs (Decidable (∃ t ∈ ownTargets, d.target = some t))

/-- What is in a filter that is built from entries. -/
def IsKept (verbose : Bool) (asked : List LogDirective) (e : LogDirective) : Prop :=
  e = bareWarn ∨ (verbose = true ∧ ∃ t ∈ ownTargets, e = ownDebug t) ∨
    (e.IsLast asked ∧ e.target ≠ none ∧ ¬(verbose = true ∧ IsOwn e))

theorem holds_floor (hds : ∀ d ∈ ds, d.IsSimple) :
    ((ds.foldl LogFilter.add {}).add bareWarn).Holds fun e => e = bareWarn ∨ (e.IsLast ds ∧ e.target ≠ none) := by
  have hempty : ({} : LogFilter).Holds fun _ => False := ⟨rfl, fun e => by simp, fun e he => he.elim⟩
  refine ((hempty.foldl_add hds).add ⟨rfl, rfl⟩).congr fun e => ?_
  simp [bareWarn, eq_comm]

theorem holds_build (verbose : Bool) (entries : List Entry) :
    (build verbose (some (written entries))).Holds (IsKept verbose (entries.map (·.directive))) := by
  have hsimple : ∀ d ∈ entries.map (·.directive), d.IsSimple := List.forall_mem_map.mpr fun e _ => e.isWritten.isSimple
  have hfloor := holds_floor hsimple
  have hbuild : build verbose (some (written entries)) =
      if verbose then (ownTargets.map ownDebug).foldl LogFilter.add
        (((entries.map (·.directive)).foldl LogFilter.add {}).add bareWarn)
      else ((entries.map (·.directive)).foldl LogFilter.add {}).add bareWarn := by
    rw [← requested_written entries]
    rfl
  rw [hbuild]
  cases verbose with
  | false => exact hfloor.congr fun e => by simp [IsKept]
  | true =>
    have hown : ∀ d ∈ ownTargets.map ownDebug, d.IsSimple := List.forall_mem_map.mpr fun t _ => ⟨rfl, rfl⟩
    refine (hfloor.foldl_add hown).congr fun e => ?_
    have hother : (∀ d ∈ ownTargets.map ownDebug, d.target ≠ e.target) ↔ ¬IsOwn e := by
      rw [List.forall_mem_map]
      simp [IsOwn, ownDebug, eq_comm]
    have hwarn : e = bareWarn → ¬IsOwn e := by
      rintro rfl ⟨t, -, ht⟩
      exact nomatch ht
    have hmem : e ∈ ownTargets.map ownDebug ↔ ∃ t ∈ ownTargets, e = ownDebug t := by simp only [List.mem_map, eq_comm]
    rw [isLast_iff_mem (by decide), hother, hmem, or_and_right, and_iff_left_of_imp hwarn, or_left_comm, and_assoc]
    simp [IsKept]

/-! ## Levels that are lowered -/

/-- Whether a filter asks for no less at the target of a directive than the directive does. -/
def Covers (f : LogFilter) (d : LogDirective) : Prop :=
  ∃ e ∈ f.plain, e.target = d.target ∧ d.level.verbosity ≤ e.level.verbosity

theorem not_covers_iff (he : e ∈ f.plain) (htarget : e.target = d.target)
    (honly : ∀ e' ∈ f.plain, e'.target = d.target → e'.level = e.level) :
    ¬f.Covers d ↔ e.level.verbosity < d.level.verbosity := by
  have hcovers : f.Covers d ↔ d.level.verbosity ≤ e.level.verbosity := by
    constructor
    · rintro ⟨e', he', htarget', hlevel⟩
      rwa [honly e' he' htarget'] at hlevel
    · exact fun hlevel => ⟨e, he, htarget, hlevel⟩
  rw [hcovers, Nat.not_le]

namespace IsKept

variable {verbose : Bool}

theorem eq_bareWarn (h : IsKept verbose ds e) (hbare : e.target = none) : e = bareWarn := by
  obtain heq | ⟨-, t, -, rfl⟩ | ⟨-, hsome, -⟩ := h
  · exact heq
  · exact nomatch hbare
  · exact absurd hbare hsome

theorem eq_ownDebug (h : IsKept true ds e) {t : String} (ht : t ∈ ownTargets) (htarget : e.target = some t) : e = ownDebug t := by
  obtain rfl | ⟨-, t', -, rfl⟩ | ⟨-, -, hother⟩ := h
  · exact nomatch htarget
  · exact congrArg ownDebug (Option.some.inj htarget)
  · exact absurd ⟨rfl, t, ht, htarget⟩ hother

end IsKept

/-- Exactly the bare levels above `warn` are lowered, and for a verbose log the levels above `debug` of the library's own targets. -/
theorem Holds.lowers_iff {verbose : Bool} (h : f.Holds (IsKept verbose ds)) (hd : d.IsLast ds) :
    ¬f.Covers d ↔ (d.target = none ∧ LogLevel.warn.verbosity < d.level.verbosity) ∨
      (verbose = true ∧ IsOwn d ∧ LogLevel.debug.verbosity < d.level.verbosity) := by
  by_cases hbare : d.target = none
  · have hown : ¬IsOwn d := by
      rintro ⟨t, -, ht⟩
      exact nomatch hbare.symm.trans ht
    have hwarn : bareWarn ∈ f.plain := (h.mem_plain _).mpr (.inl rfl)
    have honly : ∀ e ∈ f.plain, e.target = d.target → e.level = bareWarn.level := fun e he htarget =>
      congrArg level (((h.mem_plain e).mp he).eq_bareWarn (htarget.trans hbare))
    rw [not_covers_iff hwarn hbare.symm honly]
    simp [hbare, hown, bareWarn]
  · by_cases hown : verbose = true ∧ IsOwn d
    · obtain ⟨rfl, t, ht, htarget⟩ := hown
      have hdebug : ownDebug t ∈ f.plain := (h.mem_plain _).mpr (.inr (.inl ⟨rfl, t, ht, rfl⟩))
      have honly : ∀ e ∈ f.plain, e.target = d.target → e.level = (ownDebug t).level := fun e he heq =>
        congrArg level (((h.mem_plain e).mp he).eq_ownDebug ht (heq.trans htarget))
      rw [not_covers_iff hdebug htarget.symm honly]
      simp [hbare, show IsOwn d from ⟨t, ht, htarget⟩, ownDebug]
    · have hkept : d ∈ f.plain := (h.mem_plain d).mpr (.inr (.inr ⟨hd, hbare, hown⟩))
      have hcovers : f.Covers d := ⟨d, hkept, rfl, Nat.le_refl _⟩
      simp only [hcovers, not_true_eq_false, hbare, false_and, false_or, false_iff]
      exact fun hlow => hown ⟨hlow.1, hlow.2.1⟩

end LogFilter

open LogFilter

/-- Of the entries that a log filter is built from, the last for each target is kept as it is written, except that a bare level is
always `warn` in its place and, for a verbose log, `debug` in that of a level for one of the library's own targets; there is nothing
else in the filter. So exactly these ask for less than was written: a bare level above `warn`, and for a verbose log a level above
`debug` for an own target. -/
theorem filter_replaces_levels (verbose : Bool) (entries : List LogFilter.Entry) :
    (build verbose (some (written entries))).contextual = [] ∧
      (∀ e, e ∈ (build verbose (some (written entries))).plain ↔
        e = { target := none, level := .warn } ∨
          (verbose = true ∧ ∃ t ∈ ownTargets, e = { target := some t, level := .debug }) ∨
          (e.IsLast (entries.map (·.directive)) ∧ e.target ≠ none ∧ ¬(verbose = true ∧ IsOwn e))) ∧
      ∀ d, d.IsLast (entries.map (·.directive)) →
        (¬(build verbose (some (written entries))).Covers d ↔
          (d.target = none ∧ LogLevel.warn.verbosity < d.level.verbosity) ∨
            (verbose = true ∧ IsOwn d ∧ LogLevel.debug.verbosity < d.level.verbosity)) := by
  have h := holds_build verbose entries
  exact ⟨h.contextual, h.mem_plain, fun d hd => h.lowers_iff hd⟩

/-- A bare level that is asked for. -/
def bareDebug : LogFilter.Entry where
  text := "debug".toList
  directive := { target := none, level := .debug }
  isWritten := .level ⟨⟨'d', "ebug".toList, rfl, by decide +kernel⟩, by simp⟩ (by decide +kernel)

/-- A level for one of the library's own targets. -/
def tracedSession : LogFilter.Entry where
  text := "parley.session".toList ++ '=' :: "trace".toList
  directive := { target := some (String.ofList "parley.session".toList), level := .trace }
  isWritten := .both ⟨⟨'p', "arley.session".toList, rfl, by decide +kernel⟩, by simp⟩ (by decide +kernel)

/-- A level for somebody else's target. -/
def quietClient : LogFilter.Entry where
  text := "hyper".toList ++ '=' :: "error".toList
  directive := { target := some (String.ofList "hyper".toList), level := .error }
  isWritten := .both ⟨⟨'h', "yper".toList, rfl, by decide +kernel⟩, by simp⟩ (by decide +kernel)

/-- `debug` alone is lowered to `warn`, and for a verbose log `trace` at an own target to `debug`; the third entry is kept. -/
theorem debug_is_lowered :
    written [bareDebug, tracedSession, quietClient] = "debug,parley.session=trace,hyper=error" ∧
      (build false (some "debug")).plain = [{ target := none, level := .warn }] ∧
      ¬(build true (some (written [bareDebug, tracedSession, quietClient]))).Covers bareDebug.directive ∧
      ¬(build true (some (written [bareDebug, tracedSession, quietClient]))).Covers tracedSession.directive ∧
      quietClient.directive ∈ (build true (some (written [bareDebug, tracedSession, quietClient]))).plain := by
  obtain ⟨-, hplain, hlowers⟩ := filter_replaces_levels true [bareDebug, tracedSession, quietClient]
  have hbare : bareDebug.directive.IsLast [bareDebug.directive, tracedSession.directive, quietClient.directive] :=
    ⟨[], [tracedSession.directive, quietClient.directive], rfl, by decide⟩
  have htraced : tracedSession.directive.IsLast [bareDebug.directive, tracedSession.directive, quietClient.directive] :=
    ⟨[bareDebug.directive], [quietClient.directive], rfl, by decide⟩
  have hquiet : quietClient.directive.IsLast [bareDebug.directive, tracedSession.directive, quietClient.directive] :=
    ⟨[bareDebug.directive, tracedSession.directive], [], rfl, by decide⟩
  refine ⟨by decide, by decide +kernel, ?_, ?_, ?_⟩
  · exact (hlowers _ hbare).mpr (.inl ⟨rfl, by decide⟩)
  · exact (hlowers _ htraced).mpr (.inr ⟨rfl, by decide, by decide⟩)
  · exact (hplain _).mpr (.inr (.inr ⟨hquiet, by decide, by decide⟩))

end Colloquy
