import Colloquy.Proofs.Time.Calendar
import Colloquy.Proofs.Time.Digits

/-!
# Timestamps there and back

A timestamp as RFC 3339 allows it (`Writing`) is read as the moment that it tells (`Writing.read_text`), whatever its offset and however
many its decimals. What is written of an instant is such a timestamp, so that it is read as that instant (`read_print`).
-/

namespace Colloquy.Timestamp

open Json (bind_eq_ok)

/-! ## What RFC 3339 allows -/

/-- What a timestamp says of its clock: that it shows universal time, or how far it is from it. -/
inductive Zone where
  | universal (small : Bool)
  | offset (ahead : Bool) (hours minutes : Nat) (hours_lt : hours < 24) (minutes_lt : minutes < 60)

namespace Zone

/-- The text of a zone. -/
def text : Zone → List Char
  | universal small => [if small then 'z' else 'Z']
  | offset ahead hours minutes _ _ => (if ahead then '+' else '-') :: (padded 2 hours ++ ':' :: padded 2 minutes)

/-- How many seconds the clock is ahead of universal time. -/
def seconds : Zone → Int
  | universal _ => 0
  | offset ahead hours minutes _ _ => (if ahead then 1 else -1) * (hours * 3600 + minutes * 60 : Nat)

theorem seconds_bounds (z : Zone) : -86400 < z.seconds ∧ z.seconds < 86400 := by
  cases z with
  | universal => exact ⟨by simp only [seconds]; omega, by simp only [seconds]; omega⟩
  | offset ahead hours minutes hhours hminutes =>
    cases ahead with
    | true =>
      rw [seconds, if_pos rfl]
      omega
    | false =>
      rw [seconds, if_neg (by decide)]
      omega

/-- The text starts with a letter or a sign. -/
theorem text_eq_cons (z : Zone) : ∃ c after, z.text = c :: after ∧ Text.isBlank c = false ∧ isDigit c = false ∧ c ≠ '.' := by
  cases z with
  | universal small => cases small <;> exact ⟨_, _, rfl, by decide, by decide, by decide⟩
  | offset ahead => cases ahead <;> exact ⟨_, _, rfl, by decide, by decide, by decide⟩

theorem offset_text (z : Zone) : Timestamp.offset z.text = .ok (z.seconds, []) := by
  cases z with
  | universal small => cases small <;> rfl
  | offset ahead hours minutes hhours hminutes =>
    have hread := hoursMinutes_padded (show hours < 100 by omega) hminutes []
    rw [List.append_nil] at hread
    cases ahead with
    | true =>
      rw [text, Timestamp.offset, if_neg (by rw [if_pos rfl]; exact fun h => absurd (List.cons.inj h).1 (by decide)), if_pos rfl,
        if_neg (by decide), if_pos rfl, hread, seconds, if_pos rfl, Int.one_mul]
      rfl
    | false =>
      rw [text, Timestamp.offset, if_neg (by rw [if_neg (by decide)]; exact fun h => absurd (List.cons.inj h).1 (by decide)),
        if_neg (by decide), if_neg (by decide), if_pos (by decide), hread, seconds, if_neg (by decide), Int.neg_one_mul]
      rfl

end Zone

/-- A timestamp as RFC 3339 allows it: a year of four digits, any number of decimals or none, and any offset of hours and minutes. -/
structure Writing where
  date : Date
  hour : Nat
  minute : Nat
  second : Nat
  decimals : List Char
  between : Char
  zone : Zone
  isValid_date : date.isValid = true
  year_nonneg : 0 ≤ date.year
  year_le : date.year ≤ 9999
  hour_lt : hour < 24
  minute_lt : minute < 60
  second_lt : second < 60
  areDigits_decimals : AreDigits decimals
  between_mem : between ∈ ['T', 't', ' ']

namespace Writing

/-- The text of the timestamp. -/
def text (w : Writing) : List Char :=
  padded 4 w.date.year.toNat ++ '-' :: (padded 2 w.date.month ++ '-' :: (padded 2 w.date.day ++ w.between ::
    (padded 2 w.hour ++ ':' :: (padded 2 w.minute ++ ':' :: (padded 2 w.second ++ (fractionText w.decimals ++ w.zone.text))))))

/-- The moment of the timestamp: what its clock shows, less what that clock is ahead. -/
def instant (w : Writing) : Instant :=
  Instant.shift ⟨w.date.toDays, w.hour * 3600 + w.minute * 60 + w.second, nanosOf w.decimals⟩ (-w.zone.seconds)

theorem date_text (w : Writing) (rest : List Char) :
    Timestamp.date (padded 4 w.date.year.toNat ++ '-' :: (padded 2 w.date.month ++ '-' :: (padded 2 w.date.day ++ rest))) =
      .ok (w.date, rest) := by
  obtain ⟨hmonth1, hmonth12, hday1, hday31⟩ := Date.bounds_of_isValid w.isValid_date
  have hyear : ((w.date.year.toNat : Nat) : Int) = w.date.year := Int.toNat_of_nonneg w.year_nonneg
  have hle := w.year_le
  refine bind_eq_ok.mpr ⟨_, year_padded (by omega) _, ?_⟩
  refine bind_eq_ok.mpr ⟨_, mark_cons (by decide) _, ?_⟩
  refine bind_eq_ok.mpr ⟨_, part_padded hmonth1 hmonth12 (by omega) _, ?_⟩
  refine bind_eq_ok.mpr ⟨_, mark_cons (by decide) _, ?_⟩
  refine bind_eq_ok.mpr ⟨_, part_padded hday1 hday31 (by omega) _, ?_⟩
  rw [hyear]

theorem time_text (w : Writing) :
    Timestamp.time (padded 2 w.hour ++ ':' :: (padded 2 w.minute ++ ':' :: (padded 2 w.second ++
      (fractionText w.decimals ++ w.zone.text)))) =
      .ok ((w.hour * 3600 + w.minute * 60 + w.second, nanosOf w.decimals), w.zone.text) := by
  have hhour := w.hour_lt
  have hminute := w.minute_lt
  have hsecond := w.second_lt
  have hrest : ∀ c ∈ w.zone.text.head?, isDigit c = false ∧ c ≠ '.' := by
    obtain ⟨c, after, htext, -, hdigit, hpoint⟩ := w.zone.text_eq_cons
    rw [htext]
    rintro _ ⟨⟩
    exact ⟨hdigit, hpoint⟩
  refine bind_eq_ok.mpr ⟨_, part_padded (Nat.zero_le _) (by omega) (by omega) _, ?_⟩
  refine bind_eq_ok.mpr ⟨_, mark_cons (by decide) _, ?_⟩
  refine bind_eq_ok.mpr ⟨_, part_padded (Nat.zero_le _) (by omega) (by omega) _, ?_⟩
  refine bind_eq_ok.mpr ⟨_, mark_cons (by decide) _, ?_⟩
  refine bind_eq_ok.mpr ⟨_, part_padded (Nat.zero_le _) (by omega) (by omega) _, ?_⟩
  refine bind_eq_ok.mpr ⟨_, fraction_text w.areDigits_decimals hrest, ?_⟩
  rw [if_neg (by omega)]
  simp only [Nat.sub_zero, Nat.zero_mul, Nat.add_zero]

/-- The days of the years of four digits lie well within those that can be told. -/
theorem day_bounds (w : Writing) : -800000 ≤ w.instant.day ∧ w.instant.day ≤ 4000000 := by
  obtain ⟨hmonth1, hmonth12, hday1, hday31⟩ := Date.bounds_of_isValid w.isValid_date
  have hyear0 := w.year_nonneg
  have hyear1 := w.year_le
  have hdays : -750000 ≤ w.date.toDays ∧ w.date.toDays ≤ 3900000 := by
    by_cases hm : w.date.month ≤ 2
    · simp only [Date.toDays, if_pos hm]
      omega
    · simp only [Date.toDays, if_neg hm]
      omega
  have hzone := w.zone.seconds_bounds
  have hhour := w.hour_lt
  have hminute := w.minute_lt
  have hsecond := w.second_lt
  simp only [instant, Instant.shift, Instant.dayLength]
  omega

theorem inRange_instant (w : Writing) : w.instant.inRange = true := by
  have hbounds := w.day_bounds
  have hfirst : Instant.firstDay ≤ -800000 := by decide
  have hlast : 4000000 ≤ Instant.lastDay := by decide
  rw [Instant.inRange, decide_eq_true (hfirst.trans hbounds.1), decide_eq_true (hbounds.2.trans hlast)]
  rfl

/-- A timestamp that RFC 3339 allows is read as the moment that it tells. -/
theorem read_text (w : Writing) : Timestamp.read (String.ofList w.text) = .ok w.instant := by
  have hzone := w.zone.seconds_bounds
  have hyear0 := w.year_nonneg
  have hyear1 := w.year_le
  have htrim : Text.trimStart w.zone.text = w.zone.text := by
    obtain ⟨c, after, htext, hblank, -, -⟩ := w.zone.text_eq_cons
    rw [htext]
    exact List.dropWhile_cons_of_neg (by rw [hblank]; decide)
  have hbetween : w.between = 't' ∨ w.between = 'T' ∨ w.between = ' ' := by
    have := w.between_mem
    simp only [List.mem_cons, List.not_mem_nil, or_false] at this
    exact or_left_comm.mp this
  rw [Timestamp.read, String.toList_ofList]
  refine bind_eq_ok.mpr ⟨_, w.date_text _, ?_⟩
  dsimp only
  rw [if_pos hbetween]
  refine bind_eq_ok.mpr ⟨_, rfl, bind_eq_ok.mpr ⟨_, w.time_text, ?_⟩⟩
  dsimp only
  rw [htrim]
  refine bind_eq_ok.mpr ⟨_, w.zone.offset_text, ?_⟩
  dsimp only
  have hdate : ¬(w.date.isValid = false ∨ w.date.year < -262143 ∨ 262142 < w.date.year) := by
    rw [w.isValid_date]
    rintro (h | h | h)
    · cases h
    · omega
    · omega
  have hoffset : ¬(Instant.dayLength : Int) ≤ w.zone.seconds.natAbs := by
    rw [Instant.dayLength]
    omega
  rw [if_neg (by simp [Text.trimStart]), if_neg hdate, if_neg hoffset]
  exact if_pos w.inRange_instant

/-- The seconds from the start of day 0 to the moment that a timestamp tells: those that its clock shows, less those by which that clock
is ahead. -/
def seconds (w : Writing) : Int :=
  w.date.toDays * 86400 + (w.hour * 3600 + w.minute * 60 + w.second : Nat) - w.zone.seconds

theorem seconds_instant (w : Writing) : w.instant.seconds = w.seconds := by
  rw [instant, Instant.seconds_shift, Instant.seconds, Instant.dayLength, seconds]
  dsimp only
  omega

/-- Timestamps of one moment tell one instant. -/
theorem instant_eq {w w' : Writing} (hseconds : w.seconds = w'.seconds) (hnano : nanosOf w.decimals = nanosOf w'.decimals) :
    w.instant = w'.instant := by
  have hday (v : Writing) : v.instant.second < Instant.dayLength := by
    simp only [instant, Instant.shift, Instant.dayLength]
    omega
  exact Instant.eq_of_seconds (hday w) (hday w') (by rw [seconds_instant, seconds_instant, hseconds]) hnano

end Writing

/-! ## What is written -/

/-- The decimals of a second that are written. -/
def decimalsOf (nano : Nat) : List Char :=
  if nano = 0 then []
  else if nano % 1000000 = 0 then padded 3 (nano / 1000000)
  else if nano % 1000 = 0 then padded 6 (nano / 1000)
  else padded 9 nano

theorem areDigits_decimalsOf (nano : Nat) : AreDigits (decimalsOf nano) := by
  unfold decimalsOf
  split
  · nofun
  · split
    · exact areDigits_padded _ _
    · split
      · exact areDigits_padded _ _
      · exact areDigits_padded _ _

theorem fractionText_of_ne_nil {decimals : List Char} (h : decimals ≠ []) : fractionText decimals = '.' :: decimals := by
  cases decimals with
  | nil => exact absurd rfl h
  | cons => rfl

theorem nanosOf_padded {width n : Nat} (hpos : 0 < width) (hwidth : width ≤ 9) (hn : n < 10 ^ width) :
    nanosOf (padded width n) = n * 10 ^ (9 - width) := by
  have hlength := length_padded hpos hn
  rw [nanosOf_eq, List.take_of_length_le (by omega), digitsValue_padded, hlength]

/-- Decimals are written with the point before them, if there are any. -/
theorem printFraction_eq (nano : Nat) : printFraction nano = fractionText (decimalsOf nano) := by
  have hne : ∀ width n : Nat, padded width n ≠ [] := fun _ _ => List.append_ne_nil_of_right_ne_nil _ Nat.toDigits_ne_nil
  unfold printFraction decimalsOf
  split
  · rfl
  · split
    · exact (fractionText_of_ne_nil (hne _ _)).symm
    · split
      · exact (fractionText_of_ne_nil (hne _ _)).symm
      · exact (fractionText_of_ne_nil (hne _ _)).symm

/-- The decimals that are written are enough. -/
theorem nanosOf_decimalsOf {nano : Nat} (h : nano < 1000000000) : nanosOf (decimalsOf nano) = nano := by
  unfold decimalsOf
  split
  next hzero => rw [hzero]; rfl
  split
  · rw [nanosOf_padded (by decide) (by decide) (by omega)]
    omega
  split
  · rw [nanosOf_padded (by decide) (by decide) (by omega)]
    omega
  · rw [nanosOf_padded (by decide) (by decide) h, Nat.sub_self, Nat.pow_zero, Nat.mul_one]

/-- The timestamp that is written of an instant. -/
def Writing.ofInstant (i : Instant) (h : i.IsCivil) : Writing where
  date := Date.ofDays i.day
  hour := i.second / 3600
  minute := i.second / 60 % 60
  second := i.second % 60
  decimals := decimalsOf i.nano
  between := 'T'
  zone := .universal false
  isValid_date := Date.isValid_ofDays i.day
  year_nonneg := h.year_nonneg
  year_le := h.year_le
  hour_lt := Nat.div_lt_of_lt_mul h.second_lt
  minute_lt := by omega
  second_lt := by omega
  areDigits_decimals := areDigits_decimalsOf i.nano
  between_mem := by decide

theorem Writing.instant_ofInstant {i : Instant} (h : i.IsCivil) : (ofInstant i h).instant = i := by
  have hsecond := h.second_lt
  obtain ⟨day, second, nano⟩ := i
  simp only [instant, ofInstant, Instant.shift, Instant.dayLength, Zone.seconds, Date.toDays_ofDays, nanosOf_decimalsOf h.nano_lt]
    at hsecond ⊢
  congr 1
  · omega
  · omega

theorem Writing.text_ofInstant {i : Instant} (h : i.IsCivil) : (ofInstant i h).text = print i := by
  have hnano : ¬1000000000 ≤ i.nano := Nat.not_le.mpr h.nano_lt
  simp [text, ofInstant, print, printYear, h.year_nonneg, h.year_le, printFraction_eq, Zone.text, hnano]

/-- What is written of an instant is read as that instant. -/
theorem read_print {i : Instant} (h : i.IsCivil) : read (String.ofList (print i)) = .ok i := by
  rw [← Writing.text_ofInstant h, Writing.read_text, Writing.instant_ofInstant]

/-- An instant that was read has a second of a day. -/
theorem second_lt_of_read {text : String} {i : Instant} (h : read text = .ok i) : i.second < Instant.dayLength := by
  obtain ⟨⟨d, rest⟩, -, h⟩ := bind_eq_ok.mp h
  dsimp only at h
  split at h
  · cases h
  split at h
  · obtain ⟨_, -, h⟩ := bind_eq_ok.mp h
    obtain ⟨_, -, h⟩ := bind_eq_ok.mp h
    obtain ⟨_, -, h⟩ := bind_eq_ok.mp h
    split at h
    · cases h
    split at h
    · cases h
    split at h
    · cases h
    split at h
    · cases h
      simp only [Instant.shift, Instant.dayLength]
      omega
    · cases h
  · cases h

end Colloquy.Timestamp
