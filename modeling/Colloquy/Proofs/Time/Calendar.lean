import Colloquy.Time.Instant

/-!
# Days there and back

The day of a number is one that the calendar has (`Date.isValid_ofDays`), and has that number (`Date.toDays_ofDays`). Instants are told
apart by the seconds since the start of day 0 (`Instant.seconds`) and the nanoseconds beyond them (`Instant.eq_of_seconds`).
-/

namespace Colloquy

namespace Date

/-- Of a day of an era the year in which it lies and its place in that year, where years start in March. Only a year that ends with a
leap day has room for a place more. -/
theorem yearOfEra_spec {n y place : Int} (h0 : 0 ≤ n) (h1 : n < 146097)
    (hyear : y = (n - n / 1460 + n / 36524 - n / 146096) / 365) (hplace : place = n - (365 * y + y / 4 - y / 100)) :
    0 ≤ y ∧ y < 400 ∧ 0 ≤ place ∧ place ≤ 365 ∧ (place = 365 → (y + 1) % 4 = 0 ∧ ((y + 1) % 100 ≠ 0 ∨ (y + 1) % 400 = 0)) := by
  -- the century, and the day of the century
  obtain ⟨c, r, hn, hc0, hc3, hr0, hr1, hc⟩ : ∃ c r : Int, n = 36524 * c + r ∧ 0 ≤ c ∧ c ≤ 3 ∧ 0 ≤ r ∧ r ≤ 36524 ∧
      n / 36524 - n / 146096 = c :=
    ⟨n / 36524 - n / 146096, n - 36524 * (n / 36524 - n / 146096), by omega, by omega, by omega, by omega, by omega, rfl⟩
  have hlong : r = 36524 → c = 3 := by omega
  have hleaps : n / 1460 = 25 * c + (24 * c + r) / 1460 := by omega
  -- the year of the century
  obtain ⟨z, hz, hy⟩ : ∃ z, z = (r - (24 * c + r) / 1460) / 365 ∧ y = 100 * c + z := ⟨_, rfl, by omega⟩
  have hz0 : 0 ≤ z ∧ z ≤ 99 := by omega
  have hfour : y / 4 = 25 * c + z / 4 := by omega
  have hhundred : y / 100 = c := by omega
  have hrest : place = r - 365 * z - z / 4 := by omega
  have hlow : z / 4 ≤ r - 365 * z := by omega
  have hhigh : r - 365 * z ≤ z / 4 + 365 := by omega
  refine ⟨by omega, by omega, by omega, by omega, fun h => ?_⟩
  have hlast : r - 365 * z - z / 4 = 365 := hrest.symm.trans h
  have hz4 : z % 4 = 3 := by omega
  have hz99 : z = 99 → c = 3 := by omega
  omega

/-- The day of a number, from the year and the place in it that the number has. -/
theorem exists_ofDays (n : Int) : ∃ (era y : Int) (place month : Nat),
    0 ≤ y ∧ y < 400 ∧ place ≤ 365 ∧ (place = 365 → (y + 1) % 4 = 0 ∧ ((y + 1) % 100 ≠ 0 ∨ (y + 1) % 400 = 0)) ∧
      n + 719468 = era * 146097 + (y * 365 + y / 4 - y / 100 + place) ∧ month = (5 * place + 2) / 153 ∧
      ofDays n = ⟨y + era * 400 + (if (if month < 10 then month + 3 else month - 9) ≤ 2 then 1 else 0),
        if month < 10 then month + 3 else month - 9, place - (153 * month + 2) / 5 + 1⟩ := by
  obtain ⟨day, hday⟩ : ∃ day, day = (n + 719468) % 146097 := ⟨_, rfl⟩
  obtain ⟨y, hy⟩ : ∃ y, y = (day - day / 1460 + day / 36524 - day / 146096) / 365 := ⟨_, rfl⟩
  obtain ⟨place, hplace⟩ : ∃ place, place = day - (365 * y + y / 4 - y / 100) := ⟨_, rfl⟩
  obtain ⟨hy0, hy1, hplace0, hplace1, hleap⟩ := yearOfEra_spec (by omega) (by omega) hy hplace
  refine ⟨(n + 719468) / 146097, y, place.toNat, (5 * place.toNat + 2) / 153, hy0, hy1, by omega, fun h => hleap (by omega), by omega,
    rfl, ?_⟩
  rw [ofDays, ← hday, ← hy, ← hplace]

/-- The day of a number has that number. -/
theorem toDays_ofDays (n : Int) : (ofDays n).toDays = n := by
  obtain ⟨era, y, place, month, hy0, hy1, hplace, -, hn, hmonth, heq⟩ := exists_ofDays n
  have hback : (153 * month + 2) / 5 + (place - (153 * month + 2) / 5 + 1) - 1 = place := by omega
  rw [heq, toDays]
  dsimp only
  by_cases hm : month < 10
  · have hnot : ¬month + 3 ≤ 2 := by omega
    have hsame : month + 3 - 3 = month := by omega
    simp only [if_pos hm, if_neg hnot, hsame, hback]
    omega
  · have hle : month - 9 ≤ 2 := by omega
    have hsame : month - 9 + 9 = month := by omega
    simp only [if_neg hm, if_pos hle, hsame, hback]
    omega

/-- A year is a leap year or not by its place in an era. -/
theorem isLeapYear_era (y era : Int) : isLeapYear (y + era * 400) = isLeapYear y := by
  have h4 : (y + era * 400) % 4 = y % 4 := by omega
  have h100 : (y + era * 400) % 100 = y % 100 := by omega
  have h400 : (y + era * 400) % 400 = y % 400 := by omega
  rw [isLeapYear, isLeapYear, h4, h100, h400]

/-- The calendar has the day of a number. -/
theorem isValid_ofDays (n : Int) : (ofDays n).isValid = true := by
  obtain ⟨era, y, place, month, hy0, hy1, hplace, hleap, hn, hmonth, heq⟩ := exists_ofDays n
  obtain ⟨d, hd⟩ : ∃ d, d = place - (153 * month + 2) / 5 + 1 := ⟨_, rfl⟩
  have hmonth12 : month ≤ 11 := by omega
  rw [heq, ← hd, isValid]
  dsimp only
  by_cases hm : month < 10
  · -- from March to December
    have hlength : d ≤ monthLength (y + era * 400 + 0) (month + 3) := by
      rw [monthLength, if_neg (by omega)]
      split <;> omega
    have hle : ¬month + 3 ≤ 2 := by omega
    simp only [if_pos hm, if_neg hle, Bool.and_eq_true, decide_eq_true_eq]
    exact ⟨⟨⟨by omega, by omega⟩, by omega⟩, hlength⟩
  · -- January and February, which are those of the year after
    have hlength : d ≤ monthLength (y + era * 400 + 1) (month - 9) := by
      have hyear : y + era * 400 + 1 = y + 1 + era * 400 := by omega
      rw [monthLength, hyear, isLeapYear_era]
      by_cases hlast : place = 365
      · have : isLeapYear (y + 1) = true := by
          obtain ⟨h4, h⟩ := hleap hlast
          simp only [isLeapYear, Bool.and_eq_true, Bool.or_eq_true, decide_eq_true_eq]
          exact ⟨h4, h⟩
        rw [this]
        simp only [if_true]
        split <;> omega
      · split
        · split <;> omega
        · split <;> omega
    have hle : month - 9 ≤ 2 := by omega
    simp only [if_neg hm, if_pos hle, Bool.and_eq_true, decide_eq_true_eq]
    exact ⟨⟨⟨by omega, by omega⟩, by omega⟩, hlength⟩

/-- A day of the calendar lies in a month, and is one of at most 31. -/
theorem bounds_of_isValid {d : Date} (h : d.isValid = true) : 1 ≤ d.month ∧ d.month ≤ 12 ∧ 1 ≤ d.day ∧ d.day ≤ 31 := by
  simp only [isValid, Bool.and_eq_true, decide_eq_true_eq] at h
  obtain ⟨⟨⟨hmonth1, hmonth12⟩, hday1⟩, hday⟩ := h
  have hlength : monthLength d.year d.month ≤ 31 := by
    rw [monthLength]
    split
    · split <;> omega
    · split <;> omega
  exact ⟨hmonth1, hmonth12, hday1, Nat.le_trans hday hlength⟩

end Date

namespace Instant

/-- The seconds from the start of day 0 to an instant. -/
def seconds (i : Instant) : Int :=
  i.day * dayLength + i.second

theorem seconds_shift (i : Instant) (n : Int) : (i.shift n).seconds = i.seconds + n := by
  simp only [seconds, shift, dayLength]
  omega

/-- Instants whose second is one of a day are the same if as many seconds and nanoseconds have passed. -/
theorem eq_of_seconds {i j : Instant} (hi : i.second < dayLength) (hj : j.second < dayLength) (hseconds : i.seconds = j.seconds)
    (hnano : i.nano = j.nano) : i = j := by
  obtain ⟨iday, isecond, inano⟩ := i
  obtain ⟨jday, jsecond, jnano⟩ := j
  simp only [seconds, dayLength] at hi hj hseconds hnano
  congr 1
  · omega
  · omega

/-- An instant that RFC 3339 can tell: it lies in the years 0 to 9999, and in no leap second. -/
structure IsCivil (i : Instant) : Prop where
  second_lt : i.second < dayLength
  nano_lt : i.nano < 1000000000
  year_nonneg : 0 ≤ (Date.ofDays i.day).year
  year_le : (Date.ofDays i.day).year ≤ 9999

end Instant

end Colloquy
