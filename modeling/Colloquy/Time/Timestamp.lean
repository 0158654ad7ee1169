import Colloquy.Text.Blank
import Colloquy.Text.Utf8
import Colloquy.Time.Instant

/-!
# Timestamps

The text of an instant after RFC 3339. It is written in universal time with 0, 3, 6 or 9 decimals of a second, as few
as hold the value. It is read with any offset, any number of decimals (those beyond nine are dropped), blanks between
the parts, and a year of any length that has a sign.
-/

namespace Colloquy.Timestamp

/-- A number with at least `width` digits. -/
def padded (width n : Nat) : List Char :=
  let ds := Nat.toDigits 10 n
  List.replicate (width - ds.length) '0' ++ ds

/-- A year: four digits, or five and more with a sign outside the years 0 to 9999. -/
def printYear (year : Int) : List Char :=
  if 0 ≤ year ∧ year ≤ 9999 then padded 4 year.toNat
  else (if year < 0 then '-' else '+') :: padded 4 year.natAbs

/-- The decimals of a second. -/
def printFraction (nano : Nat) : List Char :=
  if nano = 0 then []
  else if nano % 1000000 = 0 then '.' :: padded 3 (nano / 1000000)
  else if nano % 1000 = 0 then '.' :: padded 6 (nano / 1000)
  else '.' :: padded 9 nano

/-- The text of an instant. -/
def print (i : Instant) : List Char :=
  let date := Date.ofDays i.day
  let leap := 1000000000 ≤ i.nano
  let second := i.second % 60 + (if leap then 1 else 0)
  let nano := if leap then i.nano - 1000000000 else i.nano
  printYear date.year ++ '-' :: padded 2 date.month ++ '-' :: padded 2 date.day
    ++ 'T' :: padded 2 (i.second / 3600) ++ ':' :: padded 2 (i.second / 60 % 60) ++ ':' :: padded 2 second
    ++ printFraction nano ++ ['Z']

/-- Why a text is no timestamp. -/
inductive Refusal where
  | outOfRange
  | impossible
  | invalid
  | tooShort
  | tooLong
  deriving DecidableEq, Repr

/-- The refusal in words. -/
def Refusal.message : Refusal → String
  | .outOfRange => "input is out of range"
  | .impossible => "no possible date and time matching input"
  | .invalid => "input contains invalid characters"
  | .tooShort => "premature end of input"
  | .tooLong => "trailing input"

/-- Whether a character is a decimal digit. -/
def isDigit (c : Char) : Bool :=
  '0' ≤ c && c ≤ '9'

/-- The number that digits write. -/
def digitsValue (ds : List Char) : Nat :=
  ds.foldl (fun n d => n * 10 + (d.toNat - 48)) 0

/-- A number of at least one digit and at most `width`, if that is given. -/
def number (width : Option Nat) (text : List Char) : Except Refusal (Nat × List Char) :=
  let run := text.takeWhile isDigit
  let ds := match width with
    | some w => run.take w
    | none => run
  if text.isEmpty then .error .tooShort
  else if ds.isEmpty then .error .invalid
  else if 0x8000000000000000 ≤ digitsValue ds then .error .outOfRange
  else .ok (digitsValue ds, text.drop ds.length)

/-- A part of a date or time: two digits in a range, after blanks. -/
def part (low high : Nat) (text : List Char) : Except Refusal (Nat × List Char) := do
  let (n, rest) ← number (some 2) (Text.trimStart text)
  if low ≤ n ∧ n ≤ high then .ok (n, rest) else .error .outOfRange

/-- The text after a mark, which may follow blanks. -/
def mark (c : Char) (text : List Char) : Except Refusal (List Char) :=
  match Text.trimStart text with
  | [] => .error .tooShort
  | d :: rest => if d = c then .ok rest else .error .invalid

/-- A year: four digits at most, or any number of them after a sign. -/
def year (text : List Char) : Except Refusal (Int × List Char) := do
  let (y, rest) ← match Text.trimStart text with
    | '-' :: rest => (number none rest).map fun (n, rest) => (-(n : Int), rest)
    | '+' :: rest => (number none rest).map fun (n, rest) => ((n : Int), rest)
    | start => (number (some 4) start).map fun (n, rest) => ((n : Int), rest)
  if -0x80000000 ≤ y ∧ y < 0x80000000 then .ok (y, rest) else .error .outOfRange

/-- The decimals of a second, if there are any. -/
def fraction (text : List Char) : Except Refusal (Nat × List Char) :=
  match text with
  | '.' :: rest => do
    let (n, after) ← number (some 9) rest
    let width := ((rest.takeWhile isDigit).take 9).length
    .ok (n * Nat.pow 10 (9 - width), after.dropWhile isDigit)
  | _ => .ok (0, text)

/-- Two digits, of which the first is at most `high`. -/
def twoDigits (high : Char) (text : List Char) : Except Refusal (Nat × List Char) :=
  if Utf8.size (text.take 2) < 2 then .error .tooShort
  else
    match text with
    | a :: b :: rest =>
      if isDigit a ∧ isDigit b then
        if a ≤ high then .ok (digitsValue [a, b], rest) else .error .outOfRange
      else .error .invalid
    | _ => .error .invalid

/-- The offset of hours and minutes after a sign, in seconds. -/
def hoursMinutes (text : List Char) : Except Refusal (Nat × List Char) := do
  let (hours, rest) ← twoDigits '9' text
  let (minutes, rest) ← twoDigits '5' (rest.dropWhile fun c => c = ':' || Text.isBlank c)
  .ok (hours * 3600 + minutes * 60, rest)

/-- The offset from universal time, in seconds. -/
def offset (text : List Char) : Except Refusal (Int × List Char) :=
  match text with
  | [] => .error .tooShort
  | c :: rest =>
    if (text.take 3).map Char.toUpper = ['U', 'T', 'C'] then .ok (0, text.drop 3)
    else if c = 'Z' ∨ c = 'z' then .ok (0, rest)
    else if c = '+' then (hoursMinutes rest).map fun (n, rest) => ((n : Int), rest)
    else if c = '-' ∨ c = '\u2212' then (hoursMinutes rest).map fun (n, rest) => (-(n : Int), rest)
    else .error .invalid

/-- A date. -/
def date (text : List Char) : Except Refusal (Date × List Char) := do
  let (y, rest) ← year text
  let (m, rest) ← part 1 12 (← mark '-' rest)
  let (d, rest) ← part 1 31 (← mark '-' rest)
  .ok (⟨y, m, d⟩, rest)

/-- A time of day, in seconds and nanoseconds. The sixtieth second is a leap second. -/
def time (text : List Char) : Except Refusal ((Nat × Nat) × List Char) := do
  let (h, rest) ← part 0 23 text
  let (m, rest) ← part 0 59 (← mark ':' rest)
  let (s, rest) ← part 0 60 (← mark ':' rest)
  let (nano, rest) ← fraction rest
  let leap := if s = 60 then 1 else 0
  .ok ((h * 3600 + m * 60 + s - leap, nano + leap * 1000000000), rest)

/-- Reads a timestamp. -/
def read (text : String) : Except Refusal Instant := do
  let (d, rest) ← date text.toList
  let rest ← match rest with
    | [] => .error .tooShort
    | c :: rest => if c = 't' ∨ c = 'T' ∨ c = ' ' then .ok rest else .error .invalid
  let ((second, nano), rest) ← time rest
  let (seconds, rest) ← offset (Text.trimStart rest)
  if Text.trimStart rest ≠ [] then .error .tooLong
  else if d.isValid = false ∨ d.year < -262143 ∨ 262142 < d.year then .error .outOfRange
  else if (Instant.dayLength : Int) ≤ seconds.natAbs then .error .outOfRange
  else
    let i := Instant.shift ⟨d.toDays, second, nano⟩ (-seconds)
    if i.inRange then .ok i else .error .impossible

end Colloquy.Timestamp
