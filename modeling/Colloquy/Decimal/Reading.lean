import Colloquy.Decimal.Binary64

/-!
# Reading doubles

The double nearest to a written number: an optional sign, digits with an optional point among, before or after them, and
an optional exponent. The words for infinity and for no number are read in any case of letters.
-/

namespace Colloquy

/-- The number of a text of decimal digits. -/
def Decimal.whole (digits : List Char) : Nat :=
  digits.foldl (fun n d => n * 10 + (d.toNat - '0'.toNat)) 0

/-- The digits at the start of a text, and the rest. -/
def Decimal.leading (text : List Char) : List Char × List Char :=
  (text.takeWhile Char.isDigit, text.dropWhile Char.isDigit)

/-- A sign at the start of a text, and the rest: whether it is a minus sign. -/
def Decimal.signed (text : List Char) : Bool × List Char :=
  match text with
  | '-' :: rest => (true, rest)
  | '+' :: rest => (false, rest)
  | _ => (false, text)

/-- An exponent that takes up the whole text; no text at all is the exponent zero. -/
def Decimal.scale? (text : List Char) : Option Int :=
  match text with
  | [] => some 0
  | c :: rest =>
    let (down, rest) := Decimal.signed rest
    let (digits, after) := Decimal.leading rest
    if (c = 'e' ∨ c = 'E') ∧ digits ≠ [] ∧ after = [] then
      some (if down then -(Decimal.whole digits : Int) else Decimal.whole digits)
    else none

namespace Binary64

/-- The double nearest to `digits * 10 ^ exponent`. Beyond 400 places before or after the point it is infinite or zero. -/
def nearest (digits : Nat) (exponent : Int) : Binary64 :=
  let places := ((Nat.toDigits 10 digits).length : Int) + exponent
  if digits = 0 ∨ places < -400 then zero
  else if 400 < places then infinity
  else ofFloat (Float.ofScientific digits (exponent < 0) exponent.natAbs)

/-- The double of a number without its sign. -/
def ofMagnitude? (text : List Char) : Option Binary64 :=
  let word := String.ofList (text.map Char.toLower)
  if word = "inf" ∨ word = "infinity" then some infinity
  else if word = "nan" then some nan
  else
    let (whole, rest) := Decimal.leading text
    let (decimals, rest) := match rest with
      | '.' :: rest => Decimal.leading rest
      | _ => ([], rest)
    if whole = [] ∧ decimals = [] then none
    else (Decimal.scale? rest).map fun e => nearest (Decimal.whole (whole ++ decimals)) (e - decimals.length)

/-- The double that a text writes. -/
def ofText? (text : List Char) : Option Binary64 :=
  let (negative, rest) := Decimal.signed text
  (ofMagnitude? rest).map fun x => if negative ∧ ¬ x.isNaN then x.neg else x

end Binary64

end Colloquy
