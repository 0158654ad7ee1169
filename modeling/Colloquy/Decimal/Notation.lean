import Colloquy.Decimal.Shortest

/-!
# Floating-point text

A double is written with its shortest digits: positionally, with at least one decimal, while its magnitude lies in a
range that the style names, and otherwise with an exponent. Two styles occur: the one of JSON texts and the one of
texts for people.
-/

namespace Colloquy

/-- How doubles are written: the decimal exponents of the leading digit that are written positionally, and whether a
positive exponent has a sign. -/
structure FloatStyle where
  positionalFrom : Int
  positionalTo : Int
  signedExponent : Bool
  deriving DecidableEq, Repr

namespace FloatStyle

/-- Numbers in JSON texts: `0.00001`, `1000000000000000.0`, `1e+16`, `1e-6`. -/
def json : FloatStyle :=
  ⟨-5, 15, true⟩

/-- Numbers shown to people: `0.0001`, `1e16`, `1e-5`. -/
def display : FloatStyle :=
  ⟨-4, 15, false⟩

/-- Digits with the point after the first `point` of them; zeros fill the places that have no digit. -/
def positional (digits : List Char) (point : Int) : List Char :=
  if point ≤ 0 then '0' :: '.' :: List.replicate (-point).toNat '0' ++ digits
  else
    let n := point.toNat
    if digits.length ≤ n then digits ++ List.replicate (n - digits.length) '0' ++ ['.', '0']
    else digits.take n ++ '.' :: digits.drop n

/-- Digits with the point after the first of them, and the exponent that puts it in its place. -/
def scientific (style : FloatStyle) (digits : List Char) (exponent : Int) : List Char :=
  let sign := if exponent < 0 then ['-'] else if style.signedExponent then ['+'] else []
  let mantissa := match digits with
    | d :: e :: rest => d :: '.' :: e :: rest
    | ds => ds
  mantissa ++ 'e' :: sign ++ Nat.toDigits 10 exponent.natAbs

/-- The text of a finite double. -/
def write (style : FloatStyle) (x : Binary64) : List Char :=
  let magnitude :=
    if x.isZero then ['0', '.', '0']
    else
      let d := x.shortest
      let digits := Nat.toDigits 10 d.digits
      let exponent := d.exponent + digits.length - 1
      if style.positionalFrom ≤ exponent ∧ exponent ≤ style.positionalTo then positional digits (exponent + 1)
      else style.scientific digits exponent
  if x.isNegative then '-' :: magnitude else magnitude

/-- Numbers that never have an exponent. -/
def unscaled : FloatStyle :=
  ⟨-400, 400, false⟩

end FloatStyle

/-- The text of a double without an exponent, and without decimals when it is a whole number. -/
def Binary64.plain (x : Binary64) : List Char :=
  if x.isNaN then "NaN".toList
  else if x.isInfinite then if x.isNegative then "-inf".toList else "inf".toList
  else
    let text := FloatStyle.unscaled.write x
    if text.drop (text.length - 2) = ['.', '0'] then text.take (text.length - 2) else text

end Colloquy
