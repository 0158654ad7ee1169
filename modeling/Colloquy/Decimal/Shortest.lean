import Colloquy.Decimal.Binary64

/-!
# The shortest decimal of a double

A double is the nearest double to every real number of an interval around it. `shortest` finds the decimal with the
fewest digits in that interval, and among those the one nearest to the double. It works on exact fractions: for one
digit, then two, and so on, it tests the two multiples of the power of ten that enclose the double.
-/

namespace Colloquy

/-- The number `digits * 10 ^ exponent`. -/
structure Decimal where
  digits : Nat
  exponent : Int
  deriving DecidableEq, Repr

namespace Binary64

/-- A double as a fraction, with the two ends of the interval of reals that round to it over the same denominator. -/
structure Interval where
  low : Nat
  value : Nat
  high : Nat
  denominator : Nat
  closed : Bool
  deriving DecidableEq, Repr

/-- The interval of a finite double, in quarters of the distance to the next one: half the distance to either side,
but only a quarter below a power of two, where the doubles lie twice as dense. -/
def interval (x : Binary64) : Interval :=
  let m := x.mantissa
  let q := x.exponent - 2
  let below := if x.fraction = 0 ∧ 1 < x.exponentField then 1 else 2
  let scale := Nat.pow 2 q.toNat
  { low := (4 * m - below) * scale
    value := 4 * m * scale
    high := (4 * m + 2) * scale
    denominator := Nat.pow 2 (-q).toNat
    closed := m % 2 == 0 }

/-- The number of decimal digits before the point, or minus the number of zeros after it. -/
def Interval.magnitude (i : Interval) : Int :=
  let whole := i.value / i.denominator
  if whole = 0 then 1 - ((Nat.toDigits 10 (i.denominator / i.value)).length : Int)
  else ((Nat.toDigits 10 whole).length : Int)

/-- Whether a multiple of the grid lies in the interval. All parts are in units of one grid cell over `d`. -/
def Interval.holds (i : Interval) (up d n : Nat) : Bool :=
  if i.closed then i.low * up ≤ n * d && n * d ≤ i.high * up else i.low * up < n * d && n * d < i.high * up

/-- The nearest point of the interval on the grid of multiples of `10 ^ exponent`, if the grid has one. -/
def Interval.onGrid (i : Interval) (exponent : Int) : Option Decimal :=
  let up := Nat.pow 10 (-exponent).toNat
  let d := i.denominator * Nat.pow 10 exponent.toNat
  let v := i.value * up
  let floor := v / d
  let lower := i.holds up d floor
  let upper := i.holds up d (floor + 1)
  let lowerGap := v - floor * d
  let upperGap := (floor + 1) * d - v
  if lower && (!upper || lowerGap < upperGap || (lowerGap == upperGap && floor % 2 == 0)) then some ⟨floor, exponent⟩
  else if upper then some ⟨floor + 1, exponent⟩
  else none

/-- The shortest decimal that reads back as the given positive finite double. With one digit, rounding up can carry
into a second, which is then a zero and is dropped. -/
def shortest (x : Binary64) : Decimal :=
  let i := x.interval
  let magnitude := i.magnitude
  match (List.range 17).findSome? fun k => i.onGrid (magnitude - (k + 1 : Nat)) with
  | some ⟨10, e⟩ => ⟨1, e + 1⟩
  | some d => d
  | none => ⟨x.mantissa, 0⟩

end Binary64

end Colloquy
