import Colloquy.Time.Calendar

/-!
# Instants

An instant is a day, a second of that day and a number of nanoseconds, in universal time. A leap second is the second
before it with a thousand million nanoseconds more.
-/

namespace Colloquy

/-- A moment in universal time. -/
structure Instant where
  day : Int
  second : Nat
  nano : Nat
  deriving DecidableEq, Repr, Inhabited

namespace Instant

/-- The seconds of a day. -/
def dayLength : Nat := 86400

/-- The instants that can be told apart from others lie in the years from -262143 to 262142. -/
def firstDay : Int := Date.toDays ⟨-262143, 1, 1⟩

/-- The last day of the last year. -/
def lastDay : Int := Date.toDays ⟨262142, 12, 31⟩

/-- The instant some seconds later, or earlier. -/
def shift (i : Instant) (seconds : Int) : Instant :=
  let total := (i.second : Int) + seconds
  ⟨i.day + total / dayLength, (total % dayLength).toNat, i.nano⟩

/-- Whether the instant lies in the years that can be told. -/
def inRange (i : Instant) : Bool :=
  firstDay ≤ i.day && i.day ≤ lastDay

end Instant

end Colloquy
