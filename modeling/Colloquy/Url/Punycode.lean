/-!
# Names in ASCII

A name with characters beyond ASCII is written in ASCII: its ASCII characters, a hyphen, and digits and letters that say
where the others go. The others are told in the order of their code points, each by the distance from the one before
it, counted over all places of the name. A distance is a number to the base of 36 whose digits end at thresholds; these
follow the distances told so far.
-/

namespace Colloquy.Url.Punycode

/-- The digit of a value below 36. -/
def digit (value : Nat) : Char :=
  if value < 26 then Char.ofNat ('a'.toNat + value) else Char.ofNat ('0'.toNat + (value - 26))

/-- The value of a digit. -/
def digitValue? (c : Char) : Option Nat :=
  if c.isDigit then some (c.toNat - '0'.toNat + 26)
  else if c.isAlpha then some (c.toLower.toNat - 'a'.toNat)
  else none

/-- The threshold of the digit at a place, given with the bias: a lower digit is the last. -/
def threshold (place bias : Nat) : Nat :=
  if place ≤ bias then 1 else min 26 (place - bias)

/-- The bias after a distance was told, which shrinks the distance to what a digit can tell. -/
def shrink : (fuel : Nat) → (distance bias : Nat) → Nat
  | 0, _, bias => bias
  | fuel + 1, distance, bias =>
    if 455 < distance then shrink fuel (distance / 35) (bias + 36) else bias + 36 * distance / (distance + 38)

/-- The bias after a distance, the first or a later one, was told in a name that has `length` characters by then. -/
def adapt (distance length : Nat) (first : Bool) : Nat :=
  let distance := if first then distance / 700 else distance / 2
  let distance := distance + distance / length
  shrink distance distance 0

/-- The digits of a distance from a place on. -/
def distanceDigits (bias : Nat) : (fuel place distance : Nat) → List Char
  | 0, _, distance => [digit distance]
  | fuel + 1, place, distance =>
    let t := threshold place bias
    if distance < t then [digit distance]
    else digit (t + (distance - t) % (36 - t)) :: distanceDigits bias fuel (place + 36) ((distance - t) / (36 - t))

/-- How far the telling has come: the digits so far, the distance since the last one told, the bias, and the number of
characters told. -/
structure Telling where
  digits : List Char
  distance : Nat
  bias : Nat
  told : Nat

/-- Goes over one character of the name while those with the code point `code` are told. -/
def Telling.pass (code basic : Nat) (t : Telling) (c : Char) : Telling :=
  if c.toNat < code then { t with distance := t.distance + 1 }
  else if c.toNat = code then
    { digits := t.digits ++ distanceDigits t.bias t.distance 36 t.distance
      distance := 0
      bias := adapt t.distance (t.told + 1) (t.told == basic)
      told := t.told + 1 }
  else t

/-- Tells the characters of each code point, given in ascending order; `next` is the lowest not yet considered. -/
def tell (name : List Char) (basic : Nat) : (codes : List Nat) → (next : Nat) → Telling → Telling
  | [], _, t => t
  | code :: codes, next, t =>
    let t := { t with distance := t.distance + (code - next) * (t.told + 1) }
    let t := name.foldl (Telling.pass code basic) t
    tell name basic codes (code + 1) { t with distance := t.distance + 1 }

/-- The ASCII form of a name. -/
def encode (name : List Char) : List Char :=
  let basic := name.filter (·.toNat < 0x80)
  let codes := ((name.filter (0x80 ≤ ·.toNat)).map Char.toNat).eraseDups.mergeSort
  let told := (tell name basic.length codes 0x80 ⟨[], 0, 72, basic.length⟩).digits
  (if basic.isEmpty then [] else basic ++ ['-']) ++ told

/-- The distance that digits tell from a place on, and the digits after it. -/
def readDistance (bias : Nat) : (place weight : Nat) → (digits : List Char) → Option (Nat × List Char)
  | _, _, [] => none
  | place, weight, c :: rest => do
    let value ← digitValue? c
    let t := threshold place bias
    if value < t then some (value * weight, rest)
    else
      let (distance, rest) ← readDistance bias (place + 36) (weight * (36 - t)) rest
      return (value * weight + distance, rest)

/-- Puts the characters that digits tell into a name, from the code point and the place reached. Each takes a digit, so
that `fuel` steps suffice for digits of that number. -/
def placeFrom : (fuel : Nat) → (name : List Char) → (code place bias : Nat) → (first : Bool) → (digits : List Char) →
    Option (List Char)
  | _, name, _, _, _, _, [] => some name
  | 0, _, _, _, _, _, _ => none
  | fuel + 1, name, code, place, bias, first, digits => do
    let (distance, rest) ← readDistance bias 36 1 digits
    let length := name.length + 1
    let code := code + (place + distance) / length
    let index := (place + distance) % length
    if code.isValidChar then
      placeFrom fuel (name.take index ++ Char.ofNat code :: name.drop index) code (index + 1)
        (adapt distance length first) false rest
    else none

/-- The name that has an ASCII form. The last hyphen ends the ASCII characters of the name, of which there is one. -/
def decode? (text : List Char) : Option (List Char) :=
  let told := (text.reverse.takeWhile (· ≠ '-')).reverse
  match (text.take (text.length - told.length)).dropLast with
  | [] => placeFrom text.length [] 0x80 0 72 true text
  | basic => placeFrom told.length basic 0x80 0 72 true told

end Colloquy.Url.Punycode
