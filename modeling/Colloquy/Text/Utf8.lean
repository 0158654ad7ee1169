/-!
# Lossy UTF-8

Bytes are read as UTF-8 one octet at a time. What is not well formed is replaced: every maximal part that could
have begun a character, and every byte that could not, becomes one U+FFFD (`replacement`). The machine remembers
only the character it is inside of (`Begun`), so a text cut anywhere can be decoded from where the cut left it.
-/

namespace Colloquy.Utf8

/-- The character that stands for what could not be read. -/
def replacement : Char := '\uFFFD'

/-- A character begun but not complete: the value of the bits read so far, how many octets are still due, and the
range the next of them must lie in. -/
structure Begun where
  value : Nat
  due : Nat
  low : Nat
  high : Nat
  deriving DecidableEq, Repr

/-- What an octet starts where a character may start: the characters it completes and the one it begins. The ranges
leave out overlong forms, surrogates, and values above U+10FFFF. -/
def lead (octet : UInt8) : List Char × Option Begun :=
  let b := octet.toNat
  if b < 0x80 then ([Char.ofNat b], none)
  else if b < 0xC2 then ([replacement], none)
  else if b < 0xE0 then ([], some ⟨b - 0xC0, 1, 0x80, 0xBF⟩)
  else if b = 0xE0 then ([], some ⟨0, 2, 0xA0, 0xBF⟩)
  else if b = 0xED then ([], some ⟨0xD, 2, 0x80, 0x9F⟩)
  else if b < 0xF0 then ([], some ⟨b - 0xE0, 2, 0x80, 0xBF⟩)
  else if b = 0xF0 then ([], some ⟨0, 3, 0x90, 0xBF⟩)
  else if b < 0xF4 then ([], some ⟨b - 0xF0, 3, 0x80, 0xBF⟩)
  else if b = 0xF4 then ([], some ⟨4, 3, 0x80, 0x8F⟩)
  else ([replacement], none)

/-- One octet: it continues the character begun, or ends it unfinished and starts anew. -/
def step (state : Option Begun) (octet : UInt8) : List Char × Option Begun :=
  match state with
  | none => lead octet
  | some g =>
    let b := octet.toNat
    if g.low ≤ b ∧ b ≤ g.high then
      let value := g.value * 64 + (b - 0x80)
      if g.due ≤ 1 then ([Char.ofNat value], none) else ([], some ⟨value, g.due - 1, 0x80, 0xBF⟩)
    else
      let (chars, next) := lead octet
      (replacement :: chars, next)

/-- Decodes from a given state on; a character still unfinished at the end is replaced. -/
def decodeFrom (state : Option Begun) : List UInt8 → List Char
  | [] => if state.isSome then [replacement] else []
  | b :: bs => (step state b).1 ++ decodeFrom (step state b).2 bs

/-- Bytes as text, with U+FFFD for each maximal ill-formed part. -/
def decodeLossy (bytes : List UInt8) : List Char :=
  decodeFrom none bytes

/-- Whether the bytes are well-formed UTF-8 from a given state on. -/
def isWellFormedFrom (state : Option Begun) : List UInt8 → Bool
  | [] => state.isNone
  | b :: bs =>
    (match state with
      | none => b.toNat < 0x80 || (lead b).2.isSome
      | some g => g.low ≤ b.toNat && b.toNat ≤ g.high)
    && isWellFormedFrom (step state b).2 bs

/-- Bytes as text when they are well-formed UTF-8. -/
def decode? (bytes : List UInt8) : Option (List Char) :=
  if isWellFormedFrom none bytes then some (decodeLossy bytes) else none

/-- The bytes of a text. -/
def encode (text : List Char) : List UInt8 :=
  text.flatMap String.utf8EncodeChar

/-- The number of bytes of a text. -/
def size (text : List Char) : Nat :=
  text.foldl (fun n c => n + c.utf8Size) 0

end Colloquy.Utf8
