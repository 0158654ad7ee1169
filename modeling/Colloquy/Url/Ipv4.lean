import Colloquy.Text.Hex

/-!
# Addresses of four bytes

A host whose last part is a number is an address of four bytes. It has up to four numbers, each of them a byte but the
last, which fills the bytes that remain. A number is octal after a zero and hexadecimal after `0x`.
-/

namespace Colloquy.Url.Ipv4

/-- The parts of a text between dots. -/
def parts : List Char → List (List Char)
  | [] => [[]]
  | c :: rest =>
    match parts rest with
    | [] => [[c]]
    | p :: ps => if c = '.' then [] :: p :: ps else (c :: p) :: ps

/-- The number of digits to a base. -/
def number? (base : Nat) (digits : List Char) : Option Nat :=
  digits.foldlM (fun n d => (Text.hexValue? d).bind fun v => if v < base then some (n * base + v) else none) 0

/-- The number that a part writes. -/
def partValue? (part : List Char) : Option Nat :=
  match part with
  | [] => none
  | '0' :: 'x' :: digits => number? 16 digits
  | '0' :: 'X' :: digits => number? 16 digits
  | '0' :: d :: digits => number? 8 (d :: digits)
  | digits => number? 10 digits

/-- The parts without the empty one that follows a dot at the end. -/
def properParts (host : List Char) : List (List Char) :=
  let ps := parts host
  if 1 < ps.length ∧ ps.getLast? = some [] then ps.dropLast else ps

/-- Whether the last part of a host is a number, be it a valid one or only digits. -/
def endsInNumber (host : List Char) : Bool :=
  match (properParts host).getLast? with
  | some p => (!p.isEmpty && p.all Char.isDigit) || (partValue? p).isSome
  | none => false

/-- The address of numbers. -/
def ofNumbers? : List Nat → Option Nat
  | [] => none
  | ns =>
    let bytes := ns.dropLast
    let last := ns.getLast?.getD 0
    if 4 < ns.length ∨ bytes.any (255 < ·) ∨ Nat.pow 256 (4 - bytes.length) ≤ last then none
    else some (bytes.zipIdx.foldl (fun sum b => sum + b.1 * Nat.pow 256 (3 - b.2)) last)

/-- The address that a host writes. -/
def read? (host : List Char) : Option Nat := do
  ofNumbers? (← (properParts host).mapM partValue?)

/-- The four bytes of an address with dots between. -/
def print (address : Nat) : List Char :=
  let byte (i : Nat) : List Char := Nat.toDigits 10 (address / Nat.pow 256 i % 256)
  byte 3 ++ '.' :: byte 2 ++ '.' :: byte 1 ++ '.' :: byte 0

end Colloquy.Url.Ipv4
