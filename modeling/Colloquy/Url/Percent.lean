import Colloquy.Text.Hex
import Colloquy.Text.Utf8

/-!
# Percent signs

What an address may not hold in some part of it is written as a percent sign and the two hexadecimal digits of each of
its bytes. Control and non-ASCII characters are written so everywhere; each part names the others.
-/

namespace Colloquy.Url

/-- A byte as a percent sign and two digits. -/
def percent (b : UInt8) : List Char :=
  ['%', (Nat.digitChar (b.toNat / 16)).toUpper, (Nat.digitChar (b.toNat % 16)).toUpper]

/-- Text with percent signs for control and non-ASCII characters and for those listed. -/
def percentEncode (also : List Char) (text : List Char) : List Char :=
  text.flatMap fun c =>
    if c.toNat ≤ 0x1F ∨ 0x7E < c.toNat ∨ c ∈ also then (String.utf8EncodeChar c).flatMap percent else [c]

/-- The bytes that a text with percent signs stands for. A percent sign without two digits after it stands for itself. -/
def percentDecode : List Char → List UInt8
  | [] => []
  | [c] => String.utf8EncodeChar c
  | [c, d] => String.utf8EncodeChar c ++ String.utf8EncodeChar d
  | c :: high :: low :: rest =>
    match Text.hexValue? high, Text.hexValue? low with
    | some h, some l =>
      if c = '%' then UInt8.ofNat (h * 16 + l) :: percentDecode rest
      else String.utf8EncodeChar c ++ percentDecode (high :: low :: rest)
    | _, _ => String.utf8EncodeChar c ++ percentDecode (high :: low :: rest)

/-- What a fragment may not hold. -/
def outsideFragment : List Char := [' ', '"', '<', '>', '\x60']

/-- What a path may not hold. -/
def outsidePath : List Char := outsideFragment ++ ['#', '?', '{', '}']

/-- What a name or password may not hold. -/
def outsideCredentials : List Char := outsidePath ++ ['/', ':', ';', '=', '@', '[', '\\', ']', '^', '|']

/-- What a query may not hold, and what else the query of a scheme of the web may not. -/
def outsideQuery (web : Bool) : List Char :=
  [' ', '"', '#', '<', '>'] ++ if web then ['\x27'] else []

end Colloquy.Url
