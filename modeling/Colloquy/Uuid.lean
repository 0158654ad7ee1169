import Colloquy.Text.Hex
import Colloquy.Text.Utf8

/-!
# Universally unique identifiers

An identifier is a number of 128 bits, written as 32 hexadecimal digits in groups of 8, 4, 4, 4 and 12. It is read in
that form, without the hyphens, in braces, or as a URN; `Uuid.read` says what is wrong with any other text.
-/

namespace Colloquy

/-- The number of identifiers: two to the power of 128. -/
def Uuid.count : Nat := 0x100000000000000000000000000000000

/-- A number of 128 bits that identifies something. -/
structure Uuid where
  value : Fin Uuid.count
  deriving DecidableEq, Repr

namespace Uuid

/-- The identifier whose bits are all zero. -/
def nil : Uuid :=
  ⟨⟨0, by decide⟩⟩

instance : Inhabited Uuid := ⟨nil⟩

/-- The identifier of a number, less what is beyond 128 bits. -/
def ofNat (n : Nat) : Uuid :=
  ⟨⟨n % count, Nat.mod_lt _ (by decide)⟩⟩

/-- The hexadecimal digits, from the highest. -/
def digits (u : Uuid) : List Char :=
  (List.range 32).map fun i => Nat.digitChar (u.value.val / Nat.pow 16 (31 - i) % 16)

/-- The written form: five groups of digits. -/
def print (u : Uuid) : List Char :=
  let ds := u.digits
  ds.take 8 ++ '-' :: (ds.drop 8).take 4 ++ '-' :: (ds.drop 12).take 4 ++ '-' :: (ds.drop 16).take 4 ++ '-' :: ds.drop 20

/-- The written form as a string. -/
def toText (u : Uuid) : String :=
  String.ofList u.print

/-- Why a text is no identifier. -/
inductive Refusal where
  | invalidCharacter (c : Char) (index : Nat)
  | invalidLength (length : Nat)
  | invalidGroupCount (count : Nat)
  | invalidGroupLength (group expected length : Nat)
  deriving DecidableEq, Repr

/-- The refusal in words. -/
def Refusal.message : Refusal → String
  | .invalidCharacter c i => "invalid character: found `" ++ c.toString ++ "` at " ++ toString i
  | .invalidLength n => "invalid length: found " ++ toString n
  | .invalidGroupCount n => "invalid group count: expected 5, found " ++ toString n
  | .invalidGroupLength g e n =>
    "invalid group length in group " ++ toString g ++ ": expected " ++ toString e ++ ", found " ++ toString n

/-- The identifier of 32 hexadecimal digits. -/
def ofDigits? (ds : List Char) : Option Uuid :=
  if ds.length = 32 then
    (ds.foldlM (fun n d => (Text.hexValue? d).map (n * 16 + ·)) 0).map ofNat
  else none

/-- The identifier of five groups of digits. -/
def ofGroups? (text : List Char) : Option Uuid :=
  if text.length = 36 ∧ [8, 13, 18, 23].all (fun i => text[i]? = some '-') then
    ofDigits? (text.take 8 ++ (text.drop 9).take 4 ++ (text.drop 14).take 4 ++ (text.drop 19).take 4 ++ text.drop 24)
  else none

/-- The scheme in front of an identifier written as a URN, in letters of either case. -/
def urn : List Char := "urn:uuid:".toList

/-- The number of bytes of the longest form, that of a URN. -/
def longestForm : Nat := 45

/-- The text between braces, or after the scheme of a URN, with the number of characters before it and whether it stood
bare; a text in neither form is returned as it is. -/
def unwrap (text : List Char) : List Char × Nat × Bool :=
  match text with
  | '{' :: rest =>
    if rest.getLast? = some '}' then (rest.dropLast, 1, false) else (text, 0, true)
  | _ =>
    if (text.take urn.length).map Char.toLower = urn then (text.drop urn.length, urn.length, false)
    else (text, 0, true)

/-- The first character that is neither a digit nor a hyphen, with the number of bytes before it. -/
def strayCharacter? (offset : Nat) : List Char → Option (Char × Nat)
  | [] => none
  | c :: rest =>
    if c = '-' ∨ (Text.hexValue? c).isSome then strayCharacter? (offset + c.utf8Size) rest else some (c, offset)

/-- The lengths of the groups that hyphens part. -/
def groupLengths (length : Nat) : List Char → List Nat
  | [] => [length]
  | c :: rest => if c = '-' then length :: groupLengths 0 rest else groupLengths (length + 1) rest

/-- What is wrong with a text that is no identifier: its length if it is longer than any form, else a character, else
the number of digits or groups, else the first group of the wrong length. The length of the last group counts what is
written around the groups. -/
def refusal (text : List Char) : Refusal :=
  let (body, offset, bare) := unwrap text
  let size := Utf8.size text
  if longestForm < size then .invalidLength size
  else match strayCharacter? offset body with
    | some (c, i) => .invalidCharacter c i
    | none =>
      let groups := groupLengths 0 body
      if groups.length = 1 ∧ bare then .invalidLength size
      else if groups.length ≠ 5 then .invalidGroupCount groups.length
      else
        let expected := [8, 4, 4, 4]
        match (List.range 4).find? (fun i => groups[i]? ≠ expected[i]?) with
        | some i => .invalidGroupLength i (expected[i]?.getD 0) (groups[i]?.getD 0)
        | none => .invalidGroupLength 4 12 (size - 24)

/-- Reads an identifier in any of its four forms. -/
def read (text : String) : Except Refusal Uuid :=
  let chars := text.toList
  let (body, _, bare) := unwrap chars
  match if bare ∧ chars.length = 32 then ofDigits? chars else ofGroups? body with
  | some u => .ok u
  | none => .error (refusal chars)

end Uuid

end Colloquy
