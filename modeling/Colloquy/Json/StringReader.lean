import Colloquy.Json.Reader
import Colloquy.Text.Hex

/-!
# Reading strings

A string is read from after its opening quote to after its closing one. An escape stands for one character; two
hexadecimal escapes in a row stand for a character beyond the first plane. The reader of values pairs the halves of
such a character; the one that only passes over a string does not.
-/

namespace Colloquy.Json

/-- The value of four hexadecimal digits. Four bytes are taken whatever they are. -/
def hexEscape (text : List Char) : Except Fault (Nat × List Char) :=
  if Utf8.size (text.take 4) < 4 then .error (.here .endInString [])
  else
    match text with
    | a :: b :: c :: d :: rest =>
      match Text.hexValue? a, Text.hexValue? b, Text.hexValue? c, Text.hexValue? d with
      | some a, some b, some c, some d => .ok (((a * 16 + b) * 16 + c) * 16 + d, rest)
      | _, _, _, _ => .error ⟨.invalidEscape, some (Utf8.size text - 4)⟩
    | _ => .error ⟨.invalidEscape, some (Utf8.size text - 4)⟩

/-- The text after a given character, which an unfinished pair of escapes needs next. -/
def pairPart (c : Char) (text : List Char) : Except Fault (List Char) :=
  match text with
  | [] => .error (.here .endInString [])
  | d :: rest => if d = c then .ok rest else .error (.next .unpairedHexEscape text)

/-- The character of a hexadecimal escape, which may take a second escape. -/
def hexChar (text : List Char) : Except Fault (Char × List Char) := do
  let (n, rest) ← hexEscape text
  if 0xDC00 ≤ n ∧ n ≤ 0xDFFF then .error (.here .loneSurrogate rest)
  else if n < 0xD800 ∨ 0xDBFF < n then .ok (Char.ofNat n, rest)
  else
    let rest ← pairPart '\\' rest
    let rest ← pairPart 'u' rest
    let (m, rest) ← hexEscape rest
    if m < 0xDC00 ∨ 0xDFFF < m then .error (.here .loneSurrogate rest)
    else .ok (Char.ofNat ((n - 0xD800) * 0x400 + (m - 0xDC00) + 0x10000), rest)

/-- The character of an escape of one letter. -/
def letterEscape? (c : Char) : Option Char :=
  match c with
  | '"' => some '"'
  | '\\' => some '\\'
  | '/' => some '/'
  | 'b' => some '\x08'
  | 'f' => some '\x0c'
  | 'n' => some '\n'
  | 'r' => some '\r'
  | 't' => some '\t'
  | _ => none

/-- The character of the escape after a backslash. -/
def escape (text : List Char) : Except Fault (Char × List Char) :=
  match text with
  | [] => .error (.here .endInString [])
  | c :: rest =>
    match letterEscape? c with
    | some d => .ok (d, rest)
    | none => if c = 'u' then hexChar rest else .error (.next .invalidEscape text)

/-- The characters of a string, put after those already read, which come in reverse. Every step takes a character, so
that a text no shorter than what is read can count the `steps`. -/
def stringFrom : (steps : List Char) → (done : List Char) → Reader (List Char)
  | _, _, [] => .error (.here .endInString [])
  | [], _, text => .error (.here .endInString text)
  | _ :: steps, done, c :: rest =>
    if c = '"' then .ok (done.reverse, rest)
    else if c = '\\' then do
      let (d, after) ← escape rest
      stringFrom steps (d :: done) after
    else if c.toNat < 0x20 then .error (.next .controlCharacter (c :: rest))
    else stringFrom steps (c :: done) rest

/-- A string whose opening quote was read. -/
def stringBody : Reader String := fun text => do
  let (chars, rest) ← stringFrom text [] text
  return (String.ofList chars, rest)

/-- Passes over the escape after a backslash. -/
def skipEscape (text : List Char) : Except Fault (List Char) :=
  match text with
  | [] => .error (.here .endInString [])
  | c :: rest =>
    if (letterEscape? c).isSome then .ok rest
    else if c = 'u' then (hexEscape rest).map (·.2)
    else .error (.next .invalidEscape text)

/-- Passes over the characters of a string; a text no shorter counts the `steps`. -/
def skipStringFrom : (steps : List Char) → List Char → Except Fault (List Char)
  | _, [] => .error (.here .endInString [])
  | [], text => .error (.here .endInString text)
  | _ :: steps, c :: rest =>
    if c = '"' then .ok rest
    else if c = '\\' then do skipStringFrom steps (← skipEscape rest)
    else if c.toNat < 0x20 then .error (.here .controlCharacter (c :: rest))
    else skipStringFrom steps rest

/-- Passes over a string whose opening quote was read. -/
def skipString (text : List Char) : Except Fault (List Char) :=
  skipStringFrom text text

end Colloquy.Json
