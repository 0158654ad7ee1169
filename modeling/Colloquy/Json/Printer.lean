import Colloquy.Json.Basic
import Colloquy.Decimal.Notation

/-!
# Writing JSON

Two layouts of a value: `print` writes it without any space, `pretty` with one item or field on a line, indented by
two spaces. In strings only the quote, the backslash and the characters below the space are escaped.
-/

namespace Colloquy.Json

/-- A character inside a string. -/
def escapeChar (c : Char) : List Char :=
  match c with
  | '"' => ['\\', '"']
  | '\\' => ['\\', '\\']
  | '\x08' => ['\\', 'b']
  | '\x0c' => ['\\', 'f']
  | '\n' => ['\\', 'n']
  | '\r' => ['\\', 'r']
  | '\t' => ['\\', 't']
  | _ =>
    if c.toNat < 0x20 then ['\\', 'u', '0', '0', Nat.digitChar (c.toNat / 16), Nat.digitChar (c.toNat % 16)] else [c]

/-- A string with its quotes. -/
def printString (text : List Char) : List Char :=
  '"' :: text.flatMap escapeChar ++ ['"']

/-- A number. -/
def printNumber : JsonNumber → List Char
  | .int n => if n < 0 then '-' :: Nat.toDigits 10 n.natAbs else Nat.toDigits 10 n.natAbs
  | .float x => FloatStyle.json.write x

mutual

/-- The text of a value, without spaces. -/
def print : Json → List Char
  | .null => "null".toList
  | .bool true => "true".toList
  | .bool false => "false".toList
  | .num n => printNumber n
  | .str s => printString s.toList
  | .arr [] => ['[', ']']
  | .arr (v :: rest) => '[' :: print v ++ printItems rest
  | .obj [] => ['{', '}']
  | .obj ((k, v) :: rest) => '{' :: printString k.toList ++ ':' :: print v ++ printFields rest

/-- The items of an array after the first, and its end. -/
def printItems : List Json → List Char
  | [] => [']']
  | v :: rest => ',' :: print v ++ printItems rest

/-- The fields of an object after the first, and its end. -/
def printFields : List (String × Json) → List Char
  | [] => ['}']
  | (k, v) :: rest => ',' :: printString k.toList ++ ':' :: print v ++ printFields rest

end

/-- A new line at a depth. -/
def newline (depth : Nat) : List Char :=
  '\n' :: List.replicate (2 * depth) ' '

mutual

/-- The text of a value at a depth, one item or field on a line. -/
def prettyAt (depth : Nat) : Json → List Char
  | .arr (v :: rest) => '[' :: newline (depth + 1) ++ prettyAt (depth + 1) v ++ prettyItems depth rest
  | .obj ((k, v) :: rest) =>
    '{' :: newline (depth + 1) ++ printString k.toList ++ ':' :: ' ' :: prettyAt (depth + 1) v ++ prettyFields depth rest
  | v => print v

/-- The items of an array after the first, each on its line, and the end of the array. -/
def prettyItems (depth : Nat) : List Json → List Char
  | [] => newline depth ++ [']']
  | v :: rest => ',' :: newline (depth + 1) ++ prettyAt (depth + 1) v ++ prettyItems depth rest

/-- The fields of an object after the first, each on its line, and the end of the object. -/
def prettyFields (depth : Nat) : List (String × Json) → List Char
  | [] => newline depth ++ ['}']
  | (k, v) :: rest =>
    ',' :: newline (depth + 1) ++ printString k.toList ++ ':' :: ' ' :: prettyAt (depth + 1) v ++ prettyFields depth rest

end

/-- The text of a value with one item or field on a line. -/
def pretty (v : Json) : List Char :=
  prettyAt 0 v

/-- The text of a value, without spaces, as a string. -/
def compact (v : Json) : String :=
  String.ofList v.print

end Colloquy.Json
