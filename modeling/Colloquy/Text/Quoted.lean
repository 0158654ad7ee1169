import Colloquy.Text.Unprintable

/-!
# Quoted text for people

Text as it is shown inside a message: between double quotes, with a backslash before a quote or a backslash, letters
for the usual control characters, and the hexadecimal number of any other character that could not be seen.
-/

namespace Colloquy.Text

/-- A character inside the quotes. -/
def quotedChar (c : Char) : List Char :=
  match c with
  | '\x00' => ['\\', '0']
  | '\t' => ['\\', 't']
  | '\r' => ['\\', 'r']
  | '\n' => ['\\', 'n']
  | '\\' => ['\\', '\\']
  | '"' => ['\\', '"']
  | _ => if isUnprintable c then ['\\', 'u', '{'] ++ Nat.toDigits 16 c.toNat ++ ['}'] else [c]

/-- A text in quotes. -/
def quoted (text : String) : String :=
  String.ofList ('"' :: text.toList.flatMap quotedChar ++ ['"'])

end Colloquy.Text
