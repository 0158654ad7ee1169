import Colloquy.Text.Casing

/-!
# Lowercase text

Every capital letter becomes its small letter. Two letters need more than the table: the capital I with a dot above
becomes two characters, and a capital sigma that ends a word becomes the final sigma. A sigma ends a word when the
nearest character before it that is not passed over has a case and the nearest one after it has none.
-/

namespace Colloquy.Text

/-- Whether the first character that is not passed over is a letter with a case. -/
def meetsCased (text : List Char) : Bool :=
  match text.dropWhile isCaseIgnorable with
  | [] => false
  | c :: _ => isCased c

/-- The lowercase of one character away from the end of a word. -/
def lowercaseChar (c : Char) : List Char :=
  if c = 'İ' then ['i', '\u0307'] else [(smallLetter? c).getD c]

/-- The lowercase of a text that follows `before`, given with the nearest character first. -/
def lowercaseAfter (before : List Char) : List Char → List Char
  | [] => []
  | c :: rest =>
    (if c = 'Σ' then [if meetsCased before && !meetsCased rest then 'ς' else 'σ'] else lowercaseChar c)
      ++ lowercaseAfter (c :: before) rest

/-- The lowercase of a text. -/
def lowercase (text : List Char) : List Char :=
  lowercaseAfter [] text

end Colloquy.Text
