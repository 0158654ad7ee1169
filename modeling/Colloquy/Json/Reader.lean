import Colloquy.Json.Fault

/-!
# Reading

A reader takes what is left of a text and gives a value and what is left after it, or a fault. Nothing else is
remembered: a fault knows its place by what is left. Here are the readers that all others share: blanks, the literal
words, and the ends and separators of arrays and objects.
-/

namespace Colloquy.Json

/-- What reads a value from the front of a text. -/
abbrev Reader (α : Type) := List Char → Except Fault (α × List Char)

/-- Whether a character may stand between the parts of a text. -/
def isSpace (c : Char) : Bool :=
  c = ' ' || c = '\n' || c = '\t' || c = '\r'

/-- The text from its next part on. -/
def skipSpaces (rest : List Char) : List Char :=
  rest.dropWhile isSpace

/-- The rest of a literal word whose first letter was read. -/
def literal (letters : List Char) (rest : List Char) : Except Fault (List Char) :=
  match letters, rest with
  | [], rest => .ok rest
  | _ :: _, [] => .error (.here .endInValue [])
  | a :: as, c :: cs => if a = c then literal as cs else .error (.next .expectedIdent (c :: cs))

/-- Goes to the next item of an array: `some` text that starts with it, or `none` and the text after the array. -/
def nextItem (first : Bool) (text : List Char) : Except Fault (Bool × List Char) :=
  match skipSpaces text with
  | [] => .error (.next .endInList [])
  | ']' :: rest => .ok (false, rest)
  | c :: rest =>
    if first then .ok (true, c :: rest)
    else if c = ',' then
      match skipSpaces rest with
      | [] => .error (.next .endInValue [])
      | ']' :: after => .error (.next .trailingComma (']' :: after))
      | start => .ok (true, start)
    else .error (.next .expectedCommaOrBracket (c :: rest))

/-- Goes to the next key of an object: `true` and the text after the quote that opens it, or `false` and the text
after the object. -/
def nextKey (first : Bool) (text : List Char) : Except Fault (Bool × List Char) :=
  match skipSpaces text with
  | [] => .error (.next .endInObject [])
  | '}' :: rest => .ok (false, rest)
  | c :: rest =>
    if first then
      if c = '"' then .ok (true, rest) else .error (.next .keyMustBeString (c :: rest))
    else if c = ',' then
      match skipSpaces rest with
      | [] => .error (.next .endInValue [])
      | '"' :: key => .ok (true, key)
      | '}' :: after => .error (.next .trailingComma ('}' :: after))
      | start => .error (.next .keyMustBeString start)
    else .error (.next .expectedCommaOrBrace (c :: rest))

/-- The text after the colon that follows a key. -/
def colon (text : List Char) : Except Fault (List Char) :=
  match skipSpaces text with
  | [] => .error (.next .endInObject [])
  | ':' :: rest => .ok rest
  | start => .error (.next .expectedColon start)

/-- The text after the end of an array whose items have all been taken. -/
def closeArray (text : List Char) : Except Fault (List Char) :=
  match skipSpaces text with
  | [] => .error (.next .endInList [])
  | ']' :: rest => .ok rest
  | ',' :: rest =>
    match skipSpaces rest with
    | ']' :: after => .error (.next .trailingComma (']' :: after))
    | start => .error (.next .trailingCharacters start)
  | start => .error (.next .trailingCharacters start)

/-- The items of an array whose bracket was read, in reverse and put before `done`. Every item takes at least one
character, so that a text no shorter than what is read can count the `steps`. -/
def itemsFrom {α : Type} (item : Reader α) : (steps : List Char) → (first : Bool) → (done : List α) → Reader (List α)
  | [], _, _, text => .error (.here .endInList text)
  | _ :: steps, first, done, text => do
    let (more, start) ← nextItem first text
    if more then
      let (value, rest) ← item start
      itemsFrom item steps false (value :: done) rest
    else
      .ok (done.reverse, start)

/-- The items of an array whose bracket was read, with its end. -/
def items {α : Type} (item : Reader α) : Reader (List α) := fun text =>
  itemsFrom item text true [] text

/-- Nothing but spaces may follow. -/
def finish (text : List Char) : Except Fault Unit :=
  match skipSpaces text with
  | [] => .ok ()
  | start => .error (.next .trailingCharacters start)

/-- Reads a whole text. -/
def Reader.all {α : Type} (reader : Reader α) (text : List Char) : Except Fault α := do
  let (value, rest) ← reader text
  finish rest
  return value

end Colloquy.Json
