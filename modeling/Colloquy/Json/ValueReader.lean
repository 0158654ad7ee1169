import Colloquy.Json.StringReader
import Colloquy.Json.NumberReader

/-!
# Reading values

Any value, to a limited depth: `value depth` refuses more than `depth` arrays and objects inside one another. The
fields of objects are kept as they come. `skipValue` passes over a value without building it and without any limit: it
remembers only which brackets are open.
-/

namespace Colloquy.Json

/-- The number of arrays and objects that may lie inside one another. -/
def depthLimit : Nat := 127

/-- The fields of an object whose brace was read, in reverse and put before `done`. Every field takes at least one
character, so that a text no shorter than what is read can count the `steps`. -/
def fieldsFrom (item : Reader Json) :
    (steps : List Char) → (first : Bool) → (done : List (String × Json)) → Reader (List (String × Json))
  | [], _, _, text => .error (.here .endInObject text)
  | _ :: steps, first, done, text => do
    let (more, start) ← nextKey first text
    if more then
      let (key, rest) ← stringBody start
      let rest ← colon rest
      let (value, rest) ← item rest
      fieldsFrom item steps false ((key, value) :: done) rest
    else
      .ok (done.reverse, start)

/-- A value with at most `depth` arrays and objects inside one another. -/
def value (depth : Nat) : Reader Json := fun text =>
  match skipSpaces text with
  | [] => .error (.next .endInValue [])
  | c :: rest =>
    if c = 'n' then do return (.null, ← literal "ull".toList rest)
    else if c = 't' then do return (.bool true, ← literal "rue".toList rest)
    else if c = 'f' then do return (.bool false, ← literal "alse".toList rest)
    else if c = '-' ∨ isDigit c then do
      let (n, rest) ← number (c :: rest)
      return (.num n, rest)
    else if c = '"' then do
      let (s, rest) ← stringBody rest
      return (.str s, rest)
    else if c = '[' then
      match depth with
      | 0 => .error (.next .tooDeep (c :: rest))
      | inner + 1 => do
        let (vs, rest) ← items (value inner) rest
        return (.arr vs, rest)
    else if c = '{' then
      match depth with
      | 0 => .error (.next .tooDeep (c :: rest))
      | inner + 1 => do
        let (fs, rest) ← fieldsFrom (value inner) rest true [] rest
        return (.obj fs, rest)
    else .error (.next .expectedValue (c :: rest))

/-- The value that a whole text holds, objects as they are written. -/
def read (text : String) : Except Fault Json :=
  Reader.all (value depthLimit) text.toList

/-- A container that is open while a value is passed over. -/
inductive Bracket where
  | array
  | object
  deriving DecidableEq, Repr

/-- The text ends while a container is open. -/
def Bracket.endCause : Bracket → Cause
  | .array => .endInList
  | .object => .endInObject

/-- Passes over a value that is neither an array nor an object, at its first character; `none` at a bracket. -/
def skipScalar (c : Char) (rest : List Char) : Except Fault (Option (List Char)) :=
  if c = 'n' then (literal "ull".toList rest).map some
  else if c = 't' then (literal "rue".toList rest).map some
  else if c = 'f' then (literal "alse".toList rest).map some
  else if c = '-' then (skipUnsigned rest).map some
  else if isDigit c then (skipUnsigned (c :: rest)).map some
  else if c = '"' then (skipString rest).map some
  else if c = '[' ∨ c = '{' then .ok none
  else .error (.next .expectedValue (c :: rest))

/-- Passes over a key and its colon, or nothing in an array, to where the next value starts. -/
def skipToValue (open_ : Bracket) (text : List Char) : Except Fault (List Char) :=
  match open_ with
  | .array => .ok text
  | .object =>
    match skipSpaces text with
    | [] => .error (.next .endInObject [])
    | '"' :: rest => do colon (← skipString rest)
    | start => .error (.next .keyMustBeString start)

/-- Closes brackets until another value follows: the brackets still open and the text of that value, or no bracket and
the text after the outermost one. A comma may come only after a value. A text no shorter counts the `steps`. -/
def skipToNext (afterValue : Bool) :
    List Bracket → (steps : List Char) → List Char → Except Fault (List Bracket × List Char)
  | [], _, text => .ok ([], text)
  | b :: _, [], text => .error (.here b.endCause text)
  | b :: outer, _ :: steps, text =>
    match skipSpaces text with
    | [] => .error (.next b.endCause [])
    | c :: rest =>
      if c = ',' ∧ afterValue then do return (b :: outer, ← skipToValue b rest)
      else if (c = ']' ∧ b = .array) ∨ (c = '}' ∧ b = .object) then skipToNext true outer steps rest
      else if afterValue then
        .error (.next (match b with | .array => .expectedCommaOrBracket | .object => .expectedCommaOrBrace) (c :: rest))
      else do return (b :: outer, ← skipToValue b (c :: rest))

/-- Passes over values until no bracket is open. Every step takes a character; a text no shorter counts the `steps`. -/
def skipFrom : (steps : List Char) → List Bracket → List Char → Except Fault (List Char)
  | [], _, text => .error (.here .endInValue text)
  | _ :: steps, opened, text =>
    match skipSpaces text with
    | [] => .error (.next .endInValue [])
    | c :: rest => do
      let (opened, text) ← match ← skipScalar c rest with
        | some after => skipToNext true opened steps after
        | none => skipToNext false ((if c = '[' then .array else .object) :: opened) steps rest
      if opened.isEmpty then .ok text else skipFrom steps opened text

/-- Passes over a value of any depth. -/
def skipValue (text : List Char) : Except Fault (List Char) :=
  skipFrom text [] text

end Colloquy.Json
