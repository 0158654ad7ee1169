import Colloquy.Text.Quoted
import Colloquy.Text.Utf8
import Colloquy.Json.Basic
import Colloquy.Decimal.Notation

/-!
# What can be wrong with a JSON text

A fault is a cause and the place where it was noticed. While a text is read, the place is known as the number of bytes
not yet read (`Fault.left`); only the whole text turns that into a line and a column (`Place.of`). Faults of values
that were read before and are only interpreted have no place.
-/

namespace Colloquy.Json

/-- What was found where something else was expected. -/
inductive Found where
  | null
  | bool (value : Bool)
  | number (value : JsonNumber)
  | string (value : String)
  | sequence
  | map
  deriving DecidableEq, Repr

/-- Why a text is refused. -/
inductive Cause where
  | endInValue
  | endInList
  | endInObject
  | endInString
  | expectedValue
  | expectedColon
  | expectedCommaOrBracket
  | expectedCommaOrBrace
  | expectedIdent
  | keyMustBeString
  | invalidNumber
  | numberOutOfRange
  | invalidEscape
  | unpairedHexEscape
  | loneSurrogate
  | controlCharacter
  | trailingComma
  | trailingCharacters
  | tooDeep
  | invalidType (found : Found) (expected : String)
  | invalidValue (found : Found) (expected : String)
  | invalidLength (length : Nat) (expected : String)
  | unknownVariant (name : String) (expected : List String)
  | missingField (name : String)
  | duplicateField (name : String)
  | custom (text : String)
  deriving DecidableEq, Repr

/-- A cause, and the number of bytes that were not yet read when it was noticed. -/
structure Fault where
  cause : Cause
  left : Option Nat
  deriving DecidableEq, Repr

namespace Fault

/-- A fault at what has been read so far. -/
def here (cause : Cause) (rest : List Char) : Fault :=
  ⟨cause, some (Utf8.size rest)⟩

/-- A fault at the next byte, which counts as read; at the end of the text there is none. -/
def next (cause : Cause) (rest : List Char) : Fault :=
  ⟨cause, some (Utf8.size rest - 1)⟩

/-- A fault of a value that was read before. -/
def unplaced (cause : Cause) : Fault :=
  ⟨cause, none⟩

end Fault

/-- A value found, in words. -/
def Found.describe : Found → String
  | .null => "null"
  | .bool b => "boolean `" ++ (if b then "true" else "false") ++ "`"
  | .number (.int n) => "integer `" ++ toString n ++ "`"
  | .number (.float x) => "floating point `" ++ String.ofList (FloatStyle.json.write x) ++ "`"
  | .string s => "string " ++ Text.quoted s
  | .sequence => "sequence"
  | .map => "map"

/-- The names a variant may have, in words. -/
def describeChoices : List String → String
  | [] => "there are no variants"
  | [a] => "expected `" ++ a ++ "`"
  | [a, b] => "expected `" ++ a ++ "` or `" ++ b ++ "`"
  | names => "expected one of " ++ ", ".intercalate (names.map fun n => "`" ++ n ++ "`")

/-- The cause in words. -/
def Cause.message : Cause → String
  | .endInValue => "EOF while parsing a value"
  | .endInList => "EOF while parsing a list"
  | .endInObject => "EOF while parsing an object"
  | .endInString => "EOF while parsing a string"
  | .expectedValue => "expected value"
  | .expectedColon => "expected `:`"
  | .expectedCommaOrBracket => "expected `,` or `]`"
  | .expectedCommaOrBrace => "expected `,` or `\x7d`"
  | .expectedIdent => "expected ident"
  | .keyMustBeString => "key must be a string"
  | .invalidNumber => "invalid number"
  | .numberOutOfRange => "number out of range"
  | .invalidEscape => "invalid escape"
  | .unpairedHexEscape => "unexpected end of hex escape"
  | .loneSurrogate => "lone leading surrogate in hex escape"
  | .controlCharacter => "control character (\\u0000-\\u001F) found while parsing a string"
  | .trailingComma => "trailing comma"
  | .trailingCharacters => "trailing characters"
  | .tooDeep => "recursion limit exceeded"
  | .invalidType found expected => "invalid type: " ++ found.describe ++ ", expected " ++ expected
  | .invalidValue found expected => "invalid value: " ++ found.describe ++ ", expected " ++ expected
  | .invalidLength n expected => "invalid length " ++ toString n ++ ", expected " ++ expected
  | .unknownVariant name choices => "unknown variant `" ++ name ++ "`, " ++ describeChoices choices
  | .missingField name => "missing field `" ++ name ++ "`"
  | .duplicateField name => "duplicate field `" ++ name ++ "`"
  | .custom text => text

/-- A place in a text: lines count from one, and a column is the number of bytes of the line that were read. -/
structure Place where
  line : Nat
  column : Nat
  deriving DecidableEq, Repr

/-- Moves a place over the first `bytes` bytes of a text. -/
def Place.advance (place : Place) (bytes : Nat) : List Char → Place
  | [] => place
  | c :: rest =>
    if bytes < c.utf8Size then ⟨place.line, place.column + bytes⟩
    else if c = '\n' then Place.advance ⟨place.line + 1, 0⟩ (bytes - 1) rest
    else Place.advance ⟨place.line, place.column + c.utf8Size⟩ (bytes - c.utf8Size) rest

/-- The place in a text before its last `left` bytes. -/
def Place.of (text : List Char) (left : Nat) : Place :=
  Place.advance ⟨1, 0⟩ (Utf8.size text - left) text

/-- The whole message about a fault in a text. -/
def Fault.message (text : List Char) (fault : Fault) : String :=
  match fault.left with
  | none => fault.cause.message
  | some left =>
    let place := Place.of text left
    fault.cause.message ++ " at line " ++ toString place.line ++ " column " ++ toString place.column

end Colloquy.Json
