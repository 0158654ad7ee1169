import Colloquy.Decimal.Notation
import Colloquy.LogFilter.Level
import Colloquy.Text.Pattern

/-!
# Fields of a log record

A directive may ask for records that have a field of some name, or of some name and value. A value is a truth value, a
number, or a pattern that the field's text must match; it is the first of these that its text can be read as.
-/

namespace Colloquy

/-- The value that a field must have. -/
inductive FieldValue where
  | truth (b : Bool)
  | natural (n : Nat)
  | whole (i : Int)
  | double (x : Binary64)
  | pattern (text : String)
  deriving DecidableEq, Repr

namespace FieldValue

/-- The whole number of 64 bits, of either sign, that a text writes. -/
def whole? (text : List Char) : Option Int :=
  let (negative, digits) := Decimal.signed text
  if digits.isEmpty || !digits.all Char.isDigit then none
  else
    let n := Decimal.whole digits
    if negative then if n ≤ 0x8000000000000000 then some (-(n : Int)) else none
    else if n < 0x8000000000000000 then some n else none

/-- The natural number of 64 bits that a text writes. -/
def natural? (text : List Char) : Option Nat :=
  (LogLevel.number? text).filter (· ≤ 0xFFFFFFFFFFFFFFFF)

/-- The value that a text writes. -/
def ofText? (text : List Char) : Option FieldValue :=
  if text = "true".toList then some (.truth true)
  else if text = "false".toList then some (.truth false)
  else match natural? text, whole? text, Binary64.ofText? text with
    | some n, _, _ => some (.natural n)
    | none, some i, _ => some (.whole i)
    | none, none, some x => some (.double x)
    | none, none, none => if Text.isPattern text then some (.pattern (String.ofList text)) else none

/-- The value as text. -/
def toText : FieldValue → String
  | .truth b => if b then "true" else "false"
  | .natural n => toString n
  | .whole i => toString i
  | .double x => String.ofList x.plain
  | .pattern p => p

/-- The value with the sign taken from a zero: values that are equal as numbers are then equal. -/
def normal : FieldValue → FieldValue
  | .double x => .double (if x.isZero then .zero else x)
  | v => v

end FieldValue

/-- The name of a field that a record must have, and the value it must have, if any will not do. -/
structure FieldMatch where
  name : String
  value : Option FieldValue
  deriving DecidableEq, Repr

namespace FieldMatch

/-- The name and the value that an equals sign parts; a second one ends the value. -/
def ofText? (text : List Char) : Option FieldMatch :=
  let name := String.ofList (text.takeWhile (· ≠ '='))
  match text.dropWhile (· ≠ '=') with
  | [] => some ⟨name, none⟩
  | _ :: rest => (FieldValue.ofText? (rest.takeWhile (· ≠ '='))).map fun v => ⟨name, some v⟩

/-- The field as text. -/
def toText (f : FieldMatch) : String :=
  match f.value with
  | none => f.name
  | some v => f.name ++ "=" ++ v.toText

end FieldMatch

end Colloquy
