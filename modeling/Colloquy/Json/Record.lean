import Colloquy.Json.ValueReader

/-!
# Reading values of a known shape

Where a text, a whole number or a record is expected, any other value is a fault that names both. A record is an
object with its fields in any order, unknown ones passed over, or an array of its fields in their order. Its fields
are read into `slots`, one after the other, and `Record.finish` turns these into the value or names the first field
that is missing.
-/

namespace Colloquy.Json

/-- The fault of a value that is not of the expected kind. Numbers, words and strings are read first, and may have a
fault of their own; arrays and objects are not entered. -/
def wrongType {α : Type} (expected : String) : Reader α := fun text =>
  let refuse (found : Found) (rest : List Char) : Except Fault (α × List Char) :=
    .error (.here (.invalidType found expected) rest)
  match skipSpaces text with
  | [] => .error (.next .endInValue [])
  | c :: rest =>
    if c = 'n' then do refuse .null (← literal "ull".toList rest)
    else if c = 't' then do refuse (.bool true) (← literal "rue".toList rest)
    else if c = 'f' then do refuse (.bool false) (← literal "alse".toList rest)
    else if c = '-' ∨ isDigit c then do
      let (n, rest) ← number (c :: rest)
      refuse (.number n) rest
    else if c = '"' then do
      let (s, rest) ← stringBody rest
      refuse (.string s) rest
    else if c = '[' then refuse .sequence (c :: rest)
    else if c = '{' then refuse .map (c :: rest)
    else .error (.next .expectedValue (c :: rest))

/-- A string that a further rule must accept. -/
def stringAs {α : Type} (expected : String) (accept : String → Except Cause α) : Reader α := fun text =>
  match skipSpaces text with
  | '"' :: rest => do
    let (s, rest) ← stringBody rest
    match accept s with
    | .ok v => .ok (v, rest)
    | .error cause => .error (.here cause rest)
  | start => wrongType expected start

/-- A string. -/
def string : Reader String :=
  stringAs "a string" .ok

/-- A whole number from zero to `limit`. -/
def natUpTo (expected : String) (limit : Nat) : Reader Nat := fun text =>
  match skipSpaces text with
  | [] => .error (.next .endInValue [])
  | c :: rest =>
    if c = '-' ∨ isDigit c then do
      let (n, rest) ← number (c :: rest)
      match n with
      | .int i =>
        if 0 ≤ i ∧ i ≤ limit then .ok (i.toNat, rest)
        else .error (.here (.invalidValue (.number n) expected) rest)
      | .float _ => .error (.here (.invalidType (.number n) expected) rest)
    else wrongType expected (c :: rest)

/-- A whole number of 32 bits. -/
def nat32 : Reader Nat :=
  natUpTo "u32" 0xFFFFFFFF

/-- A whole number of 64 bits. -/
def nat64 : Reader Nat :=
  natUpTo "u64" 0xFFFFFFFFFFFFFFFF

/-- A value that may be `null`, which stands for none. -/
def optional {α : Type} (reader : Reader α) : Reader (Option α) := fun text =>
  match skipSpaces text with
  | 'n' :: rest => do return (none, ← literal "ull".toList rest)
  | start => do
    let (v, rest) ← reader start
    return (some v, rest)

/-- An array. -/
def array {α : Type} (item : Nat → Reader α) (depth : Nat) : Reader (List α) := fun text =>
  match skipSpaces text with
  | '[' :: rest =>
    match depth with
    | 0 => .error (.next .tooDeep ('[' :: rest))
    | inner + 1 => items (item inner) rest
  | start => wrongType "a sequence" start

/-- One of several names: a string, or an object whose only key is the name and whose value is `null`. -/
def choice {α : Type} (names : List (String × α)) (depth : Nat) : Reader α := fun text =>
  let name : Reader α := fun text => do
    let (s, rest) ← stringBody text
    match names.lookup s with
    | some v => .ok (v, rest)
    | none => .error (.here (.unknownVariant s (names.map (·.1))) rest)
  match skipSpaces text with
  | [] => .error (.next .endInValue [])
  | '"' :: rest => name rest
  | '{' :: rest =>
    match depth with
    | 0 => .error (.next .tooDeep ('{' :: rest))
    | _ + 1 => do
      let (present, start) ← nextKey true rest
      if !present then .error (.next .expectedValue (skipSpaces rest))
      else
        let (v, rest) ← name start
        let rest ← colon rest
        let rest ← match skipSpaces rest with
          | 'n' :: rest => literal "ull".toList rest
          | start => (wrongType "unit" start).map fun (_ : Unit × List Char) => []
        match skipSpaces rest with
        | '}' :: rest => .ok (v, rest)
        | [] => .error (.here .endInObject [])
        | start => .error (.here .expectedValue start)
  | start => .error (.next .expectedValue start)

/-- A field of a record: its name, whether it was read, and how its value changes the slots. -/
structure Field (σ : Type) where
  name : String
  isSet : σ → Bool
  read : Nat → σ → Reader σ

/-- A field that puts its value into a slot. -/
def Field.slot {σ β : Type} (name : String) (get : σ → Option β) (set : σ → β → σ) (reader : Nat → Reader β) : Field σ where
  name := name
  isSet := fun s => (get s).isSome
  read := fun depth s text => do
    let (v, rest) ← reader depth text
    return (set s v, rest)

/-- A record: what it is called, its fields in their order, the slots before any is read, and what the slots make. -/
structure Record (σ α : Type) where
  title : String
  fields : List (Field σ)
  start : σ
  finish : σ → Except String α

namespace Record

variable {σ α : Type}

/-- The record and the number of its fields, in words. -/
def describe (r : Record σ α) : String :=
  r.title ++ " with " ++ toString r.fields.length ++ (if r.fields.length = 1 then " element" else " elements")

/-- The text after an object that was left inside: over spaces, and over its end if that comes next. -/
def leaveObject (text : List Char) : List Char :=
  match skipSpaces text with
  | '}' :: rest => rest
  | start => start

/-- The fields of an object whose brace was read. A text no shorter counts the `steps`. -/
def fieldsFrom (r : Record σ α) (depth : Nat) : (steps : List Char) → (first : Bool) → σ → Reader σ
  | [], _, _, text => .error (.here .endInObject text)
  | _ :: steps, first, slots, text => do
    let (more, start) ← nextKey first text
    if more then
      let (key, rest) ← stringBody start
      match r.fields.find? (·.name == key) with
      | none =>
        let rest ← skipValue (← colon rest)
        fieldsFrom r depth steps false slots rest
      | some f =>
        if f.isSet slots then .error (.here (.duplicateField f.name) (leaveObject rest))
        else
          let (slots, rest) ← f.read depth slots (← colon rest)
          fieldsFrom r depth steps false slots rest
    else
      .ok (slots, start)

/-- The fields of an array whose bracket was read, for as long as it has items. The flag says whether the array has
ended. -/
def itemsFrom (depth : Nat) : List (Field σ) → (first : Bool) → σ → Reader (σ × Bool)
  | [], _, slots, text => .ok ((slots, false), text)
  | f :: fs, first, slots, text => do
    let (more, start) ← nextItem first text
    if more then
      let (slots, rest) ← f.read depth slots start
      itemsFrom depth fs false slots rest
    else
      .ok ((slots, true), start)

/-- The record from an object whose brace was read. -/
def ofObject (r : Record σ α) (depth : Nat) : Reader α := fun text => do
  let (slots, rest) ← r.fieldsFrom depth text true r.start text
  match r.finish slots with
  | .ok v => .ok (v, rest)
  | .error missing => .error (.here (.missingField missing) rest)

/-- The record from an array whose bracket was read. -/
def ofArray (r : Record σ α) (depth : Nat) : Reader α := fun text => do
  let ((slots, ended), rest) ← itemsFrom depth r.fields true r.start text
  let rest ← if ended then pure rest else closeArray rest
  match r.finish slots with
  | .ok v => .ok (v, rest)
  | .error missing => .error (.here (.invalidLength (r.fields.findIdx (·.name == missing)) r.describe) rest)

/-- The record. -/
def read (r : Record σ α) (depth : Nat) : Reader α := fun text =>
  match skipSpaces text with
  | '[' :: rest =>
    match depth with
    | 0 => .error (.next .tooDeep ('[' :: rest))
    | inner + 1 => r.ofArray inner rest
  | '{' :: rest =>
    match depth with
    | 0 => .error (.next .tooDeep ('{' :: rest))
    | inner + 1 => r.ofObject inner rest
  | start => wrongType r.title start

end Record

/-- The value of a slot, or the name of the field that is missing. -/
def need {α : Type} (name : String) : Option α → Except String α
  | some v => .ok v
  | none => .error name

end Colloquy.Json
