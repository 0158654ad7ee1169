import Colloquy.LogFilter.FieldMatch
import Colloquy.Text.Blank
import Colloquy.Text.Utf8

/-!
# Directives of a log filter

A directive gives a level to records: to those of a target, those inside a span, those with a field, or to all others.
It is written `target[span{field=value}]=level`, where each part may be missing; `LogDirective.ofText?` reads it.
-/

namespace Colloquy

/-- A level for the records of a target, inside a span, with a field; what is left out is not asked for. -/
structure LogDirective where
  target : Option String
  span : Option String := none
  field : Option FieldMatch := none
  level : LogLevel
  deriving DecidableEq, Repr

instance : Inhabited LogDirective := ⟨{ target := none, level := .off }⟩

namespace LogDirective

/-- The directive as text. -/
def toText (d : LogDirective) : String :=
  let place :=
    match d.span, d.field with
    | none, none => d.target.getD ""
    | span, field =>
      d.target.getD "" ++ "[" ++ span.getD "" ++ (field.map fun f => "\x7b" ++ f.toText ++ "\x7d").getD "" ++ "]"
  match d.target, d.span, d.field with
  | none, none, none => d.level.name
  | _, _, _ => place ++ "=" ++ d.level.name

/-- Whether two directives are about the same records, so that the later takes the place of the earlier. -/
def sameScope (a b : LogDirective) : Bool :=
  let normal (f : FieldMatch) : FieldMatch := { f with value := f.value.map FieldValue.normal }
  a.target = b.target && a.span = b.span && a.field.map normal = b.field.map normal

/-- Whether a record alone decides if the directive is about it: no span is asked for, and no value. -/
def isPlain (d : LogDirective) : Bool :=
  d.span.isNone && (d.field.bind (·.value)).isNone

/-- Whether the directive is about spans or fields. -/
def isContextual (d : LogDirective) : Bool :=
  d.span.isSome || d.field.isSome

/-- Whether a directive may start with a character: a letter, a digit, or one of three marks. -/
def mayStart (c : Char) : Bool :=
  c = '-' || c = ':' || c = '_' || Text.isAlphanumeric c

/-- The characters that start at one of the bytes from `start` up to `stop`. -/
def cut (start stop : Nat) (text : List Char) : List Char :=
  match text with
  | [] => []
  | c :: rest =>
    match stop with
    | 0 => []
    | _ =>
      let tail := cut (start - c.utf8Size) (stop - c.utf8Size) rest
      if start = 0 then c :: tail else tail

/-- The first character that satisfies `p`, with the byte where it starts and the text after it. -/
def seek (p : Char → Bool) (start : Nat) : List Char → Option (Char × Nat × List Char)
  | [] => none
  | c :: rest => if p c then some (c, start, rest) else seek p (start + c.utf8Size) rest

/-- The level that a text names; no text asks for everything. -/
def levelOf? (text : List Char) : Option LogLevel :=
  match text with
  | [] => some .trace
  | _ => LogLevel.ofText? text

/-- The directive that a text writes: `target=level`, a level alone, or a target alone, which asks for everything. Marks
are sought in the text without the blanks around it, and the parts are then cut from the text as it is. -/
def ofText? (text : List Char) : Option LogDirective :=
  let trimmed := Text.trim text
  let size := Utf8.size text
  let part (start stop : Nat) : String := String.ofList (cut start stop text)
  let levelFrom (start : Nat) : Option LogLevel := levelOf? (cut start size text)
  let atEnd (d : LogDirective) (start : Nat) : List Char → Option LogDirective
    | [] => some { d with level := .trace }
    | '=' :: _ => (levelFrom (start + 1)).map fun level => { d with level := level }
    | _ => none
  let spanFrom (target : Option String) (start : Nat) (rest : List Char) : Option LogDirective := do
    let (mark, stop, after) ← seek (fun c => c = ']' || c = '{') start rest
    if mark = ']' then atEnd { target := target, span := some (part start stop), level := .trace } (stop + 1) after
    else
      let span := if start = stop then none else some (part start stop)
      let (_, close, after) ← seek (· = '}') (stop + 1) after
      if close = stop + 1 then none
      else
        let field ← FieldMatch.ofText? (cut (stop + 1) close text)
        match after with
        | ']' :: after => atEnd { target := target, span := span, field := some field, level := .trace } (close + 2) after
        | _ => none
  match trimmed with
  | [] => none
  | '[' :: rest => spanFrom none 1 rest
  | c :: _ =>
    if mayStart c then
      match seek (fun c => c = '=' || c = '[') 0 trimmed with
      | none =>
        match LogLevel.ofText? text with
        | some level => some { target := none, level := level }
        | none => some { target := some (String.ofList text), level := .trace }
      | some (mark, stop, rest) =>
        let target := some (part 0 stop)
        if mark = '[' then spanFrom target (stop + 1) rest
        else (levelFrom (stop + 1)).map fun level => { target := target, level := level }
    else none

end LogDirective

end Colloquy
