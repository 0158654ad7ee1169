import Colloquy.LogFilter.Directive

/-!
# Which log records are kept

A filter is a list of directives. There is one for each scope; a later one takes the place of an earlier one.
`LogFilter.build` starts from what a text asks for, puts the bare level at `warn`, and for a verbose log raises the
library's own targets to `debug`.
-/

namespace Colloquy

/-- A filter: the directives that a record alone decides about, and those about spans and fields. A directive about the
name of a field is among both. -/
structure LogFilter where
  plain : List LogDirective := []
  contextual : List LogDirective := []
  deriving DecidableEq, Repr, Inhabited

namespace LogFilter

/-- Adds a directive to a list, in the place of one for the same scope. -/
def put (ds : List LogDirective) (d : LogDirective) : List LogDirective :=
  if ds.any d.sameScope then ds.map fun e => if d.sameScope e then d else e else ds ++ [d]

/-- Adds a directive. -/
def add (f : LogFilter) (d : LogDirective) : LogFilter :=
  { plain := if d.isPlain then put f.plain d else f.plain
    contextual := if d.isContextual then put f.contextual d else f.contextual }

/-- The targets of the library's own records. -/
def ownTargets : List String :=
  ["parley.session", "parley.events", "parley.provider", "parley.registry", "parley.decoder"]

/-- The pieces of a text between commas. -/
def pieces : List Char → List (List Char)
  | [] => [[]]
  | c :: rest =>
    match pieces rest with
    | [] => [[c]]
    | piece :: more => if c = ',' then [] :: piece :: more else (c :: piece) :: more

/-- The directives that a text asks for; what is no directive is passed over. -/
def requested (text : String) : List LogDirective :=
  (pieces text.toList).filterMap LogDirective.ofText?

/-- The filter for what a text asks for, or for no text. -/
def build (verbose : Bool) (text : Option String) : LogFilter :=
  let base := ((text.map requested).getD []).foldl add {}
  let floor := base.add { target := none, level := .warn }
  if verbose then (ownTargets.map fun t => { target := some t, level := .debug }).foldl add floor else floor

/-- The directives as texts, in the order of their characters. -/
def texts (f : LogFilter) : List String :=
  ((f.plain ++ f.contextual).map LogDirective.toText).mergeSort fun a b => decide (a ≤ b)

end LogFilter

end Colloquy
