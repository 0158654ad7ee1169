import Colloquy.Decimal.Reading

/-!
# Levels of a log

A level says how much is logged. It is named by a word, or by a number that grows with what it lets through.
-/

namespace Colloquy

/-- How much is logged, from nothing to everything. -/
inductive LogLevel where
  | off
  | error
  | warn
  | info
  | debug
  | trace
  deriving DecidableEq, Repr, Inhabited

namespace LogLevel

/-- All levels, the least verbose first. -/
def all : List LogLevel :=
  [.off, .error, .warn, .info, .debug, .trace]

/-- The name of a level. -/
def name : LogLevel → String
  | .off => "off"
  | .error => "error"
  | .warn => "warn"
  | .info => "info"
  | .debug => "debug"
  | .trace => "trace"

/-- How verbose a level is. -/
def verbosity : LogLevel → Nat
  | .off => 0
  | .error => 1
  | .warn => 2
  | .info => 3
  | .debug => 4
  | .trace => 5

/-- The whole number that a text of ASCII digits writes, a plus sign before them allowed. -/
def number? (text : List Char) : Option Nat :=
  let digits := match text with
    | '+' :: rest => rest
    | _ => text
  if digits.isEmpty || !digits.all Char.isDigit then none else some (Decimal.whole digits)

/-- The level that a text names: by its verbosity, or by its name in any case. -/
def ofText? (text : List Char) : Option LogLevel :=
  match (number? text).bind fun n => all[n]? with
  | some level => some level
  | none => all.find? fun l => l.name.toList = text.map Char.toLower

end LogLevel

end Colloquy
