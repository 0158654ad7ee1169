import Colloquy.Json.Reader

/-!
# Reading numbers

The digits of a number are gathered into a significand below 2^64; digits that no longer fit only move the point. A
number without point and exponent whose digits fit is a whole number, unless it is below the least 64-bit integer or a
negative zero. Any other is the significand scaled by a power of ten, in double precision.
-/

namespace Colloquy.Json

/-- Whether a character is a decimal digit. -/
def isDigit (c : Char) : Bool :=
  '0' ≤ c && c ≤ '9'

/-- The value of a decimal digit. -/
def digitValue (c : Char) : Nat :=
  c.toNat - 48

/-- Adds digits to a significand until one no longer fits in 64 bits; the second part counts those left out. -/
def gather (significand : Nat) : List Char → Nat × Nat
  | [] => (significand, 0)
  | d :: ds =>
    let next := significand * 10 + digitValue d
    if next ≤ 0xFFFFFFFFFFFFFFFF then gather next ds else (significand, ds.length + 1)

/-- A power of ten times a double, or nothing when it is too large. A power below `1e-308` is taken in steps; three
of them bring every 64-bit significand to zero. -/
def scale : (fuel : Nat) → Binary64 → Int → Option Binary64
  | 0, x, _ => some x
  | fuel + 1, x, exponent =>
    if exponent.natAbs ≤ 308 then
      if 0 ≤ exponent then
        let y := x.mul (.powerOfTen exponent.natAbs)
        if y.isInfinite then none else some y
      else some (x.div (.powerOfTen exponent.natAbs))
    else if x.isZero then some x
    else if 0 ≤ exponent then none
    else scale fuel (x.div (.powerOfTen 308)) (exponent + 308)

/-- The double of a significand and a power of ten. -/
def toDouble (negative : Bool) (significand : Nat) (exponent : Int) (rest : List Char) :
    Except Fault (JsonNumber × List Char) :=
  match scale 4 (.ofUInt64 significand.toUInt64) exponent with
  | some x => .ok (.float (if negative then x.neg else x), rest)
  | none => .error (.here .numberOutOfRange rest)

/-- The whole number of a significand. -/
def toWhole (negative : Bool) (significand : Nat) : JsonNumber :=
  if negative then
    if significand = 0 ∨ 0x8000000000000000 < significand then .float (Binary64.ofUInt64 significand.toUInt64).neg
    else .int (-significand)
  else .int significand

/-- The digits of an exponent. They stop at the first that takes it beyond 31 bits: the flag says so. -/
def exponentDigits (exponent : Nat) : List Char → Nat × Bool × List Char
  | [] => (exponent, false, [])
  | c :: rest =>
    if isDigit c then
      let next := exponent * 10 + digitValue c
      if next ≤ 2147483647 then exponentDigits next rest else (next, true, rest)
    else (exponent, false, c :: rest)

/-- The exponent of a number, after its letter. -/
def exponentPart (negative : Bool) (significand : Nat) (point : Int) (text : List Char) :
    Except Fault (JsonNumber × List Char) :=
  let (down, text) := match text with
    | '+' :: rest => (false, rest)
    | '-' :: rest => (true, rest)
    | _ => (false, text)
  match text with
  | [] => .error (.here .endInValue [])
  | c :: _ =>
    if isDigit c then
      let (exponent, beyond, rest) := exponentDigits 0 text
      if beyond then
        if significand ≠ 0 ∧ down = false then .error (.here .numberOutOfRange rest)
        else .ok (.float (if negative then Binary64.zero.neg else .zero), rest.dropWhile isDigit)
      else toDouble negative significand (if down then point - exponent else point + exponent) rest
    else .error (.next .invalidNumber text)

/-- What may follow the digits of a number: an exponent, or nothing. -/
def afterFraction (negative : Bool) (significand : Nat) (point : Int) (text : List Char) :
    Except Fault (JsonNumber × List Char) :=
  match text with
  | 'e' :: rest => exponentPart negative significand point rest
  | 'E' :: rest => exponentPart negative significand point rest
  | _ => toDouble negative significand point text

/-- The decimals of a number, after its point. -/
def fractionPart (negative : Bool) (significand : Nat) (point : Int) (text : List Char) :
    Except Fault (JsonNumber × List Char) :=
  let digits := text.takeWhile isDigit
  let rest := text.dropWhile isDigit
  if digits.isEmpty then
    .error (.next (if text.isEmpty then .endInValue else .invalidNumber) text)
  else
    let (significand, left) := gather significand digits
    afterFraction negative significand (point - (digits.length - left : Nat)) rest

/-- What may follow the whole digits of a number: decimals, an exponent, or nothing. -/
def afterWhole (negative : Bool) (significand left : Nat) (text : List Char) :
    Except Fault (JsonNumber × List Char) :=
  match text with
  | '.' :: rest => fractionPart negative significand left rest
  | 'e' :: rest => exponentPart negative significand left rest
  | 'E' :: rest => exponentPart negative significand left rest
  | _ => if left = 0 then .ok (toWhole negative significand, text) else toDouble negative significand left text

/-- A number without its sign. -/
def unsigned (negative : Bool) (text : List Char) : Except Fault (JsonNumber × List Char) :=
  match text with
  | [] => .error (.here .endInValue [])
  | '0' :: rest =>
    match rest with
    | c :: _ => if isDigit c then .error (.next .invalidNumber rest) else afterWhole negative 0 0 rest
    | [] => afterWhole negative 0 0 rest
  | c :: _ =>
    if isDigit c then
      let (significand, left) := gather 0 (text.takeWhile isDigit)
      afterWhole negative significand left (text.dropWhile isDigit)
    else .error (.next .invalidNumber text)

/-- A number. -/
def number : Reader JsonNumber := fun text =>
  match text with
  | '-' :: rest => unsigned true rest
  | _ => unsigned false text

/-- Passes over an exponent, after its letter. -/
def skipExponent (text : List Char) : Except Fault (List Char) :=
  let text := match text with
    | '+' :: rest => rest
    | '-' :: rest => rest
    | _ => text
  match text with
  | [] => .error (.here .invalidNumber [])
  | c :: rest => if isDigit c then .ok (rest.dropWhile isDigit) else .error (.next .invalidNumber text)

/-- Passes over what may follow the digits of a number. -/
def skipAfterFraction (text : List Char) : Except Fault (List Char) :=
  match text with
  | 'e' :: rest => skipExponent rest
  | 'E' :: rest => skipExponent rest
  | _ => .ok text

/-- Passes over what may follow the whole digits of a number. -/
def skipAfterWhole (text : List Char) : Except Fault (List Char) :=
  match text with
  | '.' :: rest =>
    if (rest.takeWhile isDigit).isEmpty then .error (.next .invalidNumber rest)
    else skipAfterFraction (rest.dropWhile isDigit)
  | _ => skipAfterFraction text

/-- Passes over a number without its sign. -/
def skipUnsigned (text : List Char) : Except Fault (List Char) :=
  match text with
  | [] => .error (.here .invalidNumber [])
  | '0' :: rest =>
    match rest with
    | c :: _ => if isDigit c then .error (.next .invalidNumber rest) else skipAfterWhole rest
    | [] => .ok []
  | c :: rest =>
    if isDigit c then skipAfterWhole (rest.dropWhile isDigit) else .error (.next .invalidNumber text)

end Colloquy.Json
