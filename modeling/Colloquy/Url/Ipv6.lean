import Colloquy.Text.Hex

/-!
# Addresses of sixteen bytes

An address of eight pieces of sixteen bits. It is read from hexadecimal pieces with colons between, where two colons
stand for the zeros that are missing and the last two pieces may be written as four bytes with dots. It is printed
with the longest run of zeros left out.
-/

namespace Colloquy.Url.Ipv6

/-- The pieces before and after the place that was left open, if one was. -/
structure Pieces where
  before : List Nat
  after : Option (List Nat)
  deriving Repr

/-- The number of pieces. -/
def Pieces.count (p : Pieces) : Nat :=
  p.before.length + (p.after.map List.length).getD 0

/-- The pieces with one more at the end. -/
def Pieces.push (p : Pieces) (piece : Nat) : Pieces :=
  match p.after with
  | none => { p with before := p.before ++ [piece] }
  | some ps => { p with after := some (ps ++ [piece]) }

/-- All eight pieces, if the missing ones may be filled in. The open place counts as a piece while one is missing. -/
def Pieces.fill? (p : Pieces) : Option (List Nat) :=
  match p.after with
  | none => if p.before.length = 8 then some p.before else none
  | some ps => if p.count < 8 then some (p.before ++ List.replicate (8 - p.count) 0 ++ ps) else none

/-- A byte in decimal digits without a zero before them, and the text after it. -/
def byte? (text : List Char) : Option (Nat × List Char) :=
  let digits := text.takeWhile Char.isDigit
  let n := digits.foldl (fun n d => n * 10 + (d.toNat - '0'.toNat)) 0
  if digits.isEmpty ∨ (digits.head? = some '0' ∧ 1 < digits.length) ∨ 255 < n then none
  else some (n, text.drop digits.length)

/-- The two pieces that four bytes with dots between make, which take up the whole text. -/
def twoPieces? (text : List Char) : Option (Nat × Nat) := do
  let next (text : List Char) : Option (Nat × List Char) :=
    match text with
    | '.' :: rest => byte? rest
    | _ => none
  let (a, rest) ← byte? text
  let (b, rest) ← next rest
  let (c, rest) ← next rest
  let (d, rest) ← next rest
  if rest.isEmpty then some (a * 256 + b, c * 256 + d) else none

/-- The pieces of a text, which follow those read. Each step takes a character, so that `fuel` steps suffice for a text
of that length. -/
def piecesFrom? : (fuel : Nat) → Pieces → List Char → Option Pieces
  | 0, _, _ => none
  | fuel + 1, done, text =>
    match text with
    | [] => some done
    | ':' :: rest =>
      if done.after.isSome ∨ 8 ≤ done.count then none else piecesFrom? fuel { done with after := some [] } rest
    | _ =>
      let digits := (text.take 4).takeWhile fun c => (Text.hexValue? c).isSome
      let value := digits.foldl (fun n d => n * 16 + (Text.hexValue? d).getD 0) 0
      let room := done.count + (if done.after.isSome then 1 else 0)
      if 8 ≤ room then none
      else match text.drop digits.length with
        | [] => some (done.push value)
        | '.' :: _ =>
          if digits.isEmpty ∨ 6 < room then none else (twoPieces? text).map fun p => (done.push p.1).push p.2
        | ':' :: rest => if rest.isEmpty then none else piecesFrom? fuel (done.push value) rest
        | _ => none

/-- The pieces of an address. -/
def read? (text : List Char) : Option (List Nat) := do
  let pieces ← match text with
    | ':' :: ':' :: rest => piecesFrom? (text.length + 1) ⟨[], some []⟩ rest
    | ':' :: _ => none
    | [] => none
    | [_] => none
    | _ => piecesFrom? (text.length + 1) ⟨[], none⟩ text
  pieces.fill?

/-- The number of zeros at the start of pieces. -/
def zeros (pieces : List Nat) : Nat :=
  (pieces.takeWhile (· = 0)).length

/-- Where the first of the longest runs of at least two zeros starts. -/
def longestGap? (pieces : List Nat) : Option Nat :=
  let run (i : Nat) : Nat := zeros (pieces.drop i)
  let longest := ((List.range 8).map run).foldl max 0
  if longest < 2 then none else (List.range 8).find? fun i => run i = longest

/-- Pieces with colons between. -/
def joined : List Nat → List Char
  | [] => []
  | [p] => Nat.toDigits 16 p
  | p :: ps => Nat.toDigits 16 p ++ ':' :: joined ps

/-- The text of an address. -/
def print (pieces : List Nat) : List Char :=
  match longestGap? pieces with
  | none => joined pieces
  | some i => joined (pieces.take i) ++ ':' :: ':' :: joined (pieces.drop (i + zeros (pieces.drop i)))

end Colloquy.Url.Ipv6
