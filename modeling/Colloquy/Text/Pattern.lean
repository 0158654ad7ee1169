import Colloquy.Text.Alphanumeric
import Colloquy.Text.Hex

/-!
# Patterns

Which texts are patterns, that is regular expressions: alternatives, groups, repetitions, classes in brackets and
escapes. Counted repetitions are not among them, nor is anything that looks ahead or back. A pattern is read as Unicode
text unless it says otherwise; no tables of Unicode's classes and cases are kept, so that a class named by a letter, the
edge of a word, and text without regard to case are refused then.
-/

namespace Colloquy.Text.Pattern

/-- How a part of a pattern is read: as Unicode text, and without regard to case. -/
structure Mode where
  unicode : Bool := true
  caseless : Bool := false
  deriving DecidableEq, Repr, Inhabited

/-- Whether characters may stand for themselves: regard to case is only given up for ASCII. -/
def Mode.readsCharacters (m : Mode) : Bool :=
  !(m.unicode && m.caseless)

/-- What one item of a pattern stands for: a character, a class of them, or a place between two. -/
inductive Item where
  | character (c : Char)
  | several
  | place
  deriving DecidableEq, Repr

/-- The character whose number has the given count of hexadecimal digits. -/
def numbered (digits : Nat) (text : List Char) : Option (Item × List Char) :=
  let number := text.take digits
  if number.length = digits then do
    let n ← number.foldlM (fun n d => (hexValue? d).map (n * 16 + ·)) 0
    if n.isValidChar then some (.character (Char.ofNat n), text.drop digits) else none
  else none

/-- The item after a backslash. -/
def escaped (mode : Mode) : List Char → Option (Item × List Char)
  | [] => none
  | c :: rest =>
    if c = 'x' then numbered 2 rest
    else if c = 'u' then numbered 4 rest
    else if c = 'U' then numbered 8 rest
    else if ['d', 'D', 's', 'S', 'w', 'W'].contains c then if mode.unicode then none else some (.several, rest)
    else if ['b', 'B', '<', '>'].contains c then if mode.unicode then none else some (.place, rest)
    else if c = 'A' ∨ c = 'z' then some (.place, rest)
    else if c = 'a' then some (.character '\x07', rest)
    else if c = 'f' then some (.character '\x0c', rest)
    else if c = 't' then some (.character '\t', rest)
    else if c = 'n' then some (.character '\n', rest)
    else if c = 'r' then some (.character '\r', rest)
    else if c = 'v' then some (.character '\x0b', rest)
    else if c.toNat < 0x80 ∧ ¬ c.isAlphanum then some (.character c, rest)
    else none

/-- An item inside the brackets of a class. -/
def classItem (mode : Mode) : List Char → Option (Item × List Char)
  | [] => none
  | '\\' :: rest => escaped mode rest
  | c :: rest => some (.character c, rest)

/-- The text after what may only open a class: a sign of negation, hyphens, and a closing bracket in the first place. -/
def classStart (text : List Char) : List Char :=
  let positive := match text with
    | '^' :: rest => rest
    | _ => text
  match positive with
  | ']' :: rest => rest
  | _ => positive.dropWhile (· = '-')

/-- The classes that have a name between colons. -/
def namedClasses : List String :=
  ["alnum", "alpha", "ascii", "blank", "cntrl", "digit", "graph", "lower", "print", "punct", "space", "upper", "word",
    "xdigit"]

/-- The text after a named class whose first bracket was read. -/
def namedClass? (text : List Char) : Option (List Char) :=
  match text with
  | ':' :: rest =>
    let rest := match rest with
      | '^' :: name => name
      | _ => rest
    let name := rest.takeWhile (· ≠ ':')
    match rest.dropWhile (· ≠ ':') with
    | ':' :: ']' :: after => if namedClasses.contains (String.ofList name) then some after else none
    | _ => none
  | _ => none

/-- The text after a class in which `depth` more are open. Each step takes a character, so that `fuel` steps suffice
for a text of that length. -/
def classEnd? (mode : Mode) : (fuel depth : Nat) → List Char → Option (List Char)
  | 0, _, _ => none
  | fuel + 1, depth, text =>
    match text with
    | [] => none
    | '[' :: rest =>
      match namedClass? rest with
      | some after => classEnd? mode fuel depth after
      | none => classEnd? mode fuel (depth + 1) (classStart rest)
    | ']' :: rest =>
      match depth with
      | 0 => some rest
      | outer + 1 => classEnd? mode fuel outer rest
    | '&' :: '&' :: rest => classEnd? mode fuel depth rest
    | '-' :: '-' :: rest => classEnd? mode fuel depth rest
    | '~' :: '~' :: rest => classEnd? mode fuel depth rest
    | _ => do
      let (first, rest) ← classItem mode text
      let single := if first = .place then none else classEnd? mode fuel depth rest
      match rest with
      | '-' :: ']' :: _ => single
      | '-' :: '-' :: _ => single
      | '-' :: last =>
        let (second, rest) ← classItem mode last
        match first, second with
        | .character a, .character b => if a ≤ b then classEnd? mode fuel depth rest else none
        | _, _ => none
      | _ => single

/-- The text after the name of a group, if no other group has it. -/
def groupName? (taken : List (List Char)) (text : List Char) : Option (List Char × List Char) :=
  let name := text.takeWhile (· ≠ '>')
  let named : Bool := match name with
    | [] => false
    | c :: rest =>
      (c = '_' || (isAlphanumeric c && !c.isDigit))
        && rest.all fun c => c = '_' || c = '.' || c = '[' || c = ']' || isAlphanumeric c
  match text.dropWhile (· ≠ '>') with
  | '>' :: after => if named && !taken.contains name then some (name, after) else none
  | _ => none

/-- The mode that letters set, which a hyphen before them clears; each letter occurs once. The text starts at the colon
or bracket that ends them. -/
def modeLetters? (mode : Mode) (set : Bool) (seen : List Char) : List Char → Option (Mode × List Char)
  | [] => none
  | c :: rest =>
    if c = ':' ∨ (c = ')' ∧ seen ≠ []) then
      if seen.getLast? = some '-' then none else some (mode, c :: rest)
    else if seen.contains c then none
    else if c = '-' then modeLetters? mode false (seen ++ [c]) rest
    else if c = 'i' then modeLetters? { mode with caseless := set } set (seen ++ [c]) rest
    else if c = 'u' then modeLetters? { mode with unicode := set } set (seen ++ [c]) rest
    else if ['m', 's', 'U', 'R', 'x'].contains c then modeLetters? mode set (seen ++ [c]) rest
    else none

/-- Whether the rest of a text completes a pattern. The modes of the groups that are open are kept in `outer`, the names
of groups in `names`, and `repeatable` says whether something precedes that can be repeated. -/
def completes : (fuel : Nat) → (mode : Mode) → (outer : List Mode) → (names : List (List Char)) → (repeatable : Bool) →
    List Char → Bool
  | 0, _, _, _, _, _ => false
  | fuel + 1, mode, outer, names, repeatable, text =>
    match text with
    | [] => outer.isEmpty
    | '*' :: rest => repeatable && completes fuel mode outer names true rest
    | '+' :: rest => repeatable && completes fuel mode outer names true rest
    | '?' :: rest => repeatable && completes fuel mode outer names true rest
    | '{' :: _ => false
    | '|' :: rest => completes fuel mode outer names false rest
    | ')' :: rest =>
      match outer with
      | [] => false
      | before :: outer => completes fuel before outer names true rest
    | '(' :: '?' :: 'P' :: '<' :: rest =>
      match groupName? names rest with
      | some (name, rest) => completes fuel mode (mode :: outer) (name :: names) false rest
      | none => false
    | '(' :: '?' :: '<' :: rest =>
      match groupName? names rest with
      | some (name, rest) => completes fuel mode (mode :: outer) (name :: names) false rest
      | none => false
    | '(' :: '?' :: rest =>
      match modeLetters? mode true [] rest with
      | some (inner, ':' :: rest) => completes fuel inner (mode :: outer) names false rest
      | some (next, _ :: rest) => completes fuel next outer names false rest
      | _ => false
    | '(' :: rest => completes fuel mode (mode :: outer) names false rest
    | '[' :: rest =>
      match classEnd? mode (rest.length + 1) 0 (classStart rest) with
      | some rest => mode.readsCharacters && completes fuel mode outer names true rest
      | none => false
    | '\\' :: rest =>
      match escaped mode rest with
      | some (.character _, rest) => mode.readsCharacters && completes fuel mode outer names true rest
      | some (_, rest) => completes fuel mode outer names true rest
      | none => false
    | '.' :: rest => completes fuel mode outer names true rest
    | '^' :: rest => completes fuel mode outer names true rest
    | '$' :: rest => completes fuel mode outer names true rest
    | _ :: rest => mode.readsCharacters && completes fuel mode outer names true rest

end Pattern

/-- Whether a text is a pattern. -/
def isPattern (text : List Char) : Bool :=
  Pattern.completes (text.length + 1) {} [] [] false text

end Colloquy.Text
