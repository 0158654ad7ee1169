import Colloquy.Url.Host
import Colloquy.Url.Path

/-!
# Addresses on the network

An address names a scheme and a path, mostly with a host and a port, possibly with the name and password of a user, a
query and a fragment. Reading one brings it into its normal form: the scheme and the host in lowercase, no port where it
is the usual one, no `.` and `..` among the segments of the path, and percent signs for what an address may not hold.
-/

namespace Colloquy

namespace Url

/-- The part of an address between two slashes and the path. -/
structure Authority where
  user : List Char := []
  password : List Char := []
  host : List Char := []
  port : Option Nat := none
  deriving DecidableEq, Repr, Inhabited

end Url

/-- An address in its normal form. -/
structure Url where
  scheme : List Char
  authority : Option Url.Authority
  path : List Char
  query : Option (List Char)
  fragment : Option (List Char)
  deriving DecidableEq, Repr, Inhabited

namespace Url

/-- The usual port of a scheme. -/
def usualPort (scheme : List Char) : Option Nat :=
  ([("http", 80), ("https", 443), ("ws", 80), ("wss", 443), ("ftp", 21)] : List (String × Nat)).lookup (String.ofList scheme)

/-- The kind of a scheme. -/
def kindOf (scheme : List Char) : SchemeKind :=
  if scheme = "file".toList then .file else if (usualPort scheme).isSome then .web else .other

/-- The part of a text before a mark, and the part after it if the mark is there. -/
def cutAt (mark : Char) (text : List Char) : List Char × Option (List Char) :=
  let before := text.takeWhile (· ≠ mark)
  (before, if before.length < text.length then some (text.drop (before.length + 1)) else none)

/-- A text without control characters and spaces at its ends and without tabs and line ends inside. -/
def trim (text : List Char) : List Char :=
  let edge (c : Char) : Bool := c.toNat ≤ 0x20
  (((text.dropWhile edge).reverse.dropWhile edge).reverse).filter fun c => c ≠ '\t' && c ≠ '\n' && c ≠ '\r'

/-- The scheme of an address and what follows its colon. -/
def scheme? (text : List Char) : Option (List Char × List Char) :=
  match cutAt ':' text with
  | (scheme, some rest) =>
    match scheme with
    | c :: _ =>
      if c.isAlpha ∧ scheme.all (fun d => d.isAlphanum || d = '+' || d = '-' || d = '.')
      then some (scheme.map Char.toLower, rest) else none
    | [] => none
  | (_, none) => none

/-- The text up to a slash, in the schemes of the web also up to a backslash. -/
def untilSlash (web : Bool) (text : List Char) : List Char :=
  text.takeWhile fun c => !(c = '/' || (web && c = '\\'))

/-- What stands before the last at sign of an authority, if there is one, and the text after that sign. -/
def credentials (web : Bool) (text : List Char) : Option (List Char) × List Char :=
  let authority := untilSlash web text
  let after := (authority.reverse.takeWhile (· ≠ '@')).reverse
  if after.length = authority.length then (none, text)
  else
    let before := authority.take (authority.length - after.length - 1)
    (some before, text.drop (before.length + 1))

/-- The text of a host at the start of a text: a colon ends it unless it stands in brackets. -/
def hostText (web : Bool) : (inBrackets : Bool) → List Char → List Char
  | _, [] => []
  | inBrackets, c :: rest =>
    if (c = ':' ∧ ¬ inBrackets) ∨ c = '/' ∨ (web ∧ c = '\\') then []
    else c :: hostText web (c = '[' ∨ (inBrackets ∧ c ≠ ']')) rest

/-- A port, none when it is empty or the usual one, and the text after it. -/
def port? (scheme text : List Char) : Option (Option Nat × List Char) :=
  let digits := text.takeWhile Char.isDigit
  let rest := text.drop digits.length
  let n := digits.foldl (fun n d => n * 10 + (d.toNat - '0'.toNat)) 0
  if 65535 < n ∨ rest.head?.any (fun c => c ≠ '/' ∧ c ≠ '\\') then none
  else some (if digits.isEmpty ∨ usualPort scheme = some n then none else some n, rest)

/-- The user, host and port after two slashes, and the text after them; `last` says whether the address ends with the
text. Only outside the schemes of the web may a host be empty, and then it has neither user nor port. -/
def authority? (scheme : List Char) (web last : Bool) (text : List Char) : Option (Authority × List Char) := do
  let (before, rest) := credentials web text
  let (user, password) := cutAt ':' (before.getD [])
  let a : Authority :=
    { user := percentEncode outsideCredentials user
      password := percentEncode outsideCredentials (password.getD []) }
  let name := hostText web false rest
  let after := rest.drop name.length
  let hostless := !web && after.head? ≠ some ':' && a.user.isEmpty && a.password.isEmpty
    && !(before = some [] && !(after.isEmpty && last))
  if name.isEmpty && !hostless then none
  else
    let host ← host? web name
    match after with
    | ':' :: after =>
      let (port, after) ← port? scheme after
      return ({ a with host := host, port := port }, after)
    | _ => return ({ a with host := host }, after)

/-- The host and the path of a file. -/
def file? (text : List Char) : Option (Authority × List Char) :=
  let slash (c : Option Char) : Bool := c = some '/' || c = some '\\'
  if slash text.head? then
    if slash (text.drop 1).head? then
      let rest := text.drop 2
      let name := untilSlash true rest
      if name.isEmpty ∨ isDrive name then some ({}, pathFrom .file ['/'] rest)
      else
        match host? true name with
        | none => none
        | some host =>
          let after := rest.drop name.length
          if host = "localhost".toList then some ({}, pathFrom .file ['/'] after)
          else
            let drive := entersDrive ['/'] (segments true (after.drop 1))
            some ({ host := if drive then [] else host }, pathAfterHost .file after)
    else some ({}, pathFrom .file [] text)
  else some ({}, pathFrom .file ['/'] text)

/-- The text after two slashes, if a text starts with them. -/
def afterSlashes? : List Char → Option (List Char)
  | '/' :: '/' :: rest => some rest
  | _ => none

/-- The authority and the path of an address, from the text between its scheme and its query; `last` says whether the
address ends with the text. -/
def place? (scheme : List Char) (last : Bool) (text : List Char) : Option (Option Authority × List Char) :=
  match kindOf scheme with
  | .file => (file? text).map fun p => (some p.1, p.2)
  | .web => do
    let (authority, rest) ← authority? scheme true last (text.dropWhile fun c => c = '/' || c = '\\')
    return (some authority, pathAfterHost .web rest)
  | .other =>
    match afterSlashes? text with
    | some rest => do
      let (authority, rest) ← authority? scheme false last rest
      return (some authority, pathAfterHost .other rest)
    | none =>
      match text with
      | '/' :: rest => some (none, pathFrom .other ['/'] rest)
      | _ => some (none, percentEncode [] text)

/-- Reads an address. -/
def read (text : List Char) : Option Url := do
  let (scheme, rest) ← scheme? (trim text)
  let (rest, fragment) := cutAt '#' rest
  let (rest, query) := cutAt '?' rest
  let (authority, path) ← place? scheme (query.isNone && fragment.isNone) rest
  return {
    scheme := scheme
    authority := authority
    path := path
    query := query.map (percentEncode (outsideQuery (kindOf scheme).isWeb))
    fragment := fragment.map (percentEncode outsideFragment) }

/-- Whether the address names a host. -/
def hasHost (u : Url) : Bool :=
  u.authority.any fun a => !a.host.isEmpty

/-- The path with the query. -/
def target (u : Url) : List Char :=
  u.path ++ match u.query with
    | some q => '?' :: q
    | none => []

/-- The text of an authority, with the slashes before it. -/
def Authority.print (a : Authority) : List Char :=
  "//".toList
    ++ (if a.user.isEmpty ∧ a.password.isEmpty then []
      else a.user ++ (if a.password.isEmpty then [] else ':' :: a.password) ++ ['@'])
    ++ a.host
    ++ match a.port with
      | some p => ':' :: Nat.toDigits 10 p
      | none => []

/-- The text of an address. A path with two slashes at its start is kept apart from an authority by a dot. -/
def print (u : Url) : List Char :=
  u.scheme ++ ':'
    :: (match u.authority with
      | some a => a.print
      | none => if (afterSlashes? u.path).isSome then ['/', '.'] else [])
    ++ u.target
    ++ match u.fragment with
      | some f => '#' :: f
      | none => []

/-- The address without its user and password. They stay where the user's name, or without a name the password, is no
UTF-8. -/
def anonymous (u : Url) : Url :=
  let readable (text : List Char) : Bool := (Utf8.decode? (percentDecode text)).isSome
  { u with
    authority := u.authority.map fun a =>
      if readable a.user && (!a.user.isEmpty || readable a.password) then { a with user := [], password := [] } else a }

/-- Whether the host and the length of an address are such that it can be asked for. -/
def isUsable (u : Url) : Bool :=
  u.print.length ≤ 65534
    && u.authority.all fun a => a.host.all fun c => !(['"', '\x60', '{', '}'].contains c)

end Url

end Colloquy
