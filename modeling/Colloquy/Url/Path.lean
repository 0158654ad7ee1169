import Colloquy.Url.Percent

/-!
# Paths of addresses

The segments of a path are entered one after the other: a dot stays where it is and two dots go up, however the dots are
written. In the scheme of files a first segment that names a drive is kept when going up, and no slashes double at the
start.
-/

namespace Colloquy.Url

/-- The kinds of schemes that differ in how the rest of an address is read: files, the schemes of the web with hosts,
and all others. -/
inductive SchemeKind where
  | file
  | web
  | other
  deriving DecidableEq, Repr

/-- Whether a kind of scheme has addresses in the manner of the web. -/
def SchemeKind.isWeb : SchemeKind → Bool
  | .other => false
  | _ => true

/-- Whether a text names a drive: a letter and a colon, for which a bar may stand. -/
def isDrive (text : List Char) : Bool :=
  match text with
  | [letter, mark] => letter.isAlpha && (mark = ':' || mark = '|')
  | _ => false

/-- Whether a text is a slash with a drive after it, which ends there or at a slash. -/
def startsWithDrive (text : List Char) : Bool :=
  match text with
  | '/' :: letter :: mark :: rest => isDrive [letter, mark] && (rest.isEmpty || rest.head? = some '/')
  | _ => false

/-- Whether a segment stands for the place it is at. -/
def isHere (segment : List Char) : Bool :=
  ["." , "%2e"].contains (String.ofList (segment.map Char.toLower))

/-- Whether a segment goes up. -/
def goesUp (segment : List Char) : Bool :=
  ["..", ".%2e", "%2e.", "%2e%2e"].contains (String.ofList (segment.map Char.toLower))

/-- The part of a path up to its last slash, and the part after it. -/
def cutAtLastSlash (path : List Char) : List Char × List Char :=
  let last := (path.reverse.takeWhile (· ≠ '/')).reverse
  (path.take (path.length - last.length), last)

/-- A path one segment further up. -/
def up (kind : SchemeKind) (path : List Char) : List Char :=
  let parent := (cutAtLastSlash path.dropLast).1
  let open_ :=
    if path.getLast? = some '/' ∧ parent ≠ [] ∧ !startsWithDrive (path.drop (parent.length - 1)) then path.dropLast else path
  let (kept, last) := cutAtLastSlash open_
  if kind = .file ∧ isDrive last ∧ last.getLast? = some ':' then open_ else kept

/-- A path with a slash at its end. -/
def closed (path : List Char) : List Char :=
  if path.getLast? = some '/' then path else path ++ ['/']

/-- A path with one more segment; `more` says whether another follows. -/
def enter (kind : SchemeKind) (path segment : List Char) (more : Bool) : List Char :=
  let slash := if more then ['/'] else []
  if goesUp segment then if more then closed (up kind path) else up kind path
  else if isHere segment then closed path
  else if kind = .file ∧ path.length = 1 ∧ isDrive segment then path ++ segment.take 1 ++ ':' :: slash
  else path ++ segment ++ slash

/-- The segments of a text between slashes, in the schemes of the web also backslashes. -/
def segments (web : Bool) : List Char → List (List Char)
  | [] => [[]]
  | c :: rest =>
    match segments web rest with
    | [] => [[c]]
    | s :: more => if c = '/' ∨ (web ∧ c = '\\') then [] :: s :: more else (c :: s) :: more

/-- A path with segments entered. -/
def enterAll (kind : SchemeKind) (path : List Char) : List (List Char) → List Char
  | [] => path
  | s :: rest => enterAll kind (enter kind path (percentEncode outsidePath s) (!rest.isEmpty)) rest

/-- Whether a segment that names a drive is entered first into the path of a file. A drive takes the place of a host. -/
def entersDrive (path : List Char) : List (List Char) → Bool
  | [] => false
  | s :: rest =>
    (path.length = 1 && isDrive s) || entersDrive (enter .file path (percentEncode outsidePath s) (!rest.isEmpty)) rest

/-- The path that a text writes after `path`. -/
def pathFrom (kind : SchemeKind) (path text : List Char) : List Char :=
  let whole := enterAll kind path (segments kind.isWeb text)
  if kind = .file then '/' :: whole.dropWhile (· = '/') else whole

/-- The path that a text writes after a host. Only in the schemes of the web it is never empty. -/
def pathAfterHost (kind : SchemeKind) (text : List Char) : List Char :=
  let atSlash := text.head? = some '/' ∨ (kind.isWeb ∧ text.head? = some '\\')
  if kind.isWeb then pathFrom kind ['/'] (if atSlash then text.drop 1 else text)
  else if text.isEmpty ∨ atSlash then pathFrom kind [] text
  else pathFrom kind ['/'] text

end Colloquy.Url
