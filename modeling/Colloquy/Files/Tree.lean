import Colloquy.Error
import Colloquy.Text.Utf8

/-!
# A tree of files

Directories and files by location. A path is walked from a working directory: its names are those between slashes, an
empty one or `.` stays, `..` goes up, and only a directory can be walked on from. A location lists the names from the
innermost to the root.
-/

namespace Colloquy

/-- What is at a location. -/
inductive FileNode where
  | directory
  | file (bytes : List UInt8)
  deriving DecidableEq, Repr, Inhabited

/-- The names from the innermost to the root. -/
abbrev Location := List String

/-- The nodes by location. -/
structure FileTree where
  nodes : List (Location × FileNode)
  deriving DecidableEq, Repr, Inhabited

namespace FileTree

/-- The working directory. It and the one above it have names that no path can spell. -/
def workplace : Location :=
  ["", ""]

/-- A tree with an empty working directory. -/
def fresh : FileTree :=
  ⟨[([], .directory), ([""], .directory), (workplace, .directory)]⟩

/-- What is at a location. -/
def node? (t : FileTree) (place : Location) : Option FileNode :=
  t.nodes.lookup place

/-- Whether there is a directory at a location. -/
def isDirectory (t : FileTree) (place : Location) : Bool :=
  t.node? place = some .directory

/-- Puts a node at a location. -/
def put (t : FileTree) (place : Location) (node : FileNode) : FileTree :=
  ⟨(place, node) :: t.nodes.filter fun n => n.1 ≠ place⟩

/-- The names of a path. -/
def names : List Char → List (List Char)
  | [] => [[]]
  | c :: rest =>
    match names rest with
    | [] => [[c]]
    | name :: more => if c = '/' then [] :: name :: more else (c :: name) :: more

/-- The names of a path as strings. -/
def namesOf (path : String) : List String :=
  (names path.toList).map String.ofList

/-- Where a path starts. -/
def startOf (path : String) : Location :=
  if path.toList.head? = some '/' then [] else workplace

/-- Whether a name stays where it is. -/
def stays (name : String) : Bool :=
  name = "" || name = "."

/-- The most bytes that a name may have. -/
def nameLimit : Nat := 255

/-- The most bytes that a path from the working directory may have. -/
def pathLimit : Nat := 4079

/-- Whether a name is longer than any may be. -/
def isTooLong (name : String) : Bool :=
  nameLimit < Utf8.size name.toList

/-- What is wrong with a path before any name of it is looked up. -/
def flaw? (path : List Char) : Option FileError :=
  if path.any (· = Char.ofNat 0) then some .nulInName
  else if pathLimit < Utf8.size path then some .nameTooLong
  else none

/-- Where some names lead from a location. -/
def walk (t : FileTree) (place : Location) : List String → Except FileError Location
  | [] => .ok place
  | name :: rest =>
    if !t.isDirectory place then .error .notDirectory
    else if stays name then t.walk place rest
    else if name = ".." then t.walk place.tail rest
    else if isTooLong name then .error .nameTooLong
    else if (t.node? (name :: place)).isNone then .error .notFound
    else t.walk (name :: place) rest

/-- Where a path leads. -/
def find (t : FileTree) (path : String) : Except FileError Location :=
  match flaw? path.toList with
  | some e => .error e
  | none => t.walk (startOf path) (namesOf path)

/-- Whether a path leads anywhere. -/
def holds (t : FileTree) (path : String) : Bool :=
  (t.find path).isOk

/-- The bytes of a file. -/
def read (t : FileTree) (path : String) : Except FileError (List UInt8) := do
  match t.node? (← t.find path) with
  | some (.file bytes) => .ok bytes
  | some .directory => .error .isDirectory
  | none => .error .notFound

/-- Writes a file, which may be new; its directory must be there. A path that ends in a slash names no file. -/
def write (t : FileTree) (path : String) (bytes : List UInt8) : Except FileError FileTree := do
  if let some e := flaw? path.toList then throw e
  let all := namesOf path
  let proper := (all.reverse.dropWhile (· = "")).reverse
  let place ← t.walk (startOf path) proper.dropLast
  let name := proper.getLast?.getD ""
  if !t.isDirectory place then .error .notDirectory
  else if proper.length < all.length then .error .isDirectory
  else if isTooLong name then .error .nameTooLong
  else if stays name ∨ name = ".." ∨ t.isDirectory (name :: place) then .error .isDirectory
  else .ok (t.put (name :: place) (.file bytes))

/-- Makes one directory in another that is there. The names are given from the last, which may be one that stays or
goes up: such a one is there already. -/
def makeOne (t : FileTree) (start : Location) : List String → Except FileError FileTree
  | [] => .error .exists
  | name :: outer => do
    let place ← t.walk start outer.reverse
    if !t.isDirectory place then .error .notDirectory
    else if isTooLong name then .error .nameTooLong
    else if stays name ∨ name = ".." ∨ (t.node? (name :: place)).isSome then .error .exists
    else .ok (t.put (name :: place) .directory)

/-- Whether some names, given from the last, lead to a directory. -/
def leadsToDirectory (t : FileTree) (start : Location) (reversed : List String) : Bool :=
  match t.walk start reversed.reverse with
  | .ok place => t.isDirectory place
  | .error _ => false

/-- Makes a directory with all that lead to it. The names are given from the last. What was made before a failure stays.
A last name that stays asks for nothing to be made, neither itself nor the name before it. -/
def makeAll (t : FileTree) (start : Location) : List String → Except FileError Unit × FileTree
  | [] => (.ok (), t)
  | name :: outer =>
    let settle (t : FileTree) (e : FileError) : Except FileError Unit × FileTree :=
      (if t.leadsToDirectory start (name :: outer) then .ok () else .error e, t)
    match t.makeOne start (name :: outer) with
    | .ok t => (.ok (), t)
    | .error .notFound =>
      match t.makeAll start (if stays name then outer.tail else outer) with
      | (.error e, t) => (.error e, t)
      | (.ok (), t) =>
        match t.makeOne start (name :: outer) with
        | .ok t => (.ok (), t)
        | .error e => settle t e
    | .error e => settle t e
  termination_by reversed => reversed.length
  decreasing_by split <;> simp only [List.length_cons, List.length_tail] <;> omega

/-- The names of a path that lead somewhere, the last first. -/
def steps (path : String) : List String :=
  ((namesOf path).filter fun name => !stays name).reverse

/-- The names of a path that lead somewhere, the last first, and before them the dot that the path may end in. -/
def stepsToEnd (path : String) : List String :=
  match (namesOf path).reverse.dropWhile (· = "") with
  | "." :: _ => "." :: steps path
  | _ => steps path

/-- A path, given in reverse, without the slashes and dots at its end that stay where they are. -/
def trimEnd : (reversed : List Char) → List Char
  | '/' :: rest => trimEnd rest
  | '.' :: '/' :: rest => trimEnd rest
  | ['.'] => []
  | reversed => reversed

/-- The path of the directory that the last name of a path is in. -/
def parentPath (path : List Char) : List Char :=
  (trimEnd ((trimEnd path.reverse).dropWhile (· ≠ '/'))).reverse

/-- Makes the directory of a path and all that lead to it. -/
def makeDirectory (t : FileTree) (path : String) : Except FileError Unit × FileTree :=
  match flaw? path.toList with
  | some e => (.error e, t)
  | none => t.makeAll (startOf path) (stepsToEnd path)

/-- Makes all directories that lead to the last name of a path. -/
def makeParents (t : FileTree) (path : String) : Except FileError Unit × FileTree :=
  match flaw? (parentPath path.toList) with
  | some e => (.error e, t)
  | none => t.makeAll (startOf path) (steps path).tail

end FileTree

end Colloquy
