import Colloquy.Session.Basic

/-!
# All sessions

The directory holds the sessions in the order in which they were made, and the null session apart from them. At most
one session is selected; where none is, the null session takes its place.
-/

namespace Colloquy

/-- Which session. -/
inductive SessionKey where
  | null
  | listed (id : Uuid)
  deriving DecidableEq, Repr, Inhabited

/-- The sessions and the selection among them. -/
structure Directory where
  null : Session := .null
  sessions : List Session := []
  /-- The session that is selected. -/
  current : Option Uuid := none
  deriving DecidableEq, Repr, Inhabited

namespace Directory

/-- The session with an identifier; the null session is not found. -/
def get? (d : Directory) (id : Uuid) : Option Session :=
  d.sessions.find? fun s => s.id = id

/-- The session of a key. -/
def session? (d : Directory) : SessionKey → Option Session
  | .null => some d.null
  | .listed id => d.get? id

/-- The session of a key; the null session for a key that is not listed. -/
def session (d : Directory) (key : SessionKey) : Session :=
  (d.session? key).getD d.null

/-- The key of the selected session, or of the null session. -/
def currentKey (d : Directory) : SessionKey :=
  match d.current with
  | some id => if (d.get? id).isSome then .listed id else .null
  | none => .null

/-- The selected session, or the null session. -/
def currentSession (d : Directory) : Session :=
  (d.current.bind d.get?).getD d.null

/-- Puts a session in the place of the one with its key. -/
def put (d : Directory) (key : SessionKey) (session : Session) : Directory :=
  match key with
  | .null => { d with null := session }
  | .listed id => { d with sessions := d.sessions.map fun s => if s.id = id then session else s }

/-- Changes the session of a key. -/
def change (d : Directory) (key : SessionKey) (f : Session → Session) : Directory :=
  match d.session? key with
  | none => d
  | some s => d.put key (f s)

/-- Adds a new session, which does not become the selected one. -/
def add (d : Directory) (id : Uuid) : Directory :=
  { d with sessions := d.sessions ++ [.new id] }

/-- Selects a session, or none. -/
def select (d : Directory) (target : Option Uuid) : Except Error Directory :=
  match target with
  | none => .ok { d with current := none }
  | some id =>
    if (d.get? id).isSome then .ok { d with current := some id }
    else .error (.session ("Unknown chat session: " ++ id.toText))

end Directory

end Colloquy
