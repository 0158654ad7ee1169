import Colloquy.Error

/-!
# The assistants on offer

The roster lists assistants in the order in which they were first registered. Registering an identifier again replaces
its entry in place, and every registration has a token of its own, so that a handle of an earlier one can no longer
remove it. The selection heals itself when it is read: if nothing valid is selected, the first assistant is.
-/

namespace Colloquy

/-- An assistant on offer. -/
structure RosterEntry (π : Type) where
  id : String
  displayName : String
  provider : π
  /-- The number of the registration that made this entry. -/
  token : Nat
  deriving DecidableEq, Repr, Inhabited

/-- The assistants on offer, and the selection among them. -/
structure Roster (π : Type) where
  entries : List (RosterEntry π) := []
  /-- The identifier that was selected last, whether it is still listed or not. -/
  selected : Option String := none
  nextToken : Nat := 0
  deriving DecidableEq, Repr, Inhabited

/-- What remains in the hands of whoever registered an assistant. -/
structure Registration where
  id : String
  token : Nat
  deriving DecidableEq, Repr, Inhabited

namespace Roster

variable {π : Type}

/-- The entry of an identifier. -/
def find? (r : Roster π) (id : String) : Option (RosterEntry π) :=
  r.entries.find? fun e => e.id = id

/-- The provider of an identifier. -/
def provider? (r : Roster π) (id : String) : Option π :=
  (r.find? id).map (·.provider)

/-- The number of assistants. -/
def count (r : Roster π) : Nat :=
  r.entries.length

/-- Registers an assistant: in the place of the entry with its identifier, or else at the end. -/
def register (r : Roster π) (id displayName : String) (provider : π) : Registration × Roster π :=
  let entry : RosterEntry π := ⟨id, displayName, provider, r.nextToken⟩
  let entries :=
    if (r.find? id).isSome then r.entries.map fun e => if e.id = id then entry else e else r.entries ++ [entry]
  (⟨id, r.nextToken⟩, { r with entries, nextToken := r.nextToken + 1 })

/-- The roster without an assistant, if it is listed and, where a token is given, of that registration. -/
def remove? (r : Roster π) (id : String) (token : Option Nat) : Option (Roster π) :=
  match r.find? id with
  | none => none
  | some e =>
    if token.all (· = e.token) then some { r with entries := r.entries.filter fun e => e.id ≠ id } else none

/-- Selects an assistant. -/
def select (r : Roster π) (id : String) : Except Error (Roster π) :=
  if (r.find? id).isSome then .ok { r with selected := some id }
  else .error (.config ("Unknown assistant: " ++ id))

/-- The selection: what was selected if it is listed, else the first assistant. -/
def selection (r : Roster π) : Option String :=
  match r.selected.bind r.find? with
  | some e => some e.id
  | none => r.entries.head?.map (·.id)

/-- The roster once its selection has been read. -/
def heal (r : Roster π) : Roster π :=
  { r with selected := r.selection }

/-- The provider of the selection. -/
def selectedProvider? (r : Roster π) : Option π :=
  r.selection.bind r.provider?

end Roster

end Colloquy
