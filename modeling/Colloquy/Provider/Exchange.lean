import Colloquy.Stream.Body
import Colloquy.Url.Basic

/-!
# Requests and replies

A request to a vendor is one POST with a few headers and a JSON body. A reply may never come, because nobody is there
or because the other side hangs up; or it has a status and a body that comes in chunks and may break off or stop
coming. Whether the request can be sent at all is settled before: it needs an address with a host and a scheme of the
web, and headers without control characters.
-/

namespace Colloquy

/-- A request that can be sent. -/
structure HttpRequest where
  url : Url
  headers : List (String × String)
  body : String
  deriving DecidableEq, Repr, Inhabited

/-- How a body ends: whole, broken off, or not at all. -/
inductive BodyEnd where
  | complete
  | truncated
  | stalled
  deriving DecidableEq, Repr

/-- What comes back for a request. -/
inductive Reply where
  /-- Nobody was there to take the request. -/
  | unreachable
  /-- The request was taken and never answered. -/
  | refused
  /-- A status and a body. -/
  | answered (status : Nat) (chunks : List (List UInt8)) (ending : BodyEnd)
  deriving DecidableEq, Repr

namespace HttpRequest

/-- Whether a header may hold a text. -/
def headerHolds (value : String) : Bool :=
  value.toList.all fun c => c = '\t' || (0x20 ≤ c.toNat && c.toNat ≠ 0x7F)

/-- The error of a request that cannot be sent, with its address if that could be read. -/
def unsendable (url : Option Url) : Error :=
  .api (.network ("builder error" ++ (url.map fun u => " for url (" ++ String.ofList u.print ++ ")").getD ""))

/-- The request to an address, or why it cannot be sent: there is no address or no host, a header may not hold its
value, or the address is none of the web. The user and password of the address are not shown. -/
def build (url : String) (headers : List (String × String)) (body : String) : Except Error HttpRequest :=
  match Url.read url.toList with
  | none => .error (unsendable none)
  | some u =>
    if !u.hasHost then .error (unsendable u)
    else if !headers.all (fun h => headerHolds h.2) then .error (unsendable none)
    else
      let u := u.anonymous
      if (u.scheme = "http".toList ∨ u.scheme = "https".toList) ∧ u.isUsable then .ok ⟨u, headers, body⟩
      else .error (unsendable u)

/-- The error of a request that was never answered. -/
def unanswered (r : HttpRequest) : Error :=
  .api (.network ("error sending request for url (" ++ String.ofList r.url.print ++ ")"))

end HttpRequest

namespace Reply

/-- Whether a status means success. -/
def isSuccess (status : Nat) : Bool :=
  200 ≤ status && status < 300

/-- Whether a status leaves no room for a body. -/
def isBodyless (status : Nat) : Bool :=
  status = 204 || status = 304

/-- The items of a body: its chunks that are not empty, and the break after them if it breaks off. -/
def items (chunks : List (List UInt8)) (ending : BodyEnd) : List BodyItem :=
  (chunks.filter fun c => !c.isEmpty).map BodyItem.chunk
    ++ (if ending = .truncated then [.broken "error decoding response body"] else [])

/-- The text of a body that describes an error; a body that breaks off is not read. -/
def errorText (chunks : List (List UInt8)) (ending : BodyEnd) : String :=
  if ending = .truncated then "" else String.ofList (Utf8.decodeLossy chunks.flatten)

end Reply

end Colloquy
