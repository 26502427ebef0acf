import Docket.Failure
import Docket.Text.Blank
import Docket.Url.Edit
/-!
Where queries are sent. The public service has a fixed address; a server of one's own answers below
the path of its base URL, whatever query or fragment that URL carries.
-/

namespace Docket

structure Endpoint where
  url : Url
  deriving DecidableEq

namespace Endpoint

def hosted : Endpoint where
  url := {
    scheme := "https"
    authority := some ⟨"", "", some (.domain "api.github.com"), none⟩
    path := .segments ["graphql"]
    query := none
    fragment := none }

def enterprise (base : String) : Except Failure Endpoint :=
  match Url.read base with
  | .error e => .error (.invalidUrl e.message)
  | .ok u =>
    if u.isOpaque || u.host?.isNone then
      .error (.invalidUrl (base ++ ": URL must include a host"))
    else .ok ⟨u.asDirectory.withoutQuery.withoutFragment.join "api/graphql"⟩

/-- No base, or a blank one, means the public service. -/
def resolve (base : Option String) : Except Failure Endpoint :=
  match (base.map Text.trim).filter (· ≠ "") with
  | some base => enterprise base
  | none => .ok .hosted

def origin (e : Endpoint) : String := e.url.origin

def path (e : Endpoint) : String := e.url.writePath

/-- Characters that a host may hold and a request may not. -/
def isUnsendable (c : Char) : Bool := c = '"' || c = '`' || c = '\x7b' || c = '\x7d'

def reachable (e : Endpoint) : Except Failure Unit :=
  if 65534 < e.origin.utf8ByteSize then .error (.invalidUrl "uri too long")
  else if e.origin.toList.any isUnsendable then .error (.invalidUrl "invalid uri character")
  else .ok ()

end Endpoint

end Docket
