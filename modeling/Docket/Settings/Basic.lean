import Docket.Endpoint
import Docket.Identity
import Docket.Json.Record
import Docket.Settings.Field
import Docket.Sidebar.Fetch
import Docket.Word
/-!
The settings of a run, and what is made of them. Settings are read from layers, of which at least
one must say something; keys that are not known are passed over.
-/

namespace Docket

structure Settings where
  token : Option String
  username : Option String
  enterpriseUrl : Option String
  organizations : Option String
  pageSize : Nat
  maxPagesPerScope : Option Nat
  deriving DecidableEq

namespace Settings

def standard : Settings := ⟨none, none, none, none, Sidebar.maxPageSize, none⟩

def unreadable : Failure := .configuration "Failed to read the settings"

def word? (j : Json) : Option Nat := j.asNat?.filter (fits 32)

def pageSize? : Option Json → Option Nat
  | none => some standard.pageSize
  | some j => word? j

def optWord? : Option Json → Option (Option Nat)
  | none => some none
  | some .null => some none
  | some j => (word? j).map some

def member (f : Field) (l : Layer) : Option Json := Json.lookup f.key l

def ofLayer? (l : Layer) : Option Settings := do
  let token ← Json.optText? (member .token l)
  let username ← Json.optText? (member .username l)
  let enterpriseUrl ← Json.optText? (member .enterpriseUrl l)
  let organizations ← Json.optText? (member .organizations l)
  let pageSize ← pageSize? (member .pageSize l)
  let maxPagesPerScope ← optWord? (member .maxPagesPerScope l)
  some { token, username, enterpriseUrl, organizations, pageSize, maxPagesPerScope }

/-- The settings of layers, which must all be objects and not all be empty. -/
def ofLayers? (layers : List Json) : Option Settings := do
  let l := Layer.merge (← layers.mapM Layer.ofJson?)
  if l.isEmpty then none else ofLayer? l

def load (layers : List Json) : Except Failure Settings :=
  match ofLayers? layers with
  | some s => .ok s
  | none => .error unreadable

def validate (s : Settings) : Except Failure Unit :=
  if s.pageSize = 0 ∨ Sidebar.maxPageSize < s.pageSize then
    .error (.configuration ("page_size must be between 1 and " ++ toString Sidebar.maxPageSize ++
      ", got " ++ toString s.pageSize))
  else if s.maxPagesPerScope = some 0 then
    .error (.configuration "max_pages_per_scope must be at least 1 when set")
  else .ok ()

/-- The token of the settings, or else the one that the environment has for it. -/
def resolveToken (s : Settings) (fallback : Option String) : Except Failure Token :=
  match s.token <|> fallback with
  | some raw => Token.read raw
  | none => .error .missingToken

def requireUsername (s : Settings) : Except Failure Username :=
  match s.username with
  | some raw => Username.read raw
  | none => .error .missingUsername

def endpoint (s : Settings) : Except Failure Endpoint := Endpoint.resolve s.enterpriseUrl

def listed (s : String) : List String :=
  ((s.toList.splitOn ',').map fun cs => Text.trim (String.ofList cs)).filter (· ≠ "")

def scopes (s : Settings) : Except Failure (List Organization) :=
  (listed (s.organizations.getD "")).mapM Organization.read

end Settings

end Docket
