import Docket.Json.Reader
import Docket.RateWindow
import Docket.Service.Message
import Docket.Text.Infix
import Docket.Text.Letter
import Docket.Word
/-!
The bodies of replies: the envelope around the data of a query, the report on the request budget,
and the refusal of a request. What follows the first value of a body is not looked at, unless the
request was refused.
-/

namespace Docket.Service

open Json (Outline maxDepth)

structure Complaint where
  text : String
  kind : Option String
  deriving DecidableEq

structure Envelope where
  data : Option Json
  complaints : List Complaint

structure Refusal where
  text : String
  documentation : Option String
  deriving DecidableEq

def Complaint.ofOutline? (o : Outline) : Option Complaint := do
  match ← o.record? ["message", "type"] 2 with
  | [some message, kind] => some ⟨← message.text?, ← Outline.opt? Outline.text? kind⟩
  | _ => none

namespace Envelope

def complaints? : Option Outline → Option (List Complaint)
  | none => some []
  | some (.array items) => items.mapM Complaint.ofOutline?
  | some _ => none

/-- The data stand one level deep; null data count as none. -/
def ofOutline? (o : Outline) : Option Envelope := do
  match ← o.record? ["data", "errors"] 1 with
  | [data, errors] =>
    some ⟨← Outline.opt? (Outline.toJson? (maxDepth - 1)) data, ← complaints? errors⟩
  | _ => none

def read? (body : String) : Option Envelope :=
  (Outline.readFirst? body).bind fun (o, _) => ofOutline? o

end Envelope

namespace Refusal

/-- Further errors are values, two levels deep, that are not kept. -/
def details? : Outline → Option (List Json)
  | .array items => Outline.itemsToJson? (maxDepth - 2) items
  | _ => none

def ofOutline? (o : Outline) : Option Refusal := do
  match ← o.record? ["documentation_url", "errors", "message"] 3 with
  | [documentation, errors, some message] =>
    let _ ← Outline.opt? details? errors
    some ⟨← message.text?, ← Outline.opt? Outline.text? documentation⟩
  | _ => none

def read? (body : String) : Option Refusal := (Outline.read? body).bind ofOutline?

def isThrottle (status : Status) (r : Refusal) : Bool :=
  (status == 403 || status == 429) &&
    (Text.mentions (Text.lowered r.text) "rate limit" ||
      r.documentation.any fun url => Text.mentions url "rate-limit")

end Refusal

def rate? (o : Outline) : Option RateWindow := do
  match ← o.record? ["limit", "used", "remaining", "reset"] 4 with
  | [some limit, some used, some remaining, some reset] =>
    let _ ← used.nat?
    some ⟨← limit.nat?, ← remaining.nat?, ← reset.nat?⟩
  | _ => none

def resourceNames : List String :=
  ["core", "search", "graphql", "integration_manifest", "scim", "source_import",
    "code_scanning_upload", "actions_runner_registration"]

def resources? (o : Outline) : Option (List RateWindow) := do
  match ← o.record? resourceNames resourceNames.length with
  | some core :: some search :: others =>
    let core ← rate? core
    let search ← rate? search
    let others ← others.mapM (Outline.opt? rate?)
    some (core :: search :: others.filterMap id)
  | _ => none

def budget? (o : Outline) : Option RateWindow := do
  match ← o.record? ["resources", "rate"] 2 with
  | [some resources, some rate] =>
    let _ ← resources? resources
    rate? rate
  | _ => none

def Answer.budget? : Answer → Option RateWindow
  | .reply status body =>
    if Status.isSuccess status then
      ((Outline.readFirst? body).bind fun (o, _) => Service.budget? o).filter fun w =>
        fits 32 w.limit && fits 32 w.remaining
    else none
  | .unavailable _ => none

end Docket.Service
