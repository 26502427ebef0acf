import Docket.Endpoint
import Docket.Json.Basic
import Docket.Query.Document
import Docket.Service.Status
/-!
What goes to the service and what comes back from it.
-/

namespace Docket.Service

inductive Method
  | get
  | post
  deriving DecidableEq

def Method.text : Method → String
  | .get => "GET"
  | .post => "POST"

structure Request where
  method : Method
  path : String
  body : Option Json

inductive Answer
  | reply (status : Status) (body : String)
  | unavailable (reason : String)
  deriving DecidableEq

namespace Request

def query (e : Endpoint) (text : String) (b : Query.Bindings) : Request :=
  ⟨.post, e.path, some (.object [("query", .string text), ("variables", b.toJson)])⟩

def budget : Request := ⟨.get, "/rate_limit", none⟩

end Request

end Docket.Service
