import Docket.Result.Decode
import Docket.Service.Envelope
/-!
Putting a query to the service. Errors that the service reports discard the data of the same reply.
Only a refusal for lack of budget leads to a second request, which asks when the budget is renewed.
-/

namespace Docket.Service

open Query (Document Bindings)

inductive Verdict
  | data (value : Json)
  | failed (error : Failure)
  | throttled (text : String)

def complaintsFailure (operation : String) (cs : List Complaint) : Failure :=
  let text := operation ++ " failed: " ++ String.intercalate "; " (cs.map (·.text))
  if cs.any fun c => c.kind = some "RATE_LIMITED" then .rateLimited none text else .api text

def judgeEnvelope (operation : String) : Option Envelope → Verdict
  | none => .failed (.api (operation ++ " failed: JSON Error"))
  | some ⟨_, c :: cs⟩ => .failed (complaintsFailure operation (c :: cs))
  | some ⟨some value, []⟩ => .data value
  | some ⟨none, []⟩ => .failed (.api (operation ++ " failed: response contained no data"))

def judgeRefusal (operation : String) (status : Status) : Option Refusal → Verdict
  | none => .failed (.api (operation ++ " failed: Serde Error"))
  | some r =>
    if r.isThrottle status then .throttled (operation ++ " failed: " ++ r.text)
    else if status = 401 ∨ status = 403 then
      .failed (.authentication
        (operation ++ " failed: GitHub returned " ++ Status.text status ++ " " ++ r.text))
    else
      .failed (.api
        (operation ++ " failed with status " ++ Status.text status ++ ": " ++ r.text))

def judge (operation : String) : Answer → Verdict
  | .reply status body =>
    if Status.isSuccess status then judgeEnvelope operation (Envelope.read? body)
    else judgeRefusal operation status (Refusal.read? body)
  | .unavailable reason => .failed (.network (operation ++ " failed: Service Error: " ++ reason))

def throttledFailure (text : String) : Option RateWindow → Failure
  | some w => .rateLimited (some w) (text ++ " (resets at " ++ toString w.resetAt ++ ")")
  | none => .rateLimited none text

def Verdict.asksBudget : Verdict → Bool
  | .throttled _ => true
  | _ => false

def Verdict.outcome (budget : Answer) : Verdict → Except Failure Json
  | .data value => .ok value
  | .failed e => .error e
  | .throttled text => .error (throttledFailure text budget.budget?)

structure Exchange (α : Type) where
  requests : List Request
  result : Except Failure α

namespace Exchange

def failed {α : Type} (e : Failure) : Exchange α := ⟨[], .error e⟩

def andThen {α β : Type} (x : Exchange α) (f : α → Except Failure β) : Exchange β :=
  ⟨x.requests, x.result.bind f⟩

end Exchange

def settle (operation : String) (request : Request) (service : Request → Answer) : Exchange Json :=
  let verdict := judge operation (service request)
  ⟨request :: (if verdict.asksBudget then [.budget] else []), verdict.outcome (service .budget)⟩

/-- The data of a query; a query that does not render is not sent. -/
def fetch (e : Endpoint) (d : Document) (b : Bindings) (service : Request → Answer) :
    Exchange Json :=
  match d.render b with
  | .error error => .failed (.query error)
  | .ok text => settle d.operation.text (.query e text b) service

def execute (e : Endpoint) (d : Document) (b : Bindings) (service : Request → Answer) :
    Exchange Result.Value :=
  (fetch e d b service).andThen fun data => failing .mismatch (d.decode data)

def executeAs {α : Type} (read? : Json → Option α) (e : Endpoint) (d : Document) (b : Bindings)
    (service : Request → Answer) : Exchange α :=
  (fetch e d b service).andThen fun data =>
    match read? data with
    | some a => .ok a
    | none => .error (.malformed (d.operation.text ++ " data deserialisation failed"))

end Docket.Service
