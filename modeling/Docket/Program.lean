import Docket.Service.Exchange
import Docket.Settings.Basic
import Docket.Settings.Environment
import Docket.Settings.File
import Docket.Settings.Flag
import Docket.Sidebar.Summary
/-!
The program, from settings to a summary. Everything that can be checked without the service is
checked before the first request; after that the program is a function of the answers, which come
in the order of the requests. A run that fails prints nothing but its failure.
-/

namespace Docket

open Calendar (Instant)
open Service (Request Answer)
open Sidebar (Plan PageSize PageLimit Digest Call Reply)

structure Job where
  token : Token
  endpoint : Endpoint
  plan : Plan
  scopes : List Organization

namespace Job

def ofSettings (s : Settings) (fallback : Option String) : Except Failure Job := do
  s.validate
  let token ← s.resolveToken fallback
  let user ← s.requireUsername
  let scopes ← s.scopes
  let endpoint ← s.endpoint
  endpoint.reachable
  let pageSize ← PageSize.read s.pageSize
  let pageLimit ← s.maxPagesPerScope.mapM PageLimit.read
  .ok ⟨token, endpoint, ⟨user, pageSize, pageLimit⟩, scopes⟩

def authorization (job : Job) : String := "Bearer " ++ job.token.text

/-- The replies that answers make. A query refused for lack of budget is the last one, and has its
reply when the answer about the budget is there. -/
def replies (d : Query.Document) : List Answer → List Reply
  | [] => []
  | a :: rest =>
    match Service.judge d.operation.text a with
    | .data value => failing .mismatch (d.decode value) :: replies d rest
    | .failed e => [.error e]
    | .throttled text =>
      match rest with
      | [] => []
      | b :: _ => [.error (Service.throttledFailure text b.budget?)]

def isThrottled (d : Query.Document) (answers : List Answer) : Bool :=
  answers.any fun a => (Service.judge d.operation.text a).asksBudget

def request? (job : Job) (c : Call) : Option Request :=
  ((c.document.render c.bindings).toOption).map fun text =>
    .query job.endpoint text c.bindings

end Job

structure Conversation where
  requests : List Request
  result : Option (Except Failure Digest)

namespace Job

def ending : Sidebar.Ending Digest → Option (Except Failure Digest)
  | .done d _ => some (.ok d)
  | .failed e => some (.error e)
  | .awaiting => none

def converse (job : Job) (answers : List Answer) : Conversation :=
  match Sidebar.document job.plan.pageSize.size with
  | .error e => ⟨[], some (.error (.query e))⟩
  | .ok d =>
    let run := job.plan.fetch job.scopes (replies d answers)
    let throttled := isThrottled d (answers.take run.calls.length)
    ⟨run.calls.filterMap job.request? ++ (if throttled then [.budget] else []), ending run.ending⟩

end Job

structure Output where
  success : Bool
  out : String
  err : String
  deriving DecidableEq

namespace Output

def describe (now : Instant) (e : Failure) : String :=
  let retry := match e with
    | .rateLimited (some w) _ => " (retry in " ++ toString (w.secondsUntilReset now) ++ "s)"
    | _ => ""
  "could not retrieve data: " ++ e.message ++ retry

def ofResult (now : Instant) : Except Failure Digest → Output
  | .ok d => ⟨true, d.summary, ""⟩
  | .error e => ⟨false, "", describe now e ++ "\n"⟩

end Output

namespace Program

structure Surroundings where
  name : String
  arguments : List String
  environment : String → Option String
  file : Option String

namespace Surroundings

def defaults : Layer := [(Settings.Field.pageSize.key, .ofInt Settings.standard.pageSize)]

/-- Arguments go before the environment, which goes before the file. -/
def layers? (s : Surroundings) : Option (List Layer) := do
  let file ← s.file.mapM Settings.ofFile?
  let flags ← Settings.ofArguments? s.arguments
  some [defaults, file.getD [], Settings.ofEnvironment s.name s.environment, flags]

def settings (s : Surroundings) : Except Failure Settings :=
  match s.layers? with
  | some layers => Settings.load (layers.map .object)
  | none => .error Settings.unreadable

def sharedToken (s : Surroundings) : Option String := s.environment "GITHUB_TOKEN"

end Surroundings

def job (loaded : Except Failure Settings) (fallback : Option String) : Except Failure Job :=
  loaded.bind fun s => Job.ofSettings s fallback

def converse (loaded : Except Failure Settings) (fallback : Option String)
    (answers : List Answer) : Conversation :=
  match job loaded fallback with
  | .error e => ⟨[], some (.error e)⟩
  | .ok job => job.converse answers

def run (loaded : Except Failure Settings) (fallback : Option String) (now : Instant)
    (answers : List Answer) : Option Output :=
  (converse loaded fallback answers).result.map (Output.ofResult now)

end Program

end Docket
