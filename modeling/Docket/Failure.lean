import Docket.Query.Error
import Docket.RateWindow
import Docket.Result.Decode
import Docket.Result.Response
import Docket.Sidebar.Stream
/-!
What a run can fail with. Texts that come from outside, from a server or a transport, are kept as
they are; the library's own reasons stand below as named failures.
-/

namespace Docket

inductive NameRole
  | username
  | organization
  deriving DecidableEq

def NameRole.text : NameRole → String
  | .username => "username"
  | .organization => "organization"

inductive Failure
  | missingToken
  | missingUsername
  | invalidName (role : NameRole) (value : String)
  | invalidUrl (reason : String)
  | authentication (text : String)
  | api (text : String)
  | network (text : String)
  | rateLimited (window : Option RateWindow) (text : String)
  | malformed (text : String)
  | invalidPaging (text : String)
  | pageLimit (stream : Sidebar.Stream) (scope : String) (pages : Nat)
  | configuration (text : String)
  | io (text : String)
  | query (error : QueryError)
  | response (error : ResponseError)
  deriving DecidableEq

namespace Failure

def message : Failure → String
  | .missingToken => "personal access token is required"
  | .missingUsername => "GitHub username is required"
  | .invalidName role value =>
    "invalid " ++ role.text ++ " `" ++ value ++
      "`: names must be non-empty without whitespace or quotes"
  | .invalidUrl reason => "GraphQL endpoint URL is invalid: " ++ reason
  | .authentication text => "GitHub rejected the token: " ++ text
  | .api text => "GitHub API error: " ++ text
  | .network text => "network error talking to GitHub: " ++ text
  | .rateLimited _ text => "GitHub API rate limit exceeded: " ++ text
  | .malformed text => "malformed response: " ++ text
  | .invalidPaging text => "invalid pagination: " ++ text
  | .pageLimit stream scope pages =>
    stream.label ++ " in scope " ++ scope ++ " still had more results after " ++ toString pages ++
      " pages"
  | .configuration text => "configuration error: " ++ text
  | .io text => "I/O error: " ++ text
  | .query error => error.message
  | .response error => error.message

def mismatch (e : DecodeError) : Failure := .malformed e.message

def noEndCursor : Failure := .malformed "page reports more results but no end cursor"

def zeroPageSize : Failure := .invalidPaging "page size must be at least 1"

def pageSizeAbove (largest : Nat) : Failure :=
  .invalidPaging ("page size must not exceed " ++ toString largest)

def zeroPageLimit : Failure := .invalidPaging "page limit must be at least 1"

end Failure

def failing {ε α : Type} (wrap : ε → Failure) : Except ε α → Except Failure α
  | .ok a => .ok a
  | .error e => .error (wrap e)

end Docket
