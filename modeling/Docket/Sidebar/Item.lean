import Docket.Result.Response
import Docket.Sidebar.Search
/-!
Issues and pull requests, read from the entries that the search gives for them. An entry names its
concrete type and holds the fields of that type under the type's name.
-/

namespace Docket.Sidebar

open Query (Identifier)
open Result (Response)

structure Label where
  name : String
  color : String
  deriving DecidableEq

structure Issue where
  number : Nat
  title : String
  author : Option String
  url : String
  createdAt : String
  updatedAt : String
  milestone : Option String
  labels : List Label
  deriving DecidableEq

structure PullRequest where
  issue : Issue
  additions : Nat
  deletions : Nat
  changedFiles : Nat
  deriving DecidableEq

def Label.read (r : Response) : Except ResponseError Label := do
  let name ← r.text "name"
  let color ← r.text "color"
  .ok ⟨name, color⟩

def optTextOf (r : Response) (key inner : String) : Except ResponseError (Option String) := do
  match ← r.optObject key with
  | some o => (o.text inner).map some
  | none => .ok none

def readLabels (r : Response) : Except ResponseError (List Label) := do
  match ← r.optObject "labels" with
  | some connection => (← connection.objects "nodes").mapM Label.read
  | none => .ok []

def fieldsOf (entry : Response) (typeName : Identifier) : Except ResponseError Response :=
  if entry.typeName = some typeName.text then entry.object typeName.text
  else .error (.unexpectedShape Query.typenameField (.typeName typeName.text))

def Issue.read (fields : Response) : Except ResponseError Issue := do
  let author ← optTextOf fields "author" "login"
  let milestone ← optTextOf fields "milestone" "title"
  let labels ← readLabels fields
  let number ← fields.count "number"
  let title ← fields.text "title"
  let url ← fields.text "url"
  let createdAt ← fields.text "createdAt"
  let updatedAt ← fields.text "updatedAt"
  .ok { number, title, author, url, createdAt, updatedAt, milestone, labels }

def PullRequest.ofEntry (entry : Response) : Except ResponseError PullRequest := do
  let fields ← fieldsOf entry Search.pullRequestType
  let issue ← Issue.read fields
  let additions ← fields.count "additions"
  let deletions ← fields.count "deletions"
  let changedFiles ← fields.count "changedFiles"
  .ok { issue, additions, deletions, changedFiles }

/-- An entry that is not an issue is read as a pull request. -/
def Issue.ofEntry (entry : Response) : Except ResponseError Issue := do
  let typeName := if entry.typeName = some Search.issueType.text then Search.issueType
    else Search.pullRequestType
  Issue.read (← fieldsOf entry typeName)

abbrev Stream.Item : Stream → Type
  | .openItems => PullRequest
  | .reviewRequested => PullRequest
  | .assignments => Issue

def Stream.readItem : (s : Stream) → Response → Except ResponseError s.Item
  | .openItems => PullRequest.ofEntry
  | .reviewRequested => PullRequest.ofEntry
  | .assignments => Issue.ofEntry

end Docket.Sidebar
