import Docket.Query.Error
/-!
Kinds of scalar fields. A registry is a list of resolvers asked in order about a kind in lower
case; the first that claims it decides how the field's values are decoded.
-/

namespace Docket.Query

structure EnumType where
  name : String
  members : List String
  deriving DecidableEq

def EnumType.accepts (e : EnumType) (value : String) : Bool := e.members.contains value

inductive LeafType
  | string
  | int
  | id
  | boolean
  | float
  | uri
  | html
  | date
  | dateTime
  | enum (type : EnumType)
  deriving DecidableEq

/-- Claims kinds, given in lower case. -/
abbrev Resolver := String → Option LeafType

namespace Resolver

def builtin : Resolver
  | "string" => some .string
  | "int" => some .int
  | "integer" => some .int
  | "id" => some .id
  | "boolean" => some .boolean
  | "float" => some .float
  | "uri" => some .uri
  | "html" => some .html
  | "date" => some .date
  | "datetime" => some .dateTime
  | _ => none

def mergeableState : EnumType := ⟨"MergeableState", ["MERGEABLE", "CONFLICTING", "UNKNOWN"]⟩

def issueState : EnumType := ⟨"IssueState", ["OPEN", "CLOSED"]⟩

def pullRequestState : EnumType := ⟨"PullRequestState", ["OPEN", "CLOSED", "MERGED"]⟩

def reviewDecision : EnumType :=
  ⟨"PullRequestReviewDecision", ["CHANGES_REQUESTED", "APPROVED", "REVIEW_REQUIRED"]⟩

def enums : Resolver := fun kind =>
  ([mergeableState, issueState, pullRequestState, reviewDecision].find? fun e =>
    Text.sameLetters e.name kind).map .enum

def only (kind : String) (leaf : LeafType) : Resolver := fun k =>
  if k = kind then some leaf else none

end Resolver

structure Registry where
  resolvers : List Resolver

namespace Registry

def standard : Registry := ⟨[Resolver.builtin, Resolver.enums]⟩

def register (r : Registry) (claim : Resolver) : Registry := ⟨r.resolvers ++ [claim]⟩

/-- The leaf type of a kind in any casing; the kind is reported as it was written. -/
def resolve (r : Registry) (kind : String) : Except QueryError LeafType :=
  match r.resolvers.findSome? fun claim => claim (Text.lowered kind) with
  | some leaf => .ok leaf
  | none => .error (.unknownScalarKind kind)

def describe (r : Registry) : String :=
  "TypeRegistry \x7b resolvers: " ++ toString r.resolvers.length ++ " \x7d"

end Registry

end Docket.Query
