import Docket.Identity
/-!
Search filters: the terms that a search restricts itself to, separated by single spaces.
-/

namespace Docket.Sidebar

abbrev Scope := Option Organization

def Scope.label : Scope → String
  | some org => org.text
  | none => "all"

/-- The scopes of a run: each organization listed, or all at once if none is. -/
def Scope.ofList : List Organization → List Scope
  | [] => [none]
  | orgs => orgs.map some

namespace Stream

def userTerm (s : Stream) (user : Username) : String :=
  match s with
  | .openItems => "author:" ++ user.text
  | .reviewRequested => "review-requested:" ++ user.text
  | .assignments => "assignee:" ++ user.text

def kindTerms : Stream → List String
  | .openItems => ["is:pr"]
  | .reviewRequested => ["is:pr"]
  | .assignments => []

def scopeTerms : Scope → List String
  | some org => ["org:" ++ org.text]
  | none => []

def terms (s : Stream) (user : Username) (scope : Scope) : List String :=
  scopeTerms scope ++ "is:open" :: s.kindTerms ++ [s.userTerm user, "archived:false"]

def filter (s : Stream) (user : Username) (scope : Scope) : String :=
  String.intercalate " " (s.terms user scope)

end Stream

end Docket.Sidebar
