import Docket.Query.Compile
import Docket.Sidebar.Stream
/-!
The query of the sidebar: one search per stream, each giving a page of issues and pull requests and
the place of the page in its list.
-/

namespace Docket.Sidebar

open Query

def maxPageSize : Nat := 100

def labelPageSize : Nat := 20

def scalars (fields : List (Identifier × Identifier)) : List ScalarField :=
  fields.map fun f => ⟨f.1, f.2⟩

def leafElement (name : Identifier) (fields : List (Identifier × Identifier)) : Element :=
  (scalars fields).foldl Element.addScalar (.ofName name)

namespace Search

def pageInfo : Element :=
  leafElement (.ofWord "PageInfo")
    [(.ofWord "EndCursor", .ofWord "String"), (.ofWord "HasNextPage", .ofWord "Boolean")]

def author : Element := leafElement (.ofWord "Author") [(.ofWord "Login", .ofWord "String")]

def milestone : Element := leafElement (.ofWord "Milestone") [(.ofWord "Title", .ofWord "String")]

def label : Node :=
  (scalars [(.ofWord "Name", .ofWord "String"), (.ofWord "Color", .ofWord "String")]).foldl
    Node.addScalar (.empty .list)

def labels : Except QueryError Element := do
  let e ← (Element.ofName (.ofWord "Labels")).setNode .list label
  .ok (e.withArguments (← ArgumentSet.ofSettings [.first labelPageSize]))

def itemFields : List (Identifier × Identifier) :=
  [(.ofWord "Number", .ofWord "Int"), (.ofWord "Title", .ofWord "String"),
    (.ofWord "Url", .ofWord "URI"), (.ofWord "CreatedAt", .ofWord "DateTime"),
    (.ofWord "UpdatedAt", .ofWord "DateTime")]

def changeFields : List (Identifier × Identifier) :=
  [(.ofWord "Additions", .ofWord "Int"), (.ofWord "Deletions", .ofWord "Int"),
    (.ofWord "ChangedFiles", .ofWord "Int")]

def variant (typeName : Identifier) (fields : List (Identifier × Identifier)) :
    Except QueryError Element := do
  .ok ((((leafElement typeName fields).addChild author).addChild milestone).addChild (← labels))

def pullRequestType : Identifier := .ofWord "PullRequest"

def issueType : Identifier := .ofWord "Issue"

def pullRequest : Except QueryError Element := variant pullRequestType (itemFields ++ changeFields)

def issue : Except QueryError Element := variant issueType itemFields

def variants : Stream → List (Except QueryError Element)
  | .openItems => [pullRequest]
  | .reviewRequested => [pullRequest]
  | .assignments => [pullRequest, issue]

def settings (s : Stream) (pageSize : Nat) : List Setting :=
  [.bind .query s.queryVariable.text, .type "issue", .first pageSize,
    .bind .after s.cursorVariable.text]

def element (pageSize : Nat) (s : Stream) : Except QueryError Element := do
  let nodes := (← (variants s).mapM id).foldl Node.addVariant (.empty .list)
  let e := leafElement (.ofWord "Search") [(.ofWord "IssueCount", .ofWord "Int")]
  let e ← ((e.withAlias s.aliasName).addChild pageInfo).setNode .list nodes
  .ok (e.withArguments (← ArgumentSet.ofSettings (settings s pageSize)))

end Search

/-- The root of the query; a page size of zero is refused. -/
def root (pageSize : Nat) : Except QueryError Element := do
  let searches ← Stream.all.mapM (Search.element pageSize)
  .ok (searches.foldl Element.addChild (.ofName (.ofWord "LeftHandSide")))

def document (pageSize : Nat) : Except QueryError Document := do
  (← root pageSize).compile .standard

end Docket.Sidebar
