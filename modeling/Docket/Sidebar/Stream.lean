import Docket.Query.Variable
/-!
The three searches behind the sidebar. Each has a field of its own in the query and two variables,
for its filter and for the cursor of the page to fetch.
-/

namespace Docket.Sidebar

open Query (Identifier VariableName)

inductive Stream
  | openItems
  | reviewRequested
  | assignments
  deriving DecidableEq

namespace Stream

def all : List Stream := [.openItems, .reviewRequested, .assignments]

def aliasName : Stream → Identifier
  | .openItems => .ofWord "OpenItems"
  | .reviewRequested => .ofWord "ReviewRequested"
  | .assignments => .ofWord "Assignments"

def key (s : Stream) : String := s.aliasName.fieldName

def label : Stream → String
  | .openItems => "open items"
  | .reviewRequested => "review requested"
  | .assignments => "assignments"

def queryVariable : Stream → VariableName
  | .openItems => .ofWord "openQuery"
  | .reviewRequested => .ofWord "reviewQuery"
  | .assignments => .ofWord "assigneeQuery"

def cursorVariable : Stream → VariableName
  | .openItems => .ofWord "openCursor"
  | .reviewRequested => .ofWord "reviewCursor"
  | .assignments => .ofWord "assigneeCursor"

end Stream

end Docket.Sidebar
