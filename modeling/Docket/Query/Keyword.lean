import Docket.Query.Identifier
import Docket.Text.Blank
/-!
The fixed words of a query: the arguments a field may take, the kinds of thing that can be searched
for, and the two wrappers around nested results.
-/

namespace Docket.Query

inductive ArgumentKey
  | first
  | last
  | before
  | after
  | query
  | type
  deriving DecidableEq

namespace ArgumentKey

def text : ArgumentKey → String
  | .first => "first"
  | .last => "last"
  | .before => "before"
  | .after => "after"
  | .query => "query"
  | .type => "type"

def all : List ArgumentKey := [.first, .last, .before, .after, .query, .type]

def rival? : ArgumentKey → Option ArgumentKey
  | .first => some .last
  | .last => some .first
  | _ => none

end ArgumentKey

inductive SearchType
  | issue
  | repository
  | user
  | discussion
  deriving DecidableEq

namespace SearchType

def text : SearchType → String
  | .issue => "ISSUE"
  | .repository => "REPOSITORY"
  | .user => "USER"
  | .discussion => "DISCUSSION"

def all : List SearchType := [.issue, .repository, .user, .discussion]

/-- The search type of a text, ignoring case and white space around it. -/
def ofString? (s : String) : Option SearchType :=
  all.find? fun t => Text.sameLetters t.text (Text.trim s)

end SearchType

inductive NodeKind
  | single
  | list
  deriving DecidableEq

namespace NodeKind

def label : NodeKind → String
  | .single => "node"
  | .list => "node list"

def name : NodeKind → Identifier
  | .single => .ofWord "node"
  | .list => .ofWord "nodes"

end NodeKind

end Docket.Query
