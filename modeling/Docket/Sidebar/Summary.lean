import Docket.Sidebar.Collection
/-!
The summary of what was found: three sections, each headed by its number of items.
-/

namespace Docket.Sidebar

/-- An author whose account is gone is called `ghost`. -/
def Issue.line (i : Issue) : String :=
  "#" ++ toString i.number ++ " " ++ i.title ++ " by " ++ i.author.getD "ghost" ++ " - " ++ i.url

def PullRequest.line (p : PullRequest) : String :=
  p.issue.line ++ " (+" ++ toString p.additions ++ " -" ++ toString p.deletions ++ ", " ++
    toString p.changedFiles ++ " files)"

def listing (heading : String) (lines : List String) : String :=
  heading ++ " (" ++ toString lines.length ++ ")\n" ++
    String.join (lines.map fun l => "  " ++ l ++ "\n")

namespace Digest

def summary (d : Digest) : String :=
  listing "Review requested" (d.reviewRequested.map PullRequest.line) ++
    listing "Assigned" (d.assigned.map Issue.line) ++
    listing "Open pull requests" (d.openAuthored.map PullRequest.line)

end Digest

end Docket.Sidebar
