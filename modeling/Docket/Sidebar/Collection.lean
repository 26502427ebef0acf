import Docket.Paging
import Docket.Sidebar.Item
/-!
The walks of the three streams side by side. A response carries a page for each of them; the
streams that have ended skip theirs, whatever it holds.
-/

namespace Docket.Sidebar

open Result (Response)

structure Digest where
  reviewRequested : List PullRequest
  assigned : List Issue
  openAuthored : List PullRequest
  deriving DecidableEq

namespace Digest

def length (d : Digest) : Nat :=
  d.reviewRequested.length + d.assigned.length + d.openAuthored.length

def isEmpty (d : Digest) : Bool := d.length = 0

end Digest

structure Collection where
  openItems : Walk PullRequest
  reviewRequested : Walk PullRequest
  assignments : Walk Issue
  deriving DecidableEq

namespace Collection

def empty : Collection := ⟨.empty, .empty, .empty⟩

def get (c : Collection) : (s : Stream) → Walk s.Item
  | .openItems => c.openItems
  | .reviewRequested => c.reviewRequested
  | .assignments => c.assignments

def set (c : Collection) : (s : Stream) → Walk s.Item → Collection
  | .openItems, w => { c with openItems := w }
  | .reviewRequested, w => { c with reviewRequested := w }
  | .assignments, w => { c with assignments := w }

theorem get_set_self (c : Collection) (s : Stream) (w : Walk s.Item) : (c.set s w).get s = w := by
  cases s <;> rfl

theorem get_set_of_ne (c : Collection) {s t : Stream} (w : Walk s.Item) (h : t ≠ s) :
    (c.set s w).get t = c.get t := by
  cases s <;> cases t <;> simp_all [get, set]

def beginScope (c : Collection) : Collection :=
  ⟨c.openItems.beginScope, c.reviewRequested.beginScope, c.assignments.beginScope⟩

theorem get_beginScope (c : Collection) (s : Stream) :
    c.beginScope.get s = (c.get s).beginScope := by
  cases s <;> rfl

def firstPending? (c : Collection) : Option Stream :=
  Stream.all.find? fun s => !(c.get s).isExhausted

def readPage (r : Response) (s : Stream) : Except ResponseError (Page s.Item) := do
  let search ← r.object s.key
  let info ← PageInfo.read (← search.object "pageInfo")
  let entries ← search.objects "nodes"
  let items ← entries.mapM s.readItem
  .ok ⟨items, info⟩

def absorbStream (r : Response) (c : Collection) (s : Stream) : Except Failure Collection :=
  if (c.get s).isExhausted then .ok c
  else do
    let page ← failing .response (readPage r s)
    match (c.get s).absorb page with
    | (w, .ok ()) => .ok (c.set s w)
    | (_, .error e) => .error e

def absorb (c : Collection) (r : Response) : Except Failure Collection :=
  Stream.all.foldlM (absorbStream r) c

def toDigest (c : Collection) : Digest :=
  ⟨c.reviewRequested.items, c.assignments.items, c.openItems.items⟩

end Collection

end Docket.Sidebar
