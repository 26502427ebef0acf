import Docket.Failure
/-!
Walking a list page by page. A page says whether another one follows and where it starts; what was
collected, the cursor and the end of the walk are kept together, and the items outlive the walk
over one scope.
-/

namespace Docket

structure PageInfo where
  endCursor : Option String
  hasNextPage : Bool
  deriving DecidableEq

namespace PageInfo

def read (r : Result.Response) : Except ResponseError PageInfo := do
  let endCursor ← r.optText "endCursor"
  let hasNextPage ← r.bool "hasNextPage"
  .ok ⟨endCursor, hasNextPage⟩

def isLast (p : PageInfo) : Bool := !p.hasNextPage

end PageInfo

structure Page (α : Type) where
  items : List α
  info : PageInfo

structure Walk (α : Type) where
  items : List α
  cursor : Option String
  isExhausted : Bool
  deriving DecidableEq

namespace Walk

def empty {α : Type} : Walk α := ⟨[], none, false⟩

def beginScope {α : Type} (w : Walk α) : Walk α := { w with cursor := none, isExhausted := false }

/-- Takes in a page. The items are kept even if the page is at fault for having no cursor. -/
def absorb {α : Type} (w : Walk α) (p : Page α) : Walk α × Except Failure Unit :=
  let w := { w with items := w.items ++ p.items }
  if p.info.isLast then ({ w with isExhausted := true }, .ok ())
  else match p.info.endCursor with
    | some cursor => ({ w with cursor := some cursor }, .ok ())
    | none => (w, .error .noEndCursor)

end Walk

end Docket
