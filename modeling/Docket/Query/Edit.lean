import Docket.Query.Element
/-!
Elements in use. An element, or a variant as the element that it is, is filled by one edit after
another. An edit that is refused leaves the element as it was, and the next one is made of that.
-/

namespace Docket.Query

inductive Edit
  | aliased (name : String)
  | argument (setting : Setting)
  | arguments (set : ArgumentSet)
  | scalar (name kind : String)
  | child (e : Element)
  | variant (e : Element)
  | node (expected : NodeKind) (n : Node)

namespace Element

def setArgument (r : Setting) : EStateM QueryError Element Unit := fun e =>
  match (ArgumentSet.perform r).run e.arguments with
  | .ok _ s => .ok () (e.withArguments s)
  | .error err s => .error err (e.withArguments s)

/-- Places a wrapper in an element that stays in use. Nothing is changed until nothing can fail. -/
def placeNode (expected : NodeKind) (n : Node) : EStateM QueryError Element Unit := do
  let e ← get
  if n.kind ≠ expected then throw (.wrongNodeType e.name.text expected n.kind)
  match e.otherNode? expected with
  | some existing => throw (.nodeConflict e.name.text existing)
  | none => set { e with node := some n }

def perform : Edit → EStateM QueryError Element Unit
  | .aliased name => do
    let name ← MonadExcept.ofExcept (Identifier.read name)
    modify fun e => e.withAlias name
  | .argument r => setArgument r
  | .arguments s => modify fun e => e.withArguments s
  | .scalar name kind => do
    let s ← MonadExcept.ofExcept (ScalarField.read name kind)
    modify fun e => e.addScalar s
  | .child c => modify fun e => e.addChild c
  | .variant v => modify fun e => e.addVariant v
  | .node expected n => placeNode expected n

def left (e : Element) (edit : Edit) : Element :=
  match (perform edit).run e with
  | .ok _ t => t
  | .error _ t => t

def after (e : Element) (edits : List Edit) : Element := edits.foldl left e

end Element

end Docket.Query
