import Docket.Query.Argument
/-!
The description of what a query asks for: a tree of fields. An element selects scalars, nested
elements, at most one wrapper around nested results, and variants for concrete types; a variant is
an element named for its type. Contents are appended in order and never merged.
-/

namespace Docket.Query

structure ScalarField where
  name : Identifier
  kind : Identifier
  deriving DecidableEq

def ScalarField.read (name kind : String) : Except QueryError ScalarField := do
  let name ← Identifier.read name
  let kind ← Identifier.read kind
  .ok ⟨name, kind⟩

mutual

structure Element where
  name : Identifier
  aliasName : Option Identifier
  arguments : ArgumentSet
  scalars : List ScalarField
  children : List Element
  node : Option Node
  variants : List Element

structure Node where
  kind : NodeKind
  scalars : List ScalarField
  children : List Element
  variants : List Element

end

namespace Node

def empty (kind : NodeKind) : Node := ⟨kind, [], [], []⟩

def addScalar (n : Node) (s : ScalarField) : Node := { n with scalars := n.scalars ++ [s] }

def addChild (n : Node) (e : Element) : Node := { n with children := n.children ++ [e] }

def addVariant (n : Node) (e : Element) : Node := { n with variants := n.variants ++ [e] }

end Node

namespace Element

def ofName (name : Identifier) : Element := ⟨name, none, .empty, [], [], none, []⟩

def read (name : String) : Except QueryError Element := (Identifier.read name).map ofName

def withAlias (e : Element) (name : Identifier) : Element := { e with aliasName := some name }

def withArguments (e : Element) (s : ArgumentSet) : Element := { e with arguments := s }

def addScalar (e : Element) (s : ScalarField) : Element := { e with scalars := e.scalars ++ [s] }

def addChild (e : Element) (c : Element) : Element := { e with children := e.children ++ [c] }

def addVariant (e : Element) (v : Element) : Element := { e with variants := e.variants ++ [v] }

def otherNode? (e : Element) (kind : NodeKind) : Option NodeKind :=
  (e.node.map Node.kind).filter (· ≠ kind)

/-- Places a wrapper of the expected kind, in place of an earlier one of that kind. -/
def setNode (e : Element) (expected : NodeKind) (n : Node) : Except QueryError Element :=
  if n.kind ≠ expected then .error (.wrongNodeType e.name.text expected n.kind)
  else match e.otherNode? expected with
    | some existing => .error (.nodeConflict e.name.text existing)
    | none => .ok { e with node := some n }

end Element

end Docket.Query
