import Docket.Query.Document
/-!
Compiling a tree of elements into a document. Each element's scalars come first, then its children,
its wrapper and its variants; the first fault met in that order, depth first, is reported, and an
element that selects nothing is a fault of its own after those of its members.
-/

namespace Docket.Query

def Element.head (e : Element) : FieldHead := ⟨e.name, e.aliasName, e.arguments⟩

def ScalarField.select (r : Registry) (s : ScalarField) : Except QueryError Selection := do
  let leaf ← r.resolve s.kind.text
  .ok ⟨.plain s.name, .leaf leaf⟩

def SelectionSet.close (owner : String) (s : SelectionSet) : Except QueryError SelectionSet :=
  if s.isEmpty then .error (.emptyObject owner) else .ok s

def NodeKind.shape (kind : NodeKind) (s : SelectionSet) : Shape :=
  match kind with
  | .single => .object s
  | .list => .list (.object s)

def Element.refuseArguments (e : Element) : Except QueryError Unit :=
  match e.arguments.entries with
  | [] => .ok ()
  | (key, _) :: _ => .error (.invalidArgument key (.onFragment e.name.text))

mutual

def Element.select (r : Registry) : Element → Except QueryError SelectionSet
  | ⟨name, _, _, scalars, children, node, variants⟩ => do
    let leaves ← scalars.mapM (ScalarField.select r)
    let nested ← selectChildren r children
    let wrapped ← selectNode r name.text node
    let fragments ← selectVariants r variants
    SelectionSet.close name.text ⟨leaves ++ nested ++ wrapped, fragments⟩

def Node.select (r : Registry) (owner : String) : Node → Except QueryError SelectionSet
  | ⟨kind, scalars, children, variants⟩ => do
    let leaves ← scalars.mapM (ScalarField.select r)
    let nested ← selectChildren r children
    let fragments ← selectVariants r variants
    SelectionSet.close (owner ++ "." ++ kind.name.fieldName) ⟨leaves ++ nested, fragments⟩

def selectChildren (r : Registry) : List Element → Except QueryError (List Selection)
  | [] => .ok []
  | e :: rest => do
    let selections ← e.select r
    let others ← selectChildren r rest
    .ok (⟨e.head, .object selections⟩ :: others)

def selectNode (r : Registry) (owner : String) : Option Node → Except QueryError (List Selection)
  | none => .ok []
  | some n => do
    let selections ← n.select r owner
    .ok [⟨.plain n.kind.name, n.kind.shape selections⟩]

def selectVariants (r : Registry) : List Element → Except QueryError (List Fragment)
  | [] => .ok []
  | e :: rest => do
    e.refuseArguments
    let selections ← e.select r
    let others ← selectVariants r rest
    .ok (⟨e.name, selections⟩ :: others)

end

def Element.compile (root : Element) (r : Registry) : Except QueryError Document := do
  if ¬ root.arguments.isEmpty then .error (.rootArguments root.name.text)
  let selections ← root.select r
  .ok ⟨root.name, selections⟩

end Docket.Query
