import Docket.Query.Element
import Docket.Query.Scalar
/-!
Query documents: an operation and the fields it selects, each with the shape of its values. A
document renders to GraphQL text, declaring every variable it refers to under the type that the
variable's binding gives. The variables are not kept beside the selections but read off them, whose
arguments are those of the tree that the document is compiled from.
-/

namespace Docket.Query

structure FieldHead where
  name : Identifier
  aliasName : Option Identifier
  arguments : ArgumentSet
  deriving DecidableEq

namespace FieldHead

def plain (name : Identifier) : FieldHead := ⟨name, none, .empty⟩

def responseKey (h : FieldHead) : String := (h.aliasName.getD h.name).fieldName

def tag (h : FieldHead) : String :=
  match h.aliasName with
  | some a => a.fieldName ++ ": " ++ h.arguments.render h.name
  | none => h.arguments.render h.name

end FieldHead

mutual

inductive Shape
  | leaf (type : LeafType)
  | object (selections : SelectionSet)
  | list (item : Shape)

structure SelectionSet where
  fields : List Selection
  fragments : List Fragment

structure Selection where
  head : FieldHead
  shape : Shape

structure Fragment where
  typeName : Identifier
  selections : SelectionSet

end

def Fragment.marker (f : Fragment) : String := "... on " ++ f.typeName.text

def typenameField : String := "__typename"

namespace SelectionSet

def isEmpty (s : SelectionSet) : Bool := s.fields.isEmpty && s.fragments.isEmpty

def field? (s : SelectionSet) (key : String) : Option Selection :=
  s.fields.find? fun f => f.head.responseKey == key

end SelectionSet

mutual

def Shape.references : Shape → List VariableName
  | .leaf _ => []
  | .object s => s.references
  | .list item => item.references

def SelectionSet.references : SelectionSet → List VariableName
  | ⟨fields, fragments⟩ => fieldReferences fields ++ fragmentReferences fragments

def fieldReferences : List Selection → List VariableName
  | [] => []
  | ⟨head, shape⟩ :: rest => head.arguments.references ++ shape.references ++ fieldReferences rest

def fragmentReferences : List Fragment → List VariableName
  | [] => []
  | ⟨_, selections⟩ :: rest => selections.references ++ fragmentReferences rest

end

mutual

def Shape.render : Shape → String
  | .leaf _ => ""
  | .object s => s.render ++ " "
  | .list item => item.render

def SelectionSet.render : SelectionSet → String
  | ⟨fields, fragments⟩ =>
    "\x7b " ++ renderFields fields ++
      (if fragments.isEmpty then "" else typenameField ++ " ") ++
      renderFragments fragments ++ "\x7d"

def renderFields : List Selection → String
  | [] => ""
  | ⟨head, shape⟩ :: rest => head.tag ++ " " ++ shape.render ++ renderFields rest

def renderFragments : List Fragment → String
  | [] => ""
  | ⟨typeName, selections⟩ :: rest =>
    "... on " ++ typeName.text ++ " " ++ selections.render ++ " " ++ renderFragments rest

end

structure Document where
  operation : Identifier
  selections : SelectionSet

def sortedNames (names : List VariableName) : List VariableName :=
  Entries.keys (names.foldl (fun es n => Entries.place VariableName.before n () es) [])

namespace Document

/-- The variables of the document, each once, in the order of their names. -/
def variableNames (d : Document) : List VariableName := sortedNames d.selections.references

def declare (b : Bindings) (name : VariableName) : Except QueryError String :=
  match b.get? name with
  | some value => .ok ("$" ++ name.text ++ ": " ++ value.typeName)
  | none => .error (.unboundVariable name.text)

def header (d : Document) (declarations : List String) : String :=
  "query " ++ d.operation.text ++
    (if declarations.isEmpty then "" else "(" ++ String.intercalate ", " declarations ++ ")")

/-- The text of the operation; the smallest variable without a binding is reported. -/
def render (d : Document) (b : Bindings) : Except QueryError String := do
  let declarations ← d.variableNames.mapM (declare b)
  .ok (d.header declarations ++ " " ++ d.selections.render)

end Document

end Docket.Query
