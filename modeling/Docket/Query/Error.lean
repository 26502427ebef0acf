import Docket.Query.Keyword
/-!
The ways in which the description of a query can be wrong.
-/

namespace Docket

namespace Query

inductive ArgumentFault
  | notPositive
  | blank
  | unsupportedSearch (text : String)
  | notLiteral
  | onFragment (typeName : String)
  deriving DecidableEq

def ArgumentFault.message : ArgumentFault → String
  | .notPositive => "value must be greater than zero"
  | .blank => "value must not be blank"
  | .unsupportedSearch text => "`" ++ text ++ "` is not a supported search type"
  | .notLiteral => "search type must be a literal"
  | .onFragment typeName => "fragment on `" ++ typeName ++ "` cannot carry arguments"

end Query

open Query

inductive QueryError
  | invalidIdentifier (value : String)
  | conflictingPagination (requested existing : ArgumentKey)
  | invalidArgument (key : ArgumentKey) (fault : ArgumentFault)
  | unknownScalarKind (kind : String)
  | emptyObject (name : String)
  | wrongNodeType (name : String) (expected actual : NodeKind)
  | nodeConflict (name : String) (existing : NodeKind)
  | rootArguments (name : String)
  | unboundVariable (name : String)
  deriving DecidableEq

def QueryError.message : QueryError → String
  | .invalidIdentifier value =>
    "invalid identifier `" ++ value ++ "`: identifiers must be non-empty and alphabetic"
  | .conflictingPagination requested existing =>
    "cannot set `" ++ requested.text ++ "` while `" ++ existing.text ++ "` is already set"
  | .invalidArgument key fault =>
    "invalid value for argument `" ++ key.text ++ "`: " ++ fault.message
  | .unknownScalarKind kind => "unknown scalar kind `" ++ kind ++ "`"
  | .emptyObject name => "object `" ++ name ++ "` selects no fields"
  | .wrongNodeType name expected actual =>
    "`" ++ name ++ "` expected a " ++ expected.label ++ " but received a " ++ actual.label
  | .nodeConflict name existing => "`" ++ name ++ "` already carries a " ++ existing.label
  | .rootArguments name => "root operation `" ++ name ++ "` cannot carry arguments"
  | .unboundVariable name => "variable `$" ++ name ++ "` is referenced but not bound"

def Query.Identifier.read (s : String) : Except QueryError Identifier :=
  match Identifier.ofString? s with
  | some name => .ok name
  | none => .error (.invalidIdentifier s)

def Query.SearchType.read (s : String) : Except QueryError SearchType :=
  match SearchType.ofString? s with
  | some t => .ok t
  | none => .error (.invalidArgument .type (.unsupportedSearch (Text.trim s)))

end Docket
