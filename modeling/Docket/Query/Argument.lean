import Docket.Query.Variable
import Docket.Text.Quoted
/-!
Arguments of one field. A set keeps each key where it was first set; a value is checked when it is
set, and `first` and `last` exclude each other whether they are literal or bound to a variable.
-/

namespace Docket.Query

inductive ArgumentValue
  | count (n : Nat)
  | cursor (text : String)
  | text (text : String)
  | search (type : SearchType)
  | variable (name : VariableName)
  deriving DecidableEq

def ArgumentValue.render : ArgumentValue → String
  | .count n => toString n
  | .cursor s => Text.quoted s
  | .text s => Text.quoted s
  | .search t => t.text
  | .variable x => "$" ++ x.text

def ArgumentValue.reference? : ArgumentValue → Option VariableName
  | .variable x => some x
  | _ => none

inductive Setting
  | first (n : Nat)
  | last (n : Nat)
  | before (cursor : String)
  | after (cursor : String)
  | query (text : String)
  | type (text : String)
  | bind (key : ArgumentKey) (name : String)
  deriving DecidableEq

namespace Setting

def key : Setting → ArgumentKey
  | .first _ => .first
  | .last _ => .last
  | .before _ => .before
  | .after _ => .after
  | .query _ => .query
  | .type _ => .type
  | .bind k _ => k

def positive (key : ArgumentKey) (n : Nat) : Except QueryError ArgumentValue :=
  if n = 0 then .error (.invalidArgument key .notPositive) else .ok (.count n)

def nonBlank (key : ArgumentKey) (wrap : String → ArgumentValue) (s : String) :
    Except QueryError ArgumentValue :=
  if Text.isBlank s then .error (.invalidArgument key .blank) else .ok (wrap s)

def value : Setting → Except QueryError ArgumentValue
  | .first n => positive .first n
  | .last n => positive .last n
  | .before cursor => nonBlank .before .cursor cursor
  | .after cursor => nonBlank .after .cursor cursor
  | .query text => nonBlank .query .text text
  | .type text => (SearchType.read text).map .search
  | .bind .type _ => .error (.invalidArgument .type .notLiteral)
  | .bind _ name => (VariableName.read name).map .variable

end Setting

structure ArgumentSet where
  entries : List (ArgumentKey × ArgumentValue)
  deriving DecidableEq

namespace ArgumentSet

def empty : ArgumentSet := ⟨[]⟩

def isEmpty (s : ArgumentSet) : Bool := s.entries.isEmpty

def get? (s : ArgumentSet) (key : ArgumentKey) : Option ArgumentValue := Entries.get? key s.entries

def conflict? (s : ArgumentSet) (key : ArgumentKey) : Option ArgumentKey :=
  key.rival?.filter fun rival => (s.get? rival).isSome

/-- Carries out a request; an invalid value is reported before a conflict. -/
def set (s : ArgumentSet) (r : Setting) : Except QueryError ArgumentSet := do
  let value ← r.value
  match s.conflict? r.key with
  | some existing => .error (.conflictingPagination r.key existing)
  | none => .ok ⟨Entries.put r.key value s.entries⟩

/-- Carries out a request on a set that stays in use. Nothing is changed until nothing can fail. -/
def perform (r : Setting) : EStateM QueryError ArgumentSet Unit := do
  let value ← MonadExcept.ofExcept r.value
  match (← get).conflict? r.key with
  | some existing => throw (.conflictingPagination r.key existing)
  | none => modify fun s => ⟨Entries.put r.key value s.entries⟩

def left (s : ArgumentSet) (r : Setting) : ArgumentSet :=
  match (perform r).run s with
  | .ok _ t => t
  | .error _ t => t

def after (rs : List Setting) : ArgumentSet := rs.foldl left empty

def ofSettings (rs : List Setting) : Except QueryError ArgumentSet := rs.foldlM set empty

def references (s : ArgumentSet) : List VariableName := s.entries.filterMap fun e => e.2.reference?

def renderEntry (e : ArgumentKey × ArgumentValue) : String := e.1.text ++ ": " ++ e.2.render

def render (s : ArgumentSet) (field : Identifier) : String :=
  if s.isEmpty then field.fieldName
  else field.fieldName ++ "(" ++ String.intercalate ", " (s.entries.map renderEntry) ++ ")"

end ArgumentSet

end Docket.Query
