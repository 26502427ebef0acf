import Docket.Entries
import Docket.Json.Basic
import Docket.Query.Error
/-!
Variables of a query and the values bound to them. A variable's name is a word in the casing it was
given; a binding's value decides the type under which the query declares the variable.
-/

namespace Docket.Query

structure VariableName where
  text : String
  isWord_text : isWord text.toList = true

namespace VariableName

theorem eq_of_text_eq {a b : VariableName} (h : a.text = b.text) : a = b := by
  cases a
  cases b
  cases h
  rfl

instance : DecidableEq VariableName := fun a b =>
  if h : a.text = b.text then isTrue (eq_of_text_eq h) else isFalse fun k => h (k ▸ rfl)

def read (s : String) : Except QueryError VariableName :=
  if h : isWord s.toList = true then .ok ⟨s, h⟩ else .error (.invalidIdentifier s)

def ofWord (s : String) (h : isWord s.toList = true := by decide) : VariableName := ⟨s, h⟩

def before (a b : VariableName) : Bool := a.text < b.text

end VariableName

inductive VariableValue
  | text (value : String)
  | optionalText (value : Option String)
  | int (value : Int)
  | flag (value : Bool)
  deriving DecidableEq

namespace VariableValue

def typeName : VariableValue → String
  | .text _ => "String!"
  | .optionalText _ => "String"
  | .int _ => "Int!"
  | .flag _ => "Boolean!"

def toJson : VariableValue → Json
  | .text s => .string s
  | .optionalText (some s) => .string s
  | .optionalText none => .null
  | .int n => .ofInt n
  | .flag b => .bool b

end VariableValue

structure Bindings where
  entries : List (VariableName × VariableValue)
  deriving DecidableEq

namespace Bindings

def empty : Bindings := ⟨[]⟩

def set (b : Bindings) (name : VariableName) (value : VariableValue) : Bindings :=
  ⟨Entries.place VariableName.before name value b.entries⟩

def get? (b : Bindings) (name : VariableName) : Option VariableValue := Entries.get? name b.entries

def getText? (b : Bindings) (name : String) : Option VariableValue :=
  (b.entries.find? fun e => e.1.text = name).map (·.2)

def toJson (b : Bindings) : Json := .object (b.entries.map fun e => (e.1.text, e.2.toJson))

end Bindings

end Docket.Query
