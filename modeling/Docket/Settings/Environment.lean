import Docket.Settings.Field
import Docket.Text.Blank
import Docket.Text.Letter
/-!
Settings in the environment. A variable is named for the program and a field, in capitals; a value
that spells a number or a truth value is one, and commas make a list.
-/

namespace Docket.Settings

def variableName (program : String) (f : Field) : String :=
  String.intercalate "_" ((program :: f.words).map Text.raised)

def plainValue (s : String) : Json :=
  let cs := (Text.trim s).toList
  if cs = ['t', 'r', 'u', 'e'] then .bool true
  else if cs = ['f', 'a', 'l', 's', 'e'] then .bool false
  else match Json.Number.read? cs with
    | some n => .number n
    | none => .string s

def variableValue (s : String) : Json :=
  if s.toList.contains ',' then
    .array ((s.toList.splitOn ',').map fun cs => .string (Text.trim (String.ofList cs)))
  else plainValue s

def ofEnvironment (program : String) (environment : String → Option String) : Layer :=
  Field.all.filterMap fun f =>
    (environment (variableName program f)).map fun v => (f.key, variableValue v)

end Docket.Settings
