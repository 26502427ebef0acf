import Docket.Json.Basic
import Docket.Text.Quoted
/-!
The compact text of a JSON value: no white space, members in the order of the object.
-/

namespace Docket.Json

mutual

def write : Json → String
  | .null => "null"
  | .bool true => "true"
  | .bool false => "false"
  | .number n => n.write
  | .string s => Text.quoted s
  | .array items => "[" ++ writeItems items ++ "]"
  | .object members => "\x7b" ++ writeMembers members ++ "\x7d"

def writeItems : List Json → String
  | [] => ""
  | [v] => write v
  | v :: rest => write v ++ "," ++ writeItems rest

def writeMembers : List (String × Json) → String
  | [] => ""
  | [(k, v)] => Text.quoted k ++ ":" ++ write v
  | (k, v) :: rest => Text.quoted k ++ ":" ++ write v ++ "," ++ writeMembers rest

end

end Docket.Json
