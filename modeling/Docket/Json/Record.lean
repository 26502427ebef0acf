import Docket.Entries
import Docket.Json.Basic
/-!
JSON values of fixed shape: an optional text, nested records of one field each, and an object of
integers. Where a name is repeated the last member of that name counts.
-/

namespace Docket.Json

def optText? : Option Json → Option (Option String)
  | none => some none
  | some .null => some none
  | some (.string s) => some (some s)
  | some _ => none

def only? (key : String) : Json → Option Json
  | .object members => lookup key members
  | .array [j] => some j
  | _ => none

def textAt? : List String → Json → Option String
  | [], j => j.asString?
  | key :: rest, j => (only? key j).bind (textAt? rest)

/-- The members of an object, each name once with its last value. -/
def distinct (members : List (String × Json)) : List (String × Json) :=
  members.foldl (fun ms m => Entries.put m.1 m.2 ms) []

def counts? : Json → Option (List (String × Int))
  | .object members => (distinct members).mapM fun m => m.2.asInt?.map fun n => (m.1, n)
  | _ => none

end Docket.Json
