import Docket.Json.Number
/-!
JSON values. An object keeps its members as they were written; where a name is repeated the last
member of that name counts.
-/

namespace Docket

inductive Json
  | null
  | bool (value : Bool)
  | number (value : Json.Number)
  | string (value : String)
  | array (items : List Json)
  | object (members : List (String × Json))

namespace Json

instance : Inhabited Json := ⟨.null⟩

def ofInt (n : Int) : Json :=
  match Number.ofInt? n with
  | some n => .number n
  | none => .null

/-- The last member of the given name. -/
def lookup (key : String) (members : List (String × Json)) : Option Json :=
  (members.reverse.find? (·.1 == key)).map (·.2)

def get? (key : String) : Json → Option Json
  | .object members => lookup key members
  | _ => none

def isNull : Json → Bool
  | .null => true
  | _ => false

def asString? : Json → Option String
  | .string s => some s
  | _ => none

def asBool? : Json → Option Bool
  | .bool b => some b
  | _ => none

def asInt? : Json → Option Int
  | .number n => n.toInt?
  | _ => none

/-- Any integer literal of 64 bits that is not negative. -/
def asNat? : Json → Option Nat
  | .number (.integer n _) => if 0 ≤ n then some n.toNat else none
  | _ => none

def asDouble? : Json → Option Decimal.Double
  | .number n => some n.toDouble
  | _ => none

def asArray? : Json → Option (List Json)
  | .array items => some items
  | _ => none

end Json

end Docket
