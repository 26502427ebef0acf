import Docket.Json.Basic
/-!
What a text of the JSON grammar holds before its numbers and strings are valued. A number beyond the
doubles and a string with half a pair of escapes keep their place without a value, so that a member
nobody looks at may hold one; `toJson?` asks for all of them and bounds the nesting.

A record is an object, in which a field is named at most once, or an array of the fields in their
order; the other members of an object are not valued.
-/

namespace Docket.Json

inductive Outline
  | null
  | bool (value : Bool)
  | number (value : Option Number)
  | string (text : Option String)
  | array (items : List Outline)
  | object (members : List (Option String × Outline))

namespace Outline

mutual

/-- The value of an outline with no more than `depth` arrays and objects inside each other. -/
def toJson? : Nat → Outline → Option Json
  | _, .null => some .null
  | _, .bool b => some (.bool b)
  | _, .number n => n.map .number
  | _, .string s => s.map .string
  | 0, .array _ => none
  | 0, .object _ => none
  | depth + 1, .array items => (itemsToJson? depth items).map .array
  | depth + 1, .object members => (membersToJson? depth members).map .object

def itemsToJson? : Nat → List Outline → Option (List Json)
  | _, [] => some []
  | depth, o :: rest => do
    let v ← toJson? depth o
    some (v :: (← itemsToJson? depth rest))

def membersToJson? : Nat → List (Option String × Outline) → Option (List (String × Json))
  | _, [] => some []
  | depth, (key, o) :: rest => do
    let k ← key
    let v ← toJson? depth o
    some ((k, v) :: (← membersToJson? depth rest))

end

/-- The member of a name, `some none` if there is none; `none` if the name is repeated. -/
def unique? (members : List (Option String × Outline)) (key : String) : Option (Option Outline) :=
  match members.filter (·.1 == some key) with
  | [] => some none
  | [m] => some (some m.2)
  | _ => none

def record? (names : List String) (required : Nat) : Outline → Option (List (Option Outline))
  | .object members =>
    if members.all (·.1.isSome) then names.mapM (unique? members) else none
  | .array items =>
    if required ≤ items.length ∧ items.length ≤ names.length then
      some (items.map some ++ List.replicate (names.length - items.length) none)
    else none
  | _ => none

def opt? {α : Type} (read? : Outline → Option α) : Option Outline → Option (Option α)
  | none => some none
  | some .null => some none
  | some o => (read? o).map some

def text? : Outline → Option String
  | .string s => s
  | _ => none

def nat? : Outline → Option Nat
  | .number (some (.integer n _)) => if 0 ≤ n then some n.toNat else none
  | _ => none

end Outline

end Docket.Json
