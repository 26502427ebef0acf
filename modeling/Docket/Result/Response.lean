import Docket.Result.Value
/-!
The dictionary view of a decoded result, which is read by key without knowing the query. Leaves
that are only shown become text: URLs, enumeration members, dates and timestamps.
-/

namespace Docket

namespace Result

inductive Expectation
  | text
  | integer
  | boolean
  | object
  | list
  | objectList
  | natural
  | typeName (name : String)
  deriving DecidableEq

def Expectation.message : Expectation → String
  | .text => "text"
  | .integer => "an integer"
  | .boolean => "a boolean"
  | .object => "an object"
  | .list => "a list"
  | .objectList => "a list of objects"
  | .natural => "a non-negative integer"
  | .typeName name => name

end Result

inductive ResponseError
  | nilInput
  | keyNotFound (key : String)
  | unexpectedShape (key : String) (expected : Result.Expectation)
  deriving DecidableEq

def ResponseError.message : ResponseError → String
  | .nilInput => "cannot convert an absent value"
  | .keyNotFound key => "key `" ++ key ++ "` not found"
  | .unexpectedShape key expected => "value at `" ++ key ++ "` is not " ++ expected.message

namespace Result

mutual

inductive Entry
  | null
  | bool (value : Bool)
  | int (value : Int)
  | float (value : Decimal.Double)
  | text (text : String)
  | object (response : Response)
  | list (items : List Entry)

structure Response where
  typeName : Option String
  entries : List (String × Entry)

end

inductive ChildKind
  | singleObject
  | objectList
  | other
  deriving DecidableEq

mutual

def Value.toEntry : Value → Entry
  | .null => .null
  | .bool b => .bool b
  | .int n => .int n
  | .float x => .float x
  | .string s => .text s
  | .enum s => .text s
  | .uri u => .text u.write
  | .date d => .text d.write
  | .dateTime t => .text t.write
  | .object r => .object r.toResponse
  | .list items => .list (toEntries items)

def Record.toResponse : Record → Response
  | ⟨typeName, fields⟩ => ⟨typeName, toFields fields⟩

def toEntries : List Value → List Entry
  | [] => []
  | v :: rest => v.toEntry :: toEntries rest

def toFields : List (String × Value) → List (String × Entry)
  | [] => []
  | (k, v) :: rest => (k, v.toEntry) :: toFields rest

end

namespace Entry

def isRecord : Entry → Bool
  | .object _ => true
  | _ => false

def isNull : Entry → Bool
  | .null => true
  | _ => false

def kind : Entry → ChildKind
  | .object _ => .singleObject
  | .list items => if items.all fun e => e.isRecord || e.isNull then .objectList else .other
  | _ => .other

end Entry

mutual

/-- Equality of entries, by which a float that is not a number differs from itself. -/
def Entry.equal : Entry → Entry → Bool
  | .null, .null => true
  | .bool a, .bool b => a == b
  | .int a, .int b => a == b
  | .float a, .float b => a.equal b
  | .text a, .text b => a == b
  | .object a, .object b => a.equal b
  | .list a, .list b => equalItems a b
  | _, _ => false

def Response.equal : Response → Response → Bool
  | ⟨t, fs⟩, ⟨u, gs⟩ => t == u && fs.length == gs.length && equalFields fs gs

def equalItems : List Entry → List Entry → Bool
  | [], [] => true
  | a :: as, b :: bs => a.equal b && equalItems as bs
  | _, _ => false

def equalFields : List (String × Entry) → List (String × Entry) → Bool
  | [], _ => true
  | (k, a) :: rest, gs =>
    (match Entries.get? k gs with
      | some b => a.equal b
      | none => false) && equalFields rest gs

end

namespace Response

def ofValue? : Option Value → Except ResponseError Response
  | none => .error .nilInput
  | some (.object r) => .ok r.toResponse
  | some _ => .error (.unexpectedShape "" .object)

def keys (r : Response) : List String := Entries.keys r.entries

def get (r : Response) (key : String) : Except ResponseError Entry :=
  match Entries.get? key r.entries with
  | some e => .ok e
  | none => .error (.keyNotFound key)

def childKind (r : Response) (key : String) : Except ResponseError ChildKind :=
  (r.get key).map Entry.kind

def optText (r : Response) (key : String) : Except ResponseError (Option String) := do
  match ← r.get key with
  | .text s => .ok (some s)
  | .null => .ok none
  | _ => .error (.unexpectedShape key .text)

def text (r : Response) (key : String) : Except ResponseError String := do
  match ← r.get key with
  | .text s => .ok s
  | _ => .error (.unexpectedShape key .text)

def int (r : Response) (key : String) : Except ResponseError Int := do
  match ← r.get key with
  | .int n => .ok n
  | _ => .error (.unexpectedShape key .integer)

def bool (r : Response) (key : String) : Except ResponseError Bool := do
  match ← r.get key with
  | .bool b => .ok b
  | _ => .error (.unexpectedShape key .boolean)

def optObject (r : Response) (key : String) : Except ResponseError (Option Response) := do
  match ← r.get key with
  | .object o => .ok (some o)
  | .null => .ok none
  | _ => .error (.unexpectedShape key .object)

def object (r : Response) (key : String) : Except ResponseError Response := do
  match ← r.get key with
  | .object o => .ok o
  | _ => .error (.unexpectedShape key .object)

/-- The objects of a list of objects and nulls; `none` for any other list. -/
def objectsOf? : List Entry → Option (List Response)
  | [] => some []
  | .object o :: rest => (objectsOf? rest).map (o :: ·)
  | .null :: rest => objectsOf? rest
  | _ :: _ => none

def objects (r : Response) (key : String) : Except ResponseError (List Response) := do
  match ← r.get key with
  | .list items => match objectsOf? items with
    | some os => .ok os
    | none => .error (.unexpectedShape key .objectList)
  | _ => .error (.unexpectedShape key .list)

def count (r : Response) (key : String) : Except ResponseError Nat := do
  let n ← r.int key
  if 0 ≤ n then .ok n.toNat else .error (.unexpectedShape key .natural)

end Response

end Result

end Docket
