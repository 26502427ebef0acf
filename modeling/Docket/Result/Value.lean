import Docket.Calendar.Instant
import Docket.Decimal.Double
import Docket.Entries
import Docket.Url.Basic
/-!
Decoded results. Leaves carry the type that their kind resolved to; a record keeps its fields in
the order of their first insertion, and the concrete type of the object where it was asked for.
-/

namespace Docket.Result

open Docket.Calendar (Date Instant)

mutual

inductive Value
  | null
  | bool (value : Bool)
  | int (value : Int)
  | float (value : Decimal.Double)
  | string (text : String)
  | enum (member : String)
  | uri (url : Url)
  | date (date : Date)
  | dateTime (instant : Instant)
  | object (record : Record)
  | list (items : List Value)

structure Record where
  typeName : Option String
  fields : List (String × Value)

end

namespace Value

def asRecord? : Value → Option Record
  | .object r => some r
  | _ => none

def isNull : Value → Bool
  | .null => true
  | _ => false

end Value

namespace Record

def empty : Record := ⟨none, []⟩

def get? (r : Record) (key : String) : Option Value := Entries.get? key r.fields

def insert (r : Record) (key : String) (v : Value) : Record :=
  { r with fields := Entries.put key v r.fields }

def withTypeName (r : Record) (name : String) : Record := { r with typeName := some name }

end Record

end Docket.Result
