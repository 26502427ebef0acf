import Docket.Calendar.Reader
import Docket.Query.Document
import Docket.Result.Value
import Docket.Url.Reader
/-!
Decoding the data of a reply against the document that asked for it. Missing and null fields are
null; everything else must have the shape selected. The first fault is reported at its place in
the data: fields in order and depth first, then the concrete type, then the fragments for it.
-/

namespace Docket

namespace Result

inductive PathStep
  | key (name : String)
  | index (i : Nat)
  deriving DecidableEq

abbrev Path := List PathStep

def PathStep.append (written : String) : PathStep → String
  | .key name => if written = "" then name else written ++ "." ++ name
  | .index i => written ++ "[" ++ toString i ++ "]"

def Path.write (p : Path) : String := p.foldl PathStep.append ""

inductive Mismatch
  | notObject
  | notList
  | noTypename
  | notString
  | notInteger
  | notNumber
  | notBoolean
  | notUri (error : UrlError)
  | notDate (error : Calendar.ReadError)
  | notTimestamp (error : Calendar.ReadError)
  | notMember (text : String) (enum : String)
  deriving DecidableEq

def Mismatch.message : Mismatch → String
  | .notObject => "expected an object"
  | .notList => "expected a list"
  | .noTypename => "fragment selection without `__typename`"
  | .notString => "expected a string"
  | .notInteger => "expected an integer"
  | .notNumber => "expected a number"
  | .notBoolean => "expected a boolean"
  | .notUri error => "invalid URI: " ++ error.message
  | .notDate error => "invalid date: " ++ error.message
  | .notTimestamp error => "invalid timestamp: " ++ error.message
  | .notMember text enum => "`" ++ text ++ "` is not a member of " ++ enum

end Result

open Result

structure DecodeError where
  path : Result.Path
  mismatch : Result.Mismatch
  deriving DecidableEq

def DecodeError.message (e : DecodeError) : String :=
  "response does not match query at `" ++ e.path.write ++ "`: " ++ e.mismatch.message

namespace Result

open Query (LeafType Shape SelectionSet Selection Fragment Document typenameField)

def asText (j : Json) : Except Mismatch String :=
  match j with
  | .string s => .ok s
  | _ => .error .notString

/-- The value of a leaf; an identifier may also be a number, kept as its text. -/
def decodeLeaf (leaf : LeafType) (j : Json) : Except Mismatch Value :=
  match leaf with
  | .string => (asText j).map .string
  | .html => (asText j).map .string
  | .id => match j with
    | .number n => .ok (.string n.write)
    | j => (asText j).map .string
  | .int => match j.asInt? with
    | some n => .ok (.int n)
    | none => .error .notInteger
  | .float => match j.asDouble? with
    | some x => .ok (.float x)
    | none => .error .notNumber
  | .boolean => match j.asBool? with
    | some b => .ok (.bool b)
    | none => .error .notBoolean
  | .uri => do
    match Url.read (← asText j) with
    | .ok u => .ok (.uri u)
    | .error e => .error (.notUri e)
  | .date => do
    match Calendar.Date.read (← asText j) with
    | .ok d => .ok (.date d)
    | .error e => .error (.notDate e)
  | .dateTime => do
    match Calendar.Instant.read (← asText j) with
    | .ok t => .ok (.dateTime t)
    | .error e => .error (.notTimestamp e)
  | .enum type => do
    let s ← asText j
    if type.accepts s then .ok (.enum s) else .error (.notMember s type.name)

def placed {α : Type} (path : Path) : Except Mismatch α → Except DecodeError α
  | .ok a => .ok a
  | .error m => .error ⟨path, m⟩

def decodeItems (decode : Json → Path → Except DecodeError Value) (path : Path) :
    Nat → List Json → Except DecodeError (List Value)
  | _, [] => .ok []
  | i, j :: rest => do
    let v ← if j.isNull then .ok .null else decode j (path ++ [.index i])
    let vs ← decodeItems decode path (i + 1) rest
    .ok (v :: vs)

def typenameOf (members : List (String × Json)) : Except Mismatch String :=
  match (Json.lookup typenameField members).bind Json.asString? with
  | some name => .ok name
  | none => .error .noTypename

mutual

def decodeShape : Shape → Json → Path → Except DecodeError Value
  | .leaf type, j, path => placed path (decodeLeaf type j)
  | .object set, j, path => (decodeSet set j path).map .object
  | .list item, .array items, path =>
    (decodeItems (fun j p => decodeShape item j p) path 0 items).map .list
  | .list _, _, path => .error ⟨path, .notList⟩

/-- The record of an object: its fields, then an entry for each fragment, which is null where the
concrete type is another one. -/
def decodeSet : SelectionSet → Json → Path → Except DecodeError Record
  | ⟨fields, fragments⟩, .object members, path => do
    let r ← decodeFields fields members path .empty
    match fragments with
    | [] => .ok r
    | f :: rest => do
      let name ← placed path (typenameOf members)
      let r ← decodeFragments (f :: rest) name (.object members) path r
      .ok (r.withTypeName name)
  | _, _, path => .error ⟨path, .notObject⟩

def decodeFields : List Selection → List (String × Json) → Path → Record →
    Except DecodeError Record
  | [], _, _, r => .ok r
  | ⟨head, shape⟩ :: rest, members, path, r => do
    let key := head.responseKey
    let v ← match Json.lookup key members with
      | none => .ok .null
      | some j => if j.isNull then .ok .null else decodeShape shape j (path ++ [.key key])
    decodeFields rest members path (r.insert key v)

def decodeFragments : List Fragment → String → Json → Path → Record → Except DecodeError Record
  | [], _, _, _, r => .ok r
  | ⟨typeName, set⟩ :: rest, name, j, path, r => do
    let v ← if typeName.text = name then (decodeSet set j path).map .object else .ok .null
    decodeFragments rest name j path (r.insert typeName.text v)

end

end Result

def Query.Document.decode (d : Query.Document) (data : Json) : Except DecodeError Result.Value :=
  (Result.decodeSet d.selections data []).map .object

end Docket
