import Docket.Settings.Field
import Docket.Word
/-!
Settings on the command line. A flag takes a value, as the next argument or after `=`; a short flag
may also have its value attached. Each flag may be given once, and nothing else may be given.
-/

namespace Docket.Settings

def readFlag? (arg : String) : Option (Field × Option String) :=
  match arg.toList with
  | '-' :: '-' :: cs =>
    let name := String.ofList (cs.takeWhile (· ≠ '='))
    let value := match cs.dropWhile (· ≠ '=') with
      | _ :: v => some (String.ofList v)
      | [] => none
    (Field.all.find? fun f => f.flag = name).map fun f => (f, value)
  | '-' :: c :: cs =>
    let value := match cs with
      | [] => none
      | '=' :: v => some (String.ofList v)
      | v => some (String.ofList v)
    (Field.all.find? fun f => f.letter? = some c).map fun f => (f, value)
  | _ => none

def isFree (arg : String) : Bool :=
  match arg.toList with
  | '-' :: _ :: _ => false
  | _ => true

def readNumber? (s : String) : Option Nat :=
  let ds := match s.toList with
    | '+' :: ds => ds
    | ds => ds
  let n : Nat := ds.foldl (fun n c => 10 * n + (c.toNat - 48)) 0
  if !ds.isEmpty && ds.all Char.isDigit && fits 32 n then some n else none

def addFlag (f : Field) (value : String) (l : Layer) : Option Layer :=
  if (Entries.get? f.key l).isSome then none
  else if f.isNumber then (readNumber? value).map fun n => Entries.put f.key (.ofInt n) l
  else some (Entries.put f.key (.string value) l)

def readFlags (l : Layer) : List String → Option Layer
  | [] => some l
  | arg :: rest => do
    match ← readFlag? arg with
    | (f, some value) => readFlags (← addFlag f value l) rest
    | (f, none) =>
      match rest with
      | value :: rest => if isFree value then readFlags (← addFlag f value l) rest else none
      | [] => none

def ofArguments? (args : List String) : Option Layer := readFlags [] args

end Docket.Settings
