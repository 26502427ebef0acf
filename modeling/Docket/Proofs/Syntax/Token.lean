import Docket.Json.Token
/-!
Tokens of the query language, read by an automaton that takes one character at a time. White space,
commas and comments stand between tokens. Numbers with a fraction, block strings, and the marks of
lists, objects and directives are not read.
-/

namespace Docket.Query.Syntax

open Json.Token (Draft escaped? hexValue?)

inductive Token
  | openBrace
  | closeBrace
  | openParen
  | closeParen
  | colon
  | dollar
  | bang
  | spread
  | name (text : String)
  | int (value : Int)
  | string (text : String)
  deriving DecidableEq

namespace Token

/-- Where the automaton stands. The characters of names and numbers are kept in reverse; `opened`
and `emptied` follow the first and the second quote of a string. -/
inductive State
  | gap
  | comment
  | dots (seen : Nat)
  | name (acc : List Char)
  | minus
  | number (negative : Bool) (acc : List Char)
  | opened
  | emptied
  | text (draft : Draft)
  | escape (draft : Draft)
  | hex (draft : Draft) (left : Nat) (value : Nat)

def isIgnored (c : Char) : Bool :=
  c = ' ' || c = '\n' || c = '\r' || c = '\t' || c = ',' || c.toNat = 0xFEFF

def isNameStart (c : Char) : Bool := c.isAlpha || c = '_'

def isNameRest (c : Char) : Bool := c.isAlphanum || c = '_'

def mark? (c : Char) : Option Token :=
  if c.toNat = 0x7B then some openBrace
  else if c.toNat = 0x7D then some closeBrace
  else if c = '(' then some openParen
  else if c = ')' then some closeParen
  else if c = ':' then some colon
  else if c = '$' then some dollar
  else if c = '!' then some bang
  else none

def start (c : Char) : Option (List Token × State) :=
  if isIgnored c then some ([], .gap)
  else if c = '#' then some ([], .comment)
  else if c = '.' then some ([], .dots 1)
  else if c = '"' then some ([], .opened)
  else if c = '-' then some ([], .minus)
  else if c.isDigit then some ([], .number false [c])
  else if isNameStart c then some ([], .name [c])
  else (mark? c).map fun t => ([t], .gap)

def emit (ts : List Token) (r : List Token × State) : List Token × State := (ts ++ r.1, r.2)

def startAfter (t : Token) (c : Char) : Option (List Token × State) := (start c).map (emit [t])

def ofName (acc : List Char) : Token := .name (String.ofList acc.reverse)

def ofNumber (negative : Bool) (acc : List Char) : Token :=
  let n : Int := Nat.ofDigitChars 10 acc.reverse 0
  .int (if negative then -n else n)

def stepText (d : Draft) (c : Char) : Option (List Token × State) :=
  if c = '"' then d.text.map fun s => ([.string s], .gap)
  else if c = '\\' then some ([], .escape d)
  else if c.toNat < 32 ∧ c ≠ '\t' then none
  else some ([], .text (d.add c))

def step : State → Char → Option (List Token × State)
  | .gap, c => start c
  | .comment, c => some ([], if c = '\n' ∨ c = '\r' then .gap else .comment)
  | .dots seen, c =>
    if c ≠ '.' then none
    else if seen = 2 then some ([.spread], .gap)
    else some ([], .dots (seen + 1))
  | .name acc, c =>
    if isNameRest c then some ([], .name (c :: acc)) else startAfter (ofName acc) c
  | .minus, c => if c.isDigit then some ([], .number true [c]) else none
  | .number negative acc, c =>
    if c.isDigit then if acc = ['0'] then none else some ([], .number negative (c :: acc))
    else if c = '.' ∨ isNameStart c then none
    else startAfter (ofNumber negative acc) c
  | .opened, c => if c = '"' then some ([], .emptied) else stepText .empty c
  | .emptied, c => if c = '"' then none else startAfter (.string "") c
  | .text d, c => stepText d c
  | .escape d, c =>
    if c = 'u' then some ([], .hex d 4 0)
    else (escaped? c).map fun e => ([], .text (d.add e))
  | .hex d left value, c =>
    (hexValue? c).map fun v =>
      if left ≤ 1 then ([], .text (d.addUnit (16 * value + v)))
      else ([], .hex d (left - 1) (16 * value + v))

def finish : State → Option (List Token)
  | .gap => some []
  | .comment => some []
  | .name acc => some [ofName acc]
  | .number negative acc => some [ofNumber negative acc]
  | .emptied => some [.string ""]
  | _ => none

def run : State → List Char → Option (List Token × State)
  | st, [] => some ([], st)
  | st, c :: rest => (step st c).bind fun r => (run r.2 rest).map (emit r.1)

def read? (cs : List Char) : Option (List Token) :=
  (run .gap cs).bind fun r => (finish r.2).map (r.1 ++ ·)

theorem emit_nil : emit [] = id := rfl

theorem emit_comp_emit (ts us : List Token) : emit ts ∘ emit us = emit (ts ++ us) := by
  funext r
  simp only [Function.comp_apply, emit, List.append_assoc]

theorem run_append (st : State) (cs ds : List Char) :
    run st (cs ++ ds) = (run st cs).bind fun r => (run r.2 ds).map (emit r.1) := by
  induction cs generalizing st with
  | nil => simp [run, emit_nil]
  | cons c cs ih =>
    rw [List.cons_append, run, run]
    cases step st c with
    | none => rfl
    | some r =>
      rw [Option.bind_some, Option.bind_some, ih, Option.map_bind, Option.bind_map]
      congr 1
      funext q
      simp only [Function.comp_apply, Option.map_map, emit_comp_emit]
      rfl

end Token

end Docket.Query.Syntax
