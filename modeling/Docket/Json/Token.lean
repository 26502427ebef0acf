/-!
Tokens of JSON text, read by an automaton that takes one character at a time. A text that is no
sequence of tokens ends in `Token.invalid`, so that what stands before it can still be used.
-/

namespace Docket.Json

/-- A string in which half of a pair of escapes stands alone has no text. -/
inductive Token
  | openBrace
  | closeBrace
  | openBracket
  | closeBracket
  | colon
  | comma
  | string (text : Option String)
  | bare (chars : List Char)
  | invalid
  deriving DecidableEq

namespace Token

/-- The characters of a string so far, in reverse, as long as it has a text; `high` is the first
half of a pair of escapes for one character. -/
structure Draft where
  chars : Option (List Char)
  high : Option Nat

namespace Draft

def empty : Draft := ⟨some [], none⟩

def settled (d : Draft) : Option (List Char) := if d.high.isSome then none else d.chars

def add (d : Draft) (c : Char) : Draft := ⟨d.settled.map (c :: ·), none⟩

def addUnit (d : Draft) (n : Nat) : Draft :=
  if 0xDC00 ≤ n ∧ n < 0xE000 then
    match d.high with
    | some h =>
      ⟨d.chars.map (Char.ofNat (0x10000 + (h - 0xD800) * 0x400 + (n - 0xDC00)) :: ·), none⟩
    | none => ⟨none, none⟩
  else if 0xD800 ≤ n ∧ n < 0xDC00 then ⟨d.settled, some n⟩
  else d.add (Char.ofNat n)

def text (d : Draft) : Option String := d.settled.map fun cs => String.ofList cs.reverse

end Draft

inductive State
  | gap
  | bare (acc : List Char)
  | text (draft : Draft)
  | escape (draft : Draft)
  | hex (draft : Draft) (left : Nat) (value : Nat)
  | failed

def isSpace (c : Char) : Bool := c = ' ' || c = '\n' || c = '\r' || c = '\t'

def isBare (c : Char) : Bool := c.isAlphanum || c = '+' || c = '-' || c = '.'

def hexValue? (c : Char) : Option Nat :=
  let n := c.toNat
  if 48 ≤ n ∧ n ≤ 57 then some (n - 48)
  else if 97 ≤ n ∧ n ≤ 102 then some (n - 87)
  else if 65 ≤ n ∧ n ≤ 70 then some (n - 55)
  else none

def escaped? (c : Char) : Option Char :=
  if c = '"' ∨ c = '\\' ∨ c = '/' then some c
  else if c = 'b' then some '\x08'
  else if c = 'f' then some '\x0c'
  else if c = 'n' then some '\n'
  else if c = 'r' then some '\r'
  else if c = 't' then some '\t'
  else none

def start (c : Char) : List Token × State :=
  if isSpace c then ([], .gap)
  else if c.toNat = 0x7B then ([openBrace], .gap)
  else if c.toNat = 0x7D then ([closeBrace], .gap)
  else if c = '[' then ([openBracket], .gap)
  else if c = ']' then ([closeBracket], .gap)
  else if c = ':' then ([colon], .gap)
  else if c = ',' then ([comma], .gap)
  else if c = '"' then ([], .text .empty)
  else if isBare c then ([], .bare [c])
  else ([invalid], .failed)

def step : State → Char → List Token × State
  | .gap, c => start c
  | .bare acc, c =>
    if isBare c then ([], .bare (c :: acc))
    else
      let (ts, st) := start c
      (.bare acc.reverse :: ts, st)
  | .text d, c =>
    if c = '"' then ([.string d.text], .gap)
    else if c = '\\' then ([], .escape d)
    else if c.toNat < 32 then ([invalid], .failed)
    else ([], .text (d.add c))
  | .escape d, c =>
    if c = 'u' then ([], .hex d 4 0)
    else match escaped? c with
      | some e => ([], .text (d.add e))
      | none => ([invalid], .failed)
  | .hex d left value, c =>
    match hexValue? c with
    | none => ([invalid], .failed)
    | some v =>
      if left ≤ 1 then ([], .text (d.addUnit (16 * value + v)))
      else ([], .hex d (left - 1) (16 * value + v))
  | .failed, _ => ([], .failed)

def finish : State → List Token
  | .gap => []
  | .failed => []
  | .bare acc => [.bare acc.reverse]
  | _ => [invalid]

def readFrom : State → List Char → List Token
  | st, [] => finish st
  | st, c :: rest =>
    let (ts, st) := step st c
    ts ++ readFrom st rest

def read (cs : List Char) : List Token := readFrom .gap cs

end Token

end Docket.Json
