import Docket.Calendar.Instant
import Docket.Text.Blank
/-!
Reading dates and timestamps. A date is year, month and day joined by hyphens: white space may
stand before each number, an unsigned year has at most four digits and a month and a day at most
two. A timestamp has fixed columns and an offset that is taken off, so that what is read
is an instant of universal time.
-/

namespace Docket.Calendar

inductive ReadError
  | outOfRange
  | invalid
  | tooShort
  | tooLong
  deriving DecidableEq

namespace ReadError

def message : ReadError → String
  | .outOfRange => "input is out of range"
  | .invalid => "input contains invalid characters"
  | .tooShort => "premature end of input"
  | .tooLong => "trailing input"

end ReadError

def digitValue (c : Char) : Nat := c.toNat - 48

def naturalOf (cs : List Char) : Nat := cs.foldl (fun n c => 10 * n + digitValue c) 0

def readDigits (most : Option Nat) (cs : List Char) : Except ReadError (Nat × List Char) :=
  let run := cs.takeWhile Char.isDigit
  let ds := match most with
    | some n => run.take n
    | none => run
  match ds, cs with
  | [], [] => .error .tooShort
  | [], _ => .error .invalid
  | ds, cs => .ok (naturalOf ds, cs.drop ds.length)

def readMark (mark : Char) : List Char → Except ReadError (List Char)
  | [] => .error .tooShort
  | c :: rest => if c = mark then .ok rest else .error .invalid

/-- A year of at most four digits, or signed and of any length. -/
def readYear (cs : List Char) : Except ReadError (Int × List Char) := do
  let (year, rest) ← match Text.trimLeft cs with
    | '-' :: rest => (readDigits none rest).map fun (n, rest) => (-(n : Int), rest)
    | '+' :: rest => (readDigits none rest).map fun (n, rest) => ((n : Int), rest)
    | rest => (readDigits (some 4) rest).map fun (n, rest) => ((n : Int), rest)
  if -2147483648 ≤ year ∧ year < 2147483648 then .ok (year, rest) else .error .outOfRange

def readWithin (low high : Nat) (cs : List Char) : Except ReadError (Nat × List Char) := do
  let (n, rest) ← readDigits (some 2) (Text.trimLeft cs)
  if low ≤ n ∧ n ≤ high then .ok (n, rest) else .error .outOfRange

def readDateChars (cs : List Char) : Except ReadError Date := do
  let (year, cs) ← readYear cs
  let cs ← readMark '-' cs
  let (month, cs) ← readWithin 1 12 cs
  let cs ← readMark '-' cs
  let (day, cs) ← readWithin 1 31 cs
  if cs ≠ [] then .error .tooLong
  else
    let d : Date := ⟨year, month, day⟩
    if d.Valid then .ok d else .error .outOfRange

def Date.read (s : String) : Except ReadError Date := readDateChars s.toList

def readColumns (n : Nat) (cs : List Char) : Except ReadError (Nat × List Char) :=
  let ds := cs.take n
  if ds.length = n ∧ ds.all Char.isDigit then .ok (naturalOf ds, cs.drop n) else .error .invalid

def readColumn (marks : List Char) : List Char → Except ReadError (List Char)
  | c :: rest => if c ∈ marks then .ok rest else .error .invalid
  | [] => .error .invalid

/-- A fraction of a second in nanoseconds; digits after the ninth are dropped. -/
def readFraction : List Char → Except ReadError (Nat × List Char)
  | '.' :: rest => do
    let (n, _) ← readDigits (some 9) rest
    let ds := rest.takeWhile Char.isDigit
    .ok (n * Nat.pow 10 (9 - min 9 ds.length), rest.drop ds.length)
  | rest => .ok (0, rest)

def readOffsetPair (tens : Nat) : List Char → Except ReadError (Nat × List Char)
  | a :: b :: rest =>
    if a.isDigit && b.isDigit then
      if digitValue a ≤ tens then .ok (10 * digitValue a + digitValue b, rest)
      else .error .outOfRange
    else .error .invalid
  | cs => if cs.any (128 ≤ ·.toNat) then .error .invalid else .error .tooShort

def readOffset : List Char → Except ReadError (Int × List Char)
  | [] => .error .tooShort
  | c :: rest =>
    if c = 'Z' ∨ c = 'z' then .ok (0, rest)
    else if c = '+' ∨ c = '-' ∨ c = '\u2212' then do
      let (hours, rest) ← readOffsetPair 9 rest
      let rest ← readMark ':' rest
      let (minutes, rest) ← readOffsetPair 5 rest
      let seconds : Int := hours * 3600 + minutes * 60
      .ok (if c = '+' then seconds else -seconds, rest)
    else .error .invalid

def byteCount (cs : List Char) : Nat := cs.foldl (fun n c => n + c.utf8Size) 0

def timestampColumns : Nat := 19

def readInstantChars (cs : List Char) : Except ReadError Instant := do
  if byteCount cs < timestampColumns then .error .tooShort
  let (year, cs) ← readColumns 4 cs
  let cs ← readColumn ['-'] cs
  let (month, cs) ← readColumns 2 cs
  let cs ← readColumn ['-'] cs
  let (day, cs) ← readColumns 2 cs
  let date : Date := ⟨year, month, day⟩
  if ¬ date.Valid then .error .outOfRange
  let cs ← readColumn ['T', 't', ' '] cs
  let (hour, cs) ← readColumns 2 cs
  let cs ← readColumn [':'] cs
  let (minute, cs) ← readColumns 2 cs
  let cs ← readColumn [':'] cs
  let (second, cs) ← readColumns 2 cs
  let (nanos, cs) ← readFraction cs
  if 24 ≤ hour ∨ 60 ≤ minute ∨ 60 < second then .error .outOfRange
  let (offset, cs) ← readOffset cs
  if cs ≠ [] then .error .tooLong
  if secondsPerDay ≤ offset.natAbs then .error .outOfRange
  let clock : Int := hour * 3600 + minute * 60 + min second 59
  .ok { seconds := date.dayNumber * secondsPerDay + clock - offset
        nanos := nanos + (if second = 60 then 1000000000 else 0) }

def Instant.read (s : String) : Except ReadError Instant := readInstantChars s.toList

end Docket.Calendar
