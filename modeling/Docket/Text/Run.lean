/-!
Tables of character properties. A table is a text of entries in increasing order, with code points
in hexadecimal digits: `41-5A:61` gives the value `61` to a range, `B5:3BC` to one code point, and
an entry without a colon only says that the range belongs to the table. `find?` looks a code point
up by halving.
-/

namespace Docket.Text

structure Run (α : Type) where
  first : Nat
  last : Nat
  value : α

namespace Run

variable {α : Type}

def search (runs : Array (Run α)) (n low high : Nat) : Option (Run α) :=
  if h : low < high ∧ high ≤ runs.size then
    let middle := low + (high - low) / 2
    have inside : middle < runs.size := by omega
    let r := runs[middle]
    if n < r.first then search runs n low middle
    else if r.last < n then search runs n (middle + 1) high
    else some r
  else none
termination_by high - low

def find? (runs : Array (Run α)) (n : Nat) : Option (Run α) := search runs n 0 runs.size

def contains (runs : Array (Run α)) (n : Nat) : Bool := (find? runs n).isSome

/-! ### Reading tables -/

def hexDigit (c : Char) : Nat := if c.isDigit then c.toNat - 48 else c.toNat - 55

def hexNumber (cs : List Char) : Nat := cs.foldl (fun n c => 16 * n + hexDigit c) 0

def read (value : List Char → α) (entry : List Char) : Run α :=
  let range := entry.takeWhile (· ≠ ':')
  let ends := (range.splitOn '-').map hexNumber
  ⟨ends.headD 0, ends.getLastD 0, value ((entry.dropWhile (· ≠ ':')).drop 1)⟩

def isGap (c : Char) : Bool := c = ' ' || c = '\n'

def table (value : List Char → α) (text : String) : Array (Run α) :=
  (((text.toList.splitOnP isGap).filter (!·.isEmpty)).map (read value)).toArray

def set (text : String) : Array (Run Unit) := table (fun _ => ()) text

/-- A table of consecutive code points, each with a sequence of its own: `BC:31.2044.34,31.2044.32`
has two. -/
def spellings (text : String) : Array (Run (List (List Nat))) :=
  let sequences (cs : List Char) : List (List Nat) :=
    (cs.splitOn ',').map fun s => (s.splitOn '.').map hexNumber
  (table sequences text).map fun r => { r with last := r.first + r.value.length - 1 }

def spelling? (runs : Array (Run (List (List Nat)))) (n : Nat) : Option (List Nat) :=
  (find? runs n).bind fun r => r.value[n - r.first]?

end Run

end Docket.Text
