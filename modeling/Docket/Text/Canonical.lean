import Docket.Text.Canonical.Pair
import Docket.Text.Canonical.Rank
/-!
The composed normal form of a text. Texts that differ only in how characters are put together, or in
the order of marks that do not interact, have the same one: characters are taken apart, marks are
sorted by rank, and what can be one character is put together again.
-/

namespace Docket.Text.Canonical

/-! ### Syllables

A Korean syllable is a lead, a vowel and perhaps a tail, and its place among the syllables follows
from these. -/

def syllableBase : Nat := 0xAC00

def leadBase : Nat := 0x1100

def vowelBase : Nat := 0x1161

/-- One before the first tail: a syllable without a tail counts as having this one. -/
def tailBase : Nat := 0x11A7

def vowels : Nat := 21

def tails : Nat := 28

def syllables : Nat := 19 * vowels * tails

def splitSyllable? (n : Nat) : Option (List Nat) :=
  if syllableBase ≤ n ∧ n < syllableBase + syllables then
    let i := n - syllableBase
    let opened := [leadBase + i / (vowels * tails), vowelBase + i % (vowels * tails) / tails]
    some (if i % tails = 0 then opened else opened ++ [tailBase + i % tails])
  else none

def joinSyllable? (a b : Nat) : Option Nat :=
  if leadBase ≤ a ∧ a < leadBase + 19 ∧ vowelBase ≤ b ∧ b < vowelBase + vowels then
    some (syllableBase + ((a - leadBase) * vowels + (b - vowelBase)) * tails)
  else if syllableBase ≤ a ∧ a < syllableBase + syllables ∧ (a - syllableBase) % tails = 0 ∧
      tailBase < b ∧ b < tailBase + tails then
    some (a + (b - tailBase))
  else none

/-! ### Taking apart -/

/-- What a code point is made of; none is made of pairs more than four deep. -/
def split : Nat → Nat → List Nat
  | 0, n => [n]
  | depth + 1, n =>
    match splitSyllable? n, Run.spelling? sequences n, Run.spelling? pairs n with
    | some s, _, _ => s
    | none, some s, _ => s
    | none, none, some (a :: rest) => split depth a ++ rest
    | none, none, _ => [n]

abbrev Ranked := Nat × Nat

def place (p : Ranked) : List Ranked → List Ranked
  | [] => [p]
  | q :: rest => if 0 < p.2 ∧ p.2 < q.2 then q :: place p rest else p :: q :: rest

def decompose (ns : List Nat) : List Ranked :=
  (((ns.flatMap (split 4)).map fun n => (n, rank n)).foldl (fun acc p => place p acc) []).reverse

/-! ### Putting together -/

def join? (a b : Nat) : Option Nat :=
  (joinSyllable? a b).or ((composites.find? fun (x, y, _) => x = a && y = b).map fun (_, _, n) => n)

structure Draft where
  done : List Nat
  base : Option Nat
  marks : List Ranked

def Draft.close (d : Draft) : List Nat := d.marks.map (·.1) ++ (d.base.toList ++ d.done)

/-- A base or mark joins the last base unless a mark of its rank or a higher one stands between. -/
def Draft.add (d : Draft) (p : Ranked) : Draft :=
  let free := (d.marks.head?).all (·.2 < p.2)
  match (if free then d.base.bind (join? · p.1) else none) with
  | some n => { d with base := some n }
  | none =>
    if p.2 = 0 then ⟨d.close, some p.1, []⟩
    else if d.base.isSome then { d with marks := p :: d.marks }
    else { d with done := p.1 :: d.done }

def compose (cs : List Char) : List Char :=
  if cs.all (·.toNat < 128) then cs
  else
    let d := (decompose (cs.map Char.toNat)).foldl Draft.add ⟨[], none, []⟩
    (d.close.reverse).map Char.ofNat

end Docket.Text.Canonical
