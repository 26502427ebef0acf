import Docket.Word
/-!
Punycode: a label outside ASCII written in letters and digits. The ASCII characters come first and
the others follow as a chain of distances, each in digits whose weights adapt to the last distance.
-/

namespace Docket.Url.Punycode

def settle (delta k : Nat) : Nat :=
  if 455 < delta then settle (delta / 35) (k + 36) else k + 36 * delta / (delta + 38)
termination_by delta

def adapt (delta count : Nat) (first : Bool) : Nat :=
  let d := if first then delta / 700 else delta / 2
  settle (d + d / count) 0

def threshold (k bias : Nat) : Nat := min 26 (max 1 (k - bias))

def digitChar (d : Nat) : Char := if d < 26 then Char.ofNat (97 + d) else Char.ofNat (22 + d)

def digitValue? (c : Char) : Option Nat :=
  if c.isDigit then some (c.toNat - 22)
  else if c.isLower then some (c.toNat - 97)
  else if c.isUpper then some (c.toNat - 65)
  else none

def writeDistance (bias q k : Nat) : List Char :=
  if h : q < threshold k bias ∨ threshold k bias = 0 then [digitChar q]
  else
    digitChar (threshold k bias + (q - threshold k bias) % (36 - threshold k bias)) ::
      writeDistance bias ((q - threshold k bias) / (36 - threshold k bias)) (k + 36)
termination_by q
decreasing_by
  have := Nat.div_le_self (q - threshold k bias) (36 - threshold k bias)
  omega

structure Encoding where
  written : List Char
  delta : Nat
  bias : Nat
  handled : Nat

def Encoding.place (basic : Nat) (input : List Nat) (m : Nat) (e : Encoding) : Encoding :=
  input.foldl (fun e c =>
    if c < m then { e with delta := e.delta + 1 }
    else if c = m then
      { written := e.written ++ writeDistance e.bias e.delta 36
        delta := 0
        bias := adapt e.delta (e.handled + 1) (e.handled == basic)
        handled := e.handled + 1 }
    else e) e

def encodeFrom (basic : Nat) (input : List Nat) : Nat → List Nat → Encoding → Encoding
  | _, [], e => e
  | n, m :: rest, e =>
    let e := { e with delta := e.delta + (m - n) * (e.handled + 1) }
    let e := e.place basic input m
    encodeFrom basic input (m + 1) rest { e with delta := e.delta + 1 }

def sortedDistinct (ns : List Nat) : List Nat := (ns.mergeSort (· ≤ ·)).eraseDups

def encode (label : List Char) : List Char :=
  let input := label.map Char.toNat
  let ascii := label.filter (·.toNat < 128)
  let start := if ascii.isEmpty then [] else ascii ++ ['-']
  let others := sortedDistinct (input.filter (128 ≤ ·))
  (encodeFrom ascii.length input 128 others ⟨start, 0, 72, ascii.length⟩).written

structure Decoding where
  output : List Nat
  point : Nat
  index : Nat
  last : Nat
  weight : Nat
  place : Nat
  bias : Nat

/-- Takes one digit; a digit below the threshold ends a distance and inserts a character. Distances
and weights are numbers of 32 bits. -/
def Decoding.digit? (d : Decoding) (c : Char) : Option Decoding :=
  (digitValue? c).bind fun v =>
    let index := d.index + v * d.weight
    let t := threshold d.place d.bias
    if !fits 32 index then none
    else if v < t then
      let count := d.output.length + 1
      let point := d.point + index / count
      let spot := index % count
      if point < 0x110000 ∧ ¬ (0xD800 ≤ point ∧ point < 0xE000) then
        some {
          output := d.output.take spot ++ point :: d.output.drop spot
          point := point
          index := spot + 1
          last := spot + 1
          weight := 1
          place := 36
          bias := adapt (index - d.last) count (d.last == 0) }
      else none
    else if !fits 32 (d.weight * (36 - t)) then none
    else some { d with index := index, weight := d.weight * (36 - t), place := d.place + 36 }

def decodeFrom? : Decoding → List Char → Option Decoding
  | d, [] => if d.weight = 1 then some d else none
  | d, c :: rest => (d.digit? c).bind fun d => decodeFrom? d rest

def splitLastHyphen (cs : List Char) : List Char × List Char :=
  let digits := (cs.reverse.takeWhile (· ≠ '-')).reverse
  if digits.length + 1 = cs.length then ([], cs)
  else (cs.take (cs.length - digits.length - 1), digits)

def decode? (cs : List Char) : Option (List Char) :=
  let (ascii, digits) := splitLastHyphen cs
  let start : Decoding := ⟨ascii.map Char.toNat, 128, 0, 0, 1, 36, 72⟩
  (decodeFrom? start digits).map fun d => d.output.map Char.ofNat

end Docket.Url.Punycode
