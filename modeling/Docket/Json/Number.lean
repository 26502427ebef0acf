import Docket.Decimal.Shortest
import Docket.Word
/-!
Numbers of JSON. An integer literal of 64 bits stays an integer; every other literal is a finite
double. The significand of a literal is its longest run of leading digits below two to the
sixty-fourth, further digits only count as places; it is rounded to a double and then multiplied
or divided, with one rounding, by the double nearest to the power of ten.
-/

namespace Docket.Json

open Decimal (Double)

def InWord (n : Int) : Prop := -9223372036854775808 ≤ n ∧ n < 18446744073709551616

instance (n : Int) : Decidable (InWord n) := inferInstanceAs (Decidable (_ ∧ _))

inductive Number
  | integer (value : Int) (inWord : InWord value)
  | float (value : Double) (finite : value.isFinite = true)
  deriving DecidableEq

namespace Number

def ofDouble? (x : Double) : Option Number :=
  if h : x.isFinite = true then some (.float x h) else none

def ofInt? (n : Int) : Option Number :=
  if h : InWord n then some (.integer n h) else none

def toInt? : Number → Option Int
  | .integer n _ => if n < 9223372036854775808 then some n else none
  | .float _ _ => none

def toDouble : Number → Double
  | .integer n _ => Double.ofInt n
  | .float x _ => x

/-- How doubles are written: positionally while the leading digit stands between the fifth place
after the point and the sixteenth before it, always with a point, and otherwise with a signed
exponent. -/
structure Notation where
  leastPositional : Int
  mostPositional : Int

def doubleNotation : Notation := ⟨-5, 15⟩

def zeros (n : Nat) : List Char := List.replicate n '0'

def digitChar (d : Nat) : Char := Char.ofNat (48 + d)

def writeExponent (e : Int) : List Char :=
  ['e', if e < 0 then '-' else '+'] ++ Nat.toDigits 10 e.natAbs

def writeDecimal (f : Notation) (d : Decimal.Expansion) : List Char :=
  let ds := d.digits.map digitChar
  let places := d.exponent + 1
  if f.leastPositional ≤ d.exponent ∧ d.exponent ≤ f.mostPositional then
    if places ≤ 0 then ['0', '.'] ++ zeros (-places).toNat ++ ds
    else if ds.length ≤ places.toNat then ds ++ zeros (places.toNat - ds.length) ++ ['.', '0']
    else ds.take places.toNat ++ '.' :: ds.drop places.toNat
  else
    let fraction := match ds.drop 1 with
      | [] => []
      | rest => '.' :: rest
    ds.take 1 ++ fraction ++ writeExponent d.exponent

def writeDouble (x : Double) : List Char :=
  let sign := if x.isNegative then ['-'] else []
  if x.magnitudeBits = 0 then sign ++ ['0', '.', '0']
  else sign ++ writeDecimal doubleNotation x.shortest

def write : Number → String
  | .integer n _ => toString n
  | .float x _ => String.ofList (writeDouble x)

structure Literal where
  negative : Bool
  whole : List Nat
  fraction : Option (List Nat)
  exponent : Option Int

def leadingWord : Nat → List Nat → Nat × List Nat
  | n, [] => (n, [])
  | n, d :: rest => if fits 64 (10 * n + d) then leadingWord (10 * n + d) rest else (n, d :: rest)

def powerOfTen (n : Nat) : Double := Double.ofMagnitude false (Decimal.magnitude (Nat.pow 10 n) 1)

def scaleOnce (m : Nat) (e : Int) : Nat :=
  let (a, b) := (Double.ofMagnitude false m).ratio
  let (c, d) := (powerOfTen e.natAbs).ratio
  if 0 ≤ e then Decimal.magnitude (a * c) (b * d) else Decimal.magnitude (a * d) (b * c)

/-- Powers beyond 308 are taken in steps of 308, downwards only. -/
def scale : Nat → Nat → Int → Option Nat
  | steps, m, e =>
    if e.natAbs ≤ 308 then
      let r := scaleOnce m e
      if r < Decimal.infinityBits then some r else none
    else if m = 0 then some 0
    else if 0 ≤ e then none
    else match steps with
      | 0 => some 0
      | steps + 1 => scale steps (scaleOnce m (-308)) (e + 308)

/-- The magnitude of `significand * 10 ^ e`, if it is finite. After four steps down nothing but
zero is left of any significand. -/
def magnitude? (significand : Nat) (e : Int) : Option Nat :=
  scale 4 (Decimal.magnitude significand 1) e

def Literal.toNumber? (l : Literal) : Option Number :=
  let (whole, left) := leadingWord 0 l.whole
  let signed (m : Nat) := ofDouble? (Double.ofMagnitude l.negative m)
  match l.fraction, l.exponent, left with
  | none, none, [] =>
    if l.negative then
      if whole = 0 ∨ 9223372036854775808 < whole then signed (Decimal.magnitude whole 1)
      else ofInt? (-(whole : Int))
    else ofInt? whole
  | fraction, exponent, left =>
    let ds := fraction.getD []
    let (significand, rest) := leadingWord whole ds
    let places : Int := left.length + rest.length - ds.length
    (magnitude? significand (places + exponent.getD 0)).bind signed

def isDigits (cs : List Char) : Bool := !cs.isEmpty && cs.all Char.isDigit

def digitValues (cs : List Char) : List Nat := cs.map fun c => c.toNat - 48

def naturalOf (ds : List Nat) : Nat := ds.foldl (fun n d => 10 * n + d) 0

def readExponent : List Char → Option (Option Int)
  | [] => some none
  | c :: rest =>
    if c = 'e' ∨ c = 'E' then
      let (negative, ds) := match rest with
        | '-' :: ds => (true, ds)
        | '+' :: ds => (false, ds)
        | ds => (false, ds)
      if isDigits ds then
        let n : Int := naturalOf (digitValues ds)
        some (some (if negative then -n else n))
      else none
    else none

def readLiteral? (cs : List Char) : Option Literal :=
  let (negative, cs) := match cs with
    | '-' :: rest => (true, rest)
    | rest => (false, rest)
  let whole := cs.takeWhile Char.isDigit
  if !isDigits whole || (whole.head? == some '0' && 1 < whole.length) then none
  else match cs.dropWhile Char.isDigit with
    | '.' :: rest =>
      let fraction := rest.takeWhile Char.isDigit
      if isDigits fraction then
        (readExponent (rest.dropWhile Char.isDigit)).map fun e =>
          ⟨negative, digitValues whole, some (digitValues fraction), e⟩
      else none
    | rest => (readExponent rest).map fun e => ⟨negative, digitValues whole, none, e⟩

def read? (cs : List Char) : Option Number := (readLiteral? cs).bind Literal.toNumber?

end Number

end Docket.Json
