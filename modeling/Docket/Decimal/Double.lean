/-!
Binary floating point numbers as their 64 bits. A finite number is a significand times a power of
two; `magnitude` finds the nearest one to a quotient of naturals, a half going to the even
neighbour, so that nothing here depends on the machine's own arithmetic.
-/

namespace Docket.Decimal

structure Double where
  bits : UInt64
  deriving DecidableEq

def hiddenBit : Nat := 0x10000000000000

def infinityBits : Nat := 0x7FF * hiddenBit

def signBit : Nat := 0x8000000000000000

def divRound (num den : Nat) : Nat :=
  let q := num / den
  let r := 2 * (num % den)
  if r < den then q
  else if den < r then q + 1
  else q + q % 2

def scaled (num den : Nat) (scale : Int) : Nat × Nat :=
  if 0 ≤ scale then (num, den <<< scale.toNat) else (num <<< (-scale).toNat, den)

def binaryExponent (num den : Nat) : Int :=
  let e : Int := (Nat.log2 num : Int) - (Nat.log2 den : Int)
  let (n, d) := scaled num den e
  if d ≤ n then e else e - 1

/-- The bits of the double nearest to `num / den`, which are at least `infinityBits` when the
quotient is too large. -/
def magnitude (num den : Nat) : Nat :=
  if num = 0 then 0
  else
    let q := max (binaryExponent num den - 52) (-1074)
    let (n, d) := scaled num den q
    (q + 1074).toNat * hiddenBit + divRound n d

namespace Double

def isNegative (x : Double) : Bool := signBit ≤ x.bits.toNat

def magnitudeBits (x : Double) : Nat := x.bits.toNat % signBit

def isFinite (x : Double) : Bool := x.magnitudeBits < infinityBits

def isNaN (x : Double) : Bool := infinityBits < x.magnitudeBits

/-- The equality of numbers: a NaN differs from itself, and the two zeros agree. -/
def equal (x y : Double) : Bool :=
  !x.isNaN && (x == y || (x.magnitudeBits == 0 && y.magnitudeBits == 0))

def ofMagnitude (negative : Bool) (magnitude : Nat) : Double :=
  ⟨UInt64.ofNat (if negative then signBit + magnitude else magnitude)⟩

def parts (x : Double) : Nat × Int :=
  let field : Nat := x.magnitudeBits / hiddenBit
  let fraction : Nat := x.magnitudeBits % hiddenBit
  if field = 0 then (fraction, -1074) else (fraction + hiddenBit, (field : Int) - 1075)

def ofInt (n : Int) : Double := ofMagnitude (n < 0) (magnitude n.natAbs 1)

def ratio (x : Double) : Nat × Nat :=
  let (m, q) := x.parts
  if 0 ≤ q then (m <<< q.toNat, 1) else (m, 1 <<< (-q).toNat)

end Double

end Docket.Decimal
