import Docket.Decimal.Double
/-!
The shortest decimal that reads back as a given double. Grids of one, two, and so on up to
seventeen digits are tried in turn; the first with a point in the interval of reals that round to
the double wins, and of its two neighbours of the double the nearer one is taken.
-/

namespace Docket.Decimal

/-- Decimal digits and the exponent of the first: `digits = [1, 5]`, `exponent = 3` is 1500. -/
structure Expansion where
  digits : List Nat
  exponent : Int

structure Interval where
  low : Nat
  mid : Nat
  high : Nat
  den : Nat
  closed : Bool

def Interval.contains (i : Interval) (num den : Nat) : Bool :=
  let below := compare (i.low * den) (num * i.den)
  let above := compare (num * i.den) (i.high * den)
  (below == .lt || (i.closed && below == .eq)) && (above == .lt || (i.closed && above == .eq))

/-- The interval of a positive finite double. Below a power of two the spacing is halved. -/
def Double.interval (x : Double) : Interval :=
  let (m, q) := x.parts
  let down := if m = hiddenBit && q ≠ -1074 then 1 else 2
  let up := if 0 ≤ q then 1 <<< q.toNat else 1
  let den := 4 * (if 0 ≤ q then 1 else 1 <<< (-q).toNat)
  ⟨(4 * m - down) * up, 4 * m * up, (4 * m + 2) * up, den, m % 2 = 0⟩

def digitCount (n : Nat) : Nat := (Nat.toDigits 10 n).length

def decimalExponent (num den : Nat) : Int :=
  let e : Int := (digitCount num : Int) - (digitCount den : Int)
  if 0 ≤ e then (if den * Nat.pow 10 e.toNat ≤ num then e else e - 1)
  else if den ≤ num * Nat.pow 10 (-e).toNat then e else e - 1

def gridPoint (n : Nat) (step : Int) : Nat × Nat :=
  if 0 ≤ step then (n * Nat.pow 10 step.toNat, 1) else (n, Nat.pow 10 (-step).toNat)

/-- The grid point for the interval on the grid with steps `10 ^ step`, if the grid has one. -/
def Interval.pick (i : Interval) (step : Int) : Option Nat :=
  let (s, t) := gridPoint 1 step
  let below := i.mid * t / (i.den * s)
  let hit (n : Nat) : Bool := let (a, b) := gridPoint n step; i.contains a b
  match hit below, hit (below + 1) with
  | true, true => some (divRound (i.mid * t) (i.den * s))
  | true, false => some below
  | false, true => some (below + 1)
  | false, false => none

def stripZeros (ds : List Nat) : List Nat := (ds.reverse.dropWhile (· == 0)).reverse

def digitsOf (n : Nat) : List Nat := (Nat.toDigits 10 n).map fun c => c.toNat - 48

def Double.shortest (x : Double) : Expansion :=
  let i := x.interval
  let lead := decimalExponent i.mid i.den
  let found := (List.range 17).findSome? fun (k : Nat) =>
    let step := lead - (k : Int)
    (i.pick step).map fun n => (n, step)
  let (n, step) := found.getD (0, 0)
  let ds := digitsOf n
  ⟨stripZeros ds, step + (ds.length : Int) - 1⟩

end Docket.Decimal
