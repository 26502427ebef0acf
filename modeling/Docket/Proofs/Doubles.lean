import Docket.Json.Number
import Mathlib.Algebra.Order.Ring.Nat
import Mathlib.Tactic.Common
/-!
Which doubles are numbers. A double is none exactly if its exponent field is full and its fraction
is not zero. The doubles that JSON numbers stand for are numbers: those of float literals are
finite, and those of integer literals are far from the largest.
-/

namespace Docket

namespace Decimal

namespace Double

def IsNaN (x : Double) : Prop :=
  x.bits.toNat / 2 ^ 52 % 2 ^ 11 = 0x7FF ∧ x.bits.toNat % 2 ^ 52 ≠ 0
  deriving Decidable

theorem isNaN_iff {x : Double} : x.isNaN = true ↔ x.IsNaN := by
  have hbits := x.bits.toNat_lt
  rw [isNaN, decide_eq_true_eq, IsNaN, magnitudeBits, infinityBits, hiddenBit, signBit]
  generalize x.bits.toNat = bits at *
  omega

theorem equal_self (x : Double) : x.equal x = !x.isNaN := by
  simp [equal]

theorem isNaN_of_isFinite {x : Double} (h : x.isFinite = true) : x.isNaN = false := by
  rw [isFinite, decide_eq_true_eq] at h
  rw [isNaN, decide_eq_false_iff_not]
  omega

theorem isFinite_ofMagnitude {m : Nat} (h : m < infinityBits) (negative : Bool) :
    (ofMagnitude negative m).isFinite = true := by
  have hlarge : infinityBits < 2 ^ 63 := by decide
  have hmagnitude : (ofMagnitude negative m).magnitudeBits = m := by
    rw [magnitudeBits, ofMagnitude, UInt64.toNat_ofNat', signBit]
    split
    · omega
    · omega
  rw [isFinite, hmagnitude, decide_eq_true_eq]
  exact h

end Double

theorem divRound_le (num den : Nat) : divRound num den ≤ num / den + 1 := by
  unfold divRound
  dsimp only
  split
  · omega
  · split
    · omega
    · omega

theorem binaryExponent_one {n : Nat} (h : n ≠ 0) : binaryExponent n 1 = Nat.log2 n := by
  have hscaled : scaled n 1 (Nat.log2 n) = (n, 2 ^ Nat.log2 n) := by
    rw [scaled, if_pos (Int.natCast_nonneg _), Int.toNat_natCast, Nat.one_shiftLeft]
  have hone : Nat.log2 1 = 0 := by decide
  rw [binaryExponent, hone, Int.natCast_zero, Int.sub_zero, hscaled]
  exact if_pos (Nat.log2_self_le h)

theorem div_scaled_lt (n : Nat) :
    (scaled n 1 (Nat.log2 n - 52)).1 / (scaled n 1 (Nat.log2 n - 52)).2 < 2 ^ 53 := by
  have hlt : n < 2 ^ (Nat.log2 n + 1) := Nat.lt_log2_self
  unfold scaled
  split
  · rename_i hscale
    obtain ⟨k, hk⟩ : ∃ k, Nat.log2 n = k + 52 := ⟨Nat.log2 n - 52, by omega⟩
    have hnat : ((Nat.log2 n : Int) - 52).toNat = k := by omega
    rw [hk, Nat.add_assoc, Nat.pow_add, Nat.mul_comm] at hlt
    rw [hnat, Nat.one_shiftLeft]
    exact Nat.div_lt_of_lt_mul (by rwa [Nat.mul_comm])
  · rename_i hscale
    have hnat : (-((Nat.log2 n : Int) - 52)).toNat = 52 - Nat.log2 n := by omega
    have hpow : 2 ^ (Nat.log2 n + 1) * 2 ^ (52 - Nat.log2 n) = 2 ^ 53 := by
      rw [← Nat.pow_add]
      congr 1
      omega
    rw [hnat, Nat.div_one, Nat.shiftLeft_eq, ← hpow]
    exact Nat.mul_lt_mul_of_pos_right hlt (Nat.two_pow_pos _)

theorem magnitude_lt {n : Nat} (h : n < 2 ^ 64) : magnitude n 1 < infinityBits := by
  by_cases hn : n = 0
  · rw [hn]
    decide
  · have hlog : Nat.log2 n < 64 := (Nat.log2_lt hn).2 h
    have hmax : max ((Nat.log2 n : Int) - 52) (-1074) = Nat.log2 n - 52 := by omega
    have hdiv := div_scaled_lt n
    have hround := divRound_le (scaled n 1 (Nat.log2 n - 52)).1 (scaled n 1 (Nat.log2 n - 52)).2
    have htop : ((Nat.log2 n : Int) - 52 + 1074).toNat ≤ 1085 := by omega
    have hfield := Nat.mul_le_mul_right hiddenBit htop
    rw [magnitude, if_neg hn, binaryExponent_one hn]
    dsimp only
    rw [hmax]
    rw [infinityBits, hiddenBit] at *
    omega

theorem Double.isFinite_ofInt {n : Int} (h : Json.InWord n) : (ofInt n).isFinite = true := by
  refine isFinite_ofMagnitude (magnitude_lt ?_) _
  rw [Json.InWord] at h
  omega

end Decimal

theorem Json.Number.isNaN_toDouble (n : Number) : n.toDouble.isNaN = false := by
  cases n with
  | integer value inWord =>
    exact Decimal.Double.isNaN_of_isFinite (Decimal.Double.isFinite_ofInt inWord)
  | float value finite => exact Decimal.Double.isNaN_of_isFinite finite

end Docket
