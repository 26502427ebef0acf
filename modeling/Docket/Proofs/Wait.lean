import Docket.RateWindow
import Mathlib.Order.Basic
/-!
Waiting for a window of the request budget to reset. The wait that is told is the time from now to
the reset, in whole seconds, unless now is before 1970; then it is the time from 1970 on. It is
reckoned in words of 64 bits, which hold it whatever the words are.
-/

namespace Docket.RateWindow

open Calendar (Instant lastSecond)

structure WaitsUntil (wait : Nat) (now t : Instant) : Prop where
  exact : (wait : Int) = max 0 (t.seconds - now.seconds)
  zero_iff : wait = 0 ↔ t.seconds ≤ now.seconds
  lands : now.seconds < t.seconds → now.seconds + wait = t.seconds

def unsigned? (n : Int64) : Option UInt64 := if 0 ≤ n then some n.toUInt64 else none

def signed? (n : UInt64) : Option Int64 := if n ≤ 0x7FFFFFFFFFFFFFFF then some n.toInt64 else none

def saturatingSub (m n : UInt64) : UInt64 := if n ≤ m then m - n else 0

def resetInWords? (resetAt : UInt64) : Option Int64 :=
  (signed? resetAt).filter (·.toInt ≤ lastSecond)

def waitInWords (resetAt : UInt64) (now : Int64) : UInt64 :=
  saturatingSub resetAt ((unsigned? now).getD 0)

variable {w : RateWindow} {now t : Instant} {wait : Nat} {resetAt n : UInt64} {seconds : Int64}

theorem waitsUntil_iff : WaitsUntil wait now t ↔ (wait : Int) = max 0 (t.seconds - now.seconds) :=
  ⟨WaitsUntil.exact, fun h => ⟨h, by omega, by omega⟩⟩

theorem resetTime?_eq_some_iff :
    w.resetTime? = some t ↔ t = ⟨w.resetAt, 0⟩ ∧ (w.resetAt : Int) ≤ lastSecond := by
  unfold resetTime?
  split
  · rename_i h
    simp [h, eq_comm]
  · rename_i h
    simp [h]

theorem resetTime?_eq_none_iff : w.resetTime? = none ↔ lastSecond < w.resetAt := by
  unfold resetTime?
  split
  · rename_i h
    simp [h]
  · rename_i h
    simp [Int.not_le.1 h]

theorem secondsUntilReset_eq (w : RateWindow) (now : Instant) :
    (w.secondsUntilReset now : Int) = max 0 (w.resetAt - max 0 now.seconds) := by
  unfold secondsUntilReset
  omega

theorem waitsUntil_secondsUntilReset_iff (h : w.resetTime? = some t) :
    WaitsUntil (w.secondsUntilReset now) now t ↔ 0 ≤ now.seconds := by
  obtain ⟨rfl, -⟩ := resetTime?_eq_some_iff.1 h
  rw [waitsUntil_iff, secondsUntilReset_eq]
  dsimp only
  omega

theorem toNat_saturatingSub (m n : UInt64) : (saturatingSub m n).toNat = m.toNat - n.toNat := by
  unfold saturatingSub
  split
  · rename_i h
    exact UInt64.toNat_sub_of_le _ _ h
  · rename_i h
    rw [UInt64.le_iff_toNat_le] at h
    exact (Nat.sub_eq_zero_of_le (by omega)).symm

theorem toNat_getD_unsigned? (seconds : Int64) :
    ((unsigned? seconds).getD 0).toNat = seconds.toInt.toNat := by
  unfold unsigned?
  split
  · rename_i h
    exact Int64.toNat_toUInt64_of_le h
  · rename_i h
    rw [Int64.le_iff_toInt_le, Int64.toInt_zero] at h
    exact (Int.toNat_of_nonpos (by omega)).symm

theorem toNat_waitInWords (hw : w.resetAt = resetAt.toNat) (hnow : now.seconds = seconds.toInt) :
    (waitInWords resetAt seconds).toNat = w.secondsUntilReset now := by
  rw [waitInWords, toNat_saturatingSub, toNat_getD_unsigned?, secondsUntilReset, hw, hnow]

theorem toInt_toInt64 (h : n ≤ 0x7FFFFFFFFFFFFFFF) : n.toInt64.toInt = n.toNat := by
  have hlt : n.toNat ≤ 0x7FFFFFFFFFFFFFFF := UInt64.le_iff_toNat_le.1 h
  have hhalf : 2 * n.toBitVec.toNat < 2 ^ 64 := by
    rw [UInt64.toNat_toBitVec]
    omega
  rw [← Int64.toInt_toBitVec, UInt64.toBitVec_toInt64, BitVec.toInt_eq_toNat_of_lt hhalf,
    UInt64.toNat_toBitVec]

theorem resetTime?_eq_map_resetInWords? (hw : w.resetAt = resetAt.toNat) :
    w.resetTime? = (resetInWords? resetAt).map fun s => ⟨s.toInt, 0⟩ := by
  unfold resetTime? resetInWords? signed?
  by_cases hword : resetAt ≤ 0x7FFFFFFFFFFFFFFF
  · rw [if_pos hword, Option.filter_some, toInt_toInt64 hword, hw]
    by_cases hlast : (resetAt.toNat : Int) ≤ lastSecond
    · simp [hlast, toInt_toInt64 hword]
    · simp [hlast]
  · have hbeyond : ¬(resetAt.toNat : Int) ≤ lastSecond := by
      rw [UInt64.le_iff_toNat_le] at hword
      have hmax : (0x7FFFFFFFFFFFFFFF : UInt64).toNat = 0x7FFFFFFFFFFFFFFF := rfl
      rw [hmax] at hword
      rw [lastSecond]
      omega
    rw [if_neg hword, hw, if_neg hbeyond]
    rfl

/-- The wait that is told agrees with the instant of the reset from 1970 on. Before 1970 it is the
time from 1970 to the reset. Words of 64 bits give the same instant and the same wait. -/
theorem secondsUntilReset_of_resetTime (w : RateWindow) (now : Instant) :
    (∀ t, w.resetTime? = some t ↔ t = ⟨w.resetAt, 0⟩ ∧ (w.resetAt : Int) ≤ lastSecond) ∧
    (w.resetTime? = none ↔ lastSecond < w.resetAt) ∧
    (∀ t, w.resetTime? = some t →
      (WaitsUntil (w.secondsUntilReset now) now t ↔ 0 ≤ now.seconds) ∧
      (now.seconds < 0 → WaitsUntil (w.secondsUntilReset now) ⟨0, 0⟩ t)) ∧
    (w.secondsUntilReset now : Int) = max 0 (w.resetAt - max 0 now.seconds) ∧
    ∀ (resetAt : UInt64) (seconds : Int64), w.resetAt = resetAt.toNat →
      now.seconds = seconds.toInt →
      w.resetTime? = (resetInWords? resetAt).map (fun s => ⟨s.toInt, 0⟩) ∧
      w.secondsUntilReset now = (waitInWords resetAt seconds).toNat := by
  refine ⟨fun t => resetTime?_eq_some_iff, resetTime?_eq_none_iff, fun t ht => ?_,
    secondsUntilReset_eq w now, fun resetAt seconds hw hnow => ?_⟩
  · refine ⟨waitsUntil_secondsUntilReset_iff ht, fun hnow => ?_⟩
    have hepoch : w.secondsUntilReset ⟨0, 0⟩ = w.secondsUntilReset now := by
      unfold secondsUntilReset
      dsimp only
      omega
    rw [← hepoch]
    exact (waitsUntil_secondsUntilReset_iff ht).2 (Int.le_refl 0)
  · exact ⟨resetTime?_eq_map_resetInWords? hw, (toNat_waitInWords hw hnow).symm⟩

theorem not_waitsUntil_before_epoch :
    resetTime? ⟨60, 1, 1700000000⟩ = some ⟨1700000000, 0⟩ ∧
    secondsUntilReset ⟨60, 1, 1700000000⟩ ⟨-1, 0⟩ = 1700000000 ∧
    ¬WaitsUntil (secondsUntilReset ⟨60, 1, 1700000000⟩ ⟨-1, 0⟩) ⟨-1, 0⟩ ⟨1700000000, 0⟩ := by
  refine ⟨rfl, rfl, fun h => ?_⟩
  have hexact := h.exact
  revert hexact
  decide

end Docket.RateWindow
