import Docket.Calendar.Instant
import Docket.Proofs.Calendar.Days
/-!
Clock readings and instants. A clock shows the day and the seconds into it, and a leap second as
second 60 of its minute; of two instants the earlier one has the earlier reading, whether or not
either is a leap second.
-/

namespace Docket.Calendar

open Date (Counts)

namespace Instant

def toSecond (t : Instant) : Instant := ⟨t.seconds, if t.isLeapSecond then 1000000000 else 0⟩

def Before (t u : Instant) : Prop :=
  t.seconds < u.seconds ∨ t.seconds = u.seconds ∧ t.nanos < u.nanos

/-- Only the last second of a minute is followed by a leap second. -/
def IsProper (t : Instant) : Prop := t.isLeapSecond = true → t.seconds % 60 = 59

end Instant

namespace Clock

def Before (c d : Clock) : Prop :=
  c.date.Before d.date ∨ c.date = d.date ∧ (c.hour < d.hour ∨ c.hour = d.hour ∧
    (c.minute < d.minute ∨ c.minute = d.minute ∧ c.second < d.second))

def leapNanos (second : Nat) : Nat := if second = 60 then 1000000000 else 0

/-- A clock turns to the reading at the instant, counted on the time of the clock. A leap second
belongs to the second before it. -/
structure Marks (c : Clock) (t : Instant) : Prop where
  hour : c.hour < 24
  minute : c.minute < 60
  second : c.second ≤ 60
  seconds : ∃ days, Counts days c.date ∧
    t.seconds = days * 86400 + c.hour * 3600 + c.minute * 60 + (min c.second 59 : Nat)
  nanos : t.nanos = leapNanos c.second

theorem second_lt_iff {s s' : Nat} (hs : s ≤ 60) (hs' : s' ≤ 60) :
    s < s' ↔ min s 59 < min s' 59 ∨ min s 59 = min s' 59 ∧ leapNanos s < leapNanos s' := by
  unfold leapNanos
  split <;> split <;> omega

theorem second_eq_iff {s s' : Nat} (hs : s ≤ 60) (hs' : s' ≤ 60) :
    s = s' ↔ min s 59 = min s' 59 ∧ leapNanos s = leapNanos s' := by
  unfold leapNanos
  split <;> split <;> omega

variable {c d : Clock} {t u : Instant}

theorem Marks.seconds_lt_iff (hc : c.Marks t) (hd : d.Marks u) : t.seconds < u.seconds ↔
    c.date.Before d.date ∨ c.date = d.date ∧ (c.hour < d.hour ∨ c.hour = d.hour ∧
      (c.minute < d.minute ∨ c.minute = d.minute ∧ min c.second 59 < min d.second 59)) := by
  obtain ⟨hch, hcm, -, ⟨n, hcount, hct⟩, -⟩ := hc
  obtain ⟨hdh, hdm, -, ⟨m, hcount', hdt⟩, -⟩ := hd
  rw [← hcount.lt_iff hcount', ← hcount.eq_iff hcount', hct, hdt]
  omega

theorem Marks.seconds_eq_iff (hc : c.Marks t) (hd : d.Marks u) : t.seconds = u.seconds ↔
    c.date = d.date ∧ c.hour = d.hour ∧ c.minute = d.minute ∧
      min c.second 59 = min d.second 59 := by
  obtain ⟨hch, hcm, -, ⟨n, hcount, hct⟩, -⟩ := hc
  obtain ⟨hdh, hdm, -, ⟨m, hcount', hdt⟩, -⟩ := hd
  rw [← hcount.eq_iff hcount', hct, hdt]
  omega

theorem Marks.before_iff (hc : c.Marks t) (hd : d.Marks u) : t.Before u ↔ c.Before d := by
  rw [Instant.Before, hc.seconds_lt_iff hd, hc.seconds_eq_iff hd, hc.nanos, hd.nanos, Clock.Before,
    second_lt_iff hc.second hd.second]
  simp only [and_or_left, or_assoc, and_assoc]

theorem Marks.eq_iff (hc : c.Marks t) (hd : d.Marks u) : t = u ↔ c = d := by
  have hinstant : t = u ↔ t.seconds = u.seconds ∧ t.nanos = u.nanos := by
    cases t
    cases u
    simp
  have hclock : c = d ↔
      c.date = d.date ∧ c.hour = d.hour ∧ c.minute = d.minute ∧ c.second = d.second := by
    cases c
    cases d
    simp
  rw [hinstant, hc.seconds_eq_iff hd, hc.nanos, hd.nanos, hclock, second_eq_iff hc.second hd.second]
  simp only [and_assoc]

end Clock

theorem Instant.IsProper.clock_marks {t : Instant} (h : t.IsProper) : t.clock.Marks t.toSecond := by
  have hday := Int.mul_ediv_add_emod t.seconds 86400
  have hcounts := Date.counts_ofDayNumber (t.seconds / 86400)
  unfold clock toSecond
  cases hleap : t.isLeapSecond with
  | true =>
    have hlast := h hleap
    have hsecond : (t.seconds % 86400).toNat % 60 + 1 = 60 := by omega
    refine ⟨?_, ?_, ?_, ⟨_, hcounts, ?_⟩, ?nanos⟩
    case nanos => simp only [secondsPerDay, Clock.leapNanos, if_true, hsecond]
    all_goals
      simp only [secondsPerDay, if_true]
      omega
  | false =>
    have hsecond : (t.seconds % 86400).toNat % 60 + 0 ≠ 60 := by omega
    refine ⟨?_, ?_, ?_, ⟨_, hcounts, ?_⟩, ?nanos⟩
    case nanos => simp only [secondsPerDay, Clock.leapNanos, Bool.false_eq_true, if_false, hsecond]
    all_goals
      simp only [secondsPerDay, Bool.false_eq_true, if_false]
      omega

end Docket.Calendar
