import Docket.Proofs.Bytes
import Docket.Proofs.Calendar.Stamps
import Docket.Result.Decode
import Docket.Result.Response
/-!
Timestamps as they are shown: as the reading of a clock on universal time, in fixed columns, so that
texts are equal and ordered as the instants are.
-/

namespace Docket

namespace Calendar

def Instant.InFourDigitYear (t : Instant) : Prop :=
  ∃ c : Clock, c.Marks t.toSecond ∧ 0 ≤ c.date.year ∧ c.date.year ≤ 9999

def readClockChars (cs : List Char) : Except ReadError Clock := do
  let (year, cs) ← readColumns 4 cs
  let cs ← readColumn ['-'] cs
  let (month, cs) ← readColumns 2 cs
  let cs ← readColumn ['-'] cs
  let (day, cs) ← readColumns 2 cs
  let cs ← readColumn [','] cs
  let cs ← readColumn [' '] cs
  let (hour, cs) ← readColumns 2 cs
  let cs ← readColumn [':'] cs
  let (minute, cs) ← readColumns 2 cs
  let cs ← readColumn [':'] cs
  let (second, cs) ← readColumns 2 cs
  if cs ≠ [] then .error .tooLong else .ok ⟨⟨year, month, day⟩, hour, minute, second⟩

def Clock.read (s : String) : Except ReadError Clock := readClockChars s.toList

/-- The text is the reading of a clock on universal time that turns to it at the whole second. -/
def Shows (text : String) (t : Instant) : Prop :=
  ∃ c, Clock.read text = .ok c ∧ ∀ u, c.Marks u ↔ u = t.toSecond

namespace Clock

structure Fits (c : Clock) : Prop where
  year : 0 ≤ c.date.year ∧ c.date.year ≤ 9999
  month : c.date.month < 100
  day : c.date.day < 100
  hour : c.hour < 100
  minute : c.minute < 100
  second : c.second < 100

def writeChars (c : Clock) : List Char :=
  c.date.writeChars ++ ',' :: ' ' :: padded 2 c.hour ++ ':' :: padded 2 c.minute ++
    ':' :: padded 2 c.second

variable {c d : Clock} {t : Instant}

theorem Marks.fits (h : c.Marks t) (hyear : 0 ≤ c.date.year ∧ c.date.year ≤ 9999) : c.Fits := by
  obtain ⟨hhour, hminute, hsecond, ⟨days, hcounts, -⟩, -⟩ := h
  obtain ⟨⟨-, hmonth⟩, -, hday⟩ := hcounts.isDay
  have hle := daysIn_le c.date.year c.date.month
  exact ⟨hyear, by omega, by omega, by omega, by omega, by omega⟩

theorem Fits.writeChars_eq (h : c.Fits) : c.writeChars =
    padded 4 c.date.year.toNat ++ '-' :: (padded 2 c.date.month ++ '-' :: (padded 2 c.date.day ++
      ',' :: ' ' :: (padded 2 c.hour ++ ':' :: (padded 2 c.minute ++
        ':' :: padded 2 c.second)))) := by
  rw [writeChars, Date.writeChars, writeYear, if_pos h.year]
  simp only [List.append_assoc, List.cons_append]

theorem Fits.readClockChars_writeChars (h : c.Fits) : readClockChars c.writeChars = .ok c := by
  have hfour : 0 < 4 := by decide
  have htwo : 0 < 2 := by decide
  rw [h.writeChars_eq]
  simp only [readClockChars, ite_error_eq_ok_iff, bind_eq_ok_iff, Prod.exists,
    readColumn_eq_ok_iff, readColumns_eq_ok_iff hfour, readColumns_eq_ok_iff htwo,
    List.mem_singleton, exists_eq_left]
  obtain ⟨hyear, hmonth, hday, hhour, hminute, hsecond⟩ := h
  refine ⟨_, _, ⟨rfl, by omega⟩, _, rfl, _, _, ⟨rfl, hmonth⟩, _, rfl, _, _, ⟨rfl, hday⟩, _, rfl, _,
    rfl, _, _, ⟨rfl, hhour⟩, _, rfl, _, _, ⟨rfl, hminute⟩, _, rfl, _, [],
    ⟨(List.append_nil _).symm, hsecond⟩, not_not.2 rfl, ?_⟩
  rw [Int.toNat_of_nonneg hyear.1]

theorem Fits.isAscii (h : c.Fits) : Text.IsAscii c.writeChars := by
  have hdigits : ∀ width n, ∀ c ∈ padded width n, c.toNat < 128 := by
    intro width n c hc
    have hdigit := Text.isDigit_iff.1 (isDigit_of_mem_padded hc)
    omega
  rw [h.writeChars_eq]
  intro c hc
  simp only [List.mem_append, List.mem_cons] at hc
  rcases hc with hc | rfl | hc | rfl | hc | rfl | rfl | hc | rfl | hc | rfl | hc
  all_goals first | exact hdigits _ _ _ hc | decide

theorem Fits.lt_iff (hc : c.Fits) (hd : d.Fits) : c.writeChars < d.writeChars ↔ c.Before d := by
  have htwo : 0 < 2 := by decide
  obtain ⟨hcfirst, hclast⟩ := hc.year
  obtain ⟨hdfirst, hdlast⟩ := hd.year
  have hcyear : c.date.year.toNat < 10 ^ 4 := by omega
  have hdyear : d.date.year.toNat < 10 ^ 4 := by omega
  have hdate : c.date = d.date ↔ c.date.year = d.date.year ∧ c.date.month = d.date.month ∧
      c.date.day = d.date.day := by
    cases c.date
    cases d.date
    simp
  rw [hc.writeChars_eq, hd.writeChars_eq, Before, Date.Before, hdate]
  -- the columns are compared one after the other, each as its number is
  simp only [padded_append_lt_iff hcyear hdyear (by decide), List.cons_lt_cons_iff,
    padded_append_lt_iff hc.month hd.month htwo, padded_append_lt_iff hc.day hd.day htwo,
    padded_append_lt_iff hc.hour hd.hour htwo, padded_append_lt_iff hc.minute hd.minute htwo,
    padded_lt_iff hc.second hd.second htwo, lt_irrefl, false_or, true_and]
  have hless : c.date.year.toNat < d.date.year.toNat ↔ c.date.year < d.date.year := by omega
  have hequal : c.date.year.toNat = d.date.year.toNat ↔ c.date.year = d.date.year := by omega
  rw [hless, hequal]
  simp only [and_or_left, or_assoc, and_assoc]

end Clock

namespace Instant

variable {t u : Instant}

theorem write_eq (t : Instant) : t.write = String.ofList t.clock.writeChars := rfl

theorem IsProper.fits_clock (h : t.IsProper) (hyear : t.InFourDigitYear) : t.clock.Fits := by
  obtain ⟨c, hmarks, hyear⟩ := hyear
  have hclock : c = t.clock := (hmarks.eq_iff h.clock_marks).1 rfl
  rw [hclock] at hyear
  exact h.clock_marks.fits hyear

theorem IsProper.shows_write (h : t.IsProper) (hyear : t.InFourDigitYear) : Shows t.write t := by
  have hmarks := h.clock_marks
  refine ⟨t.clock, ?_, fun u => ⟨fun hu => (hu.eq_iff hmarks).2 rfl, fun hu => ?_⟩⟩
  · rw [Clock.read, write_eq, String.toList_ofList, (h.fits_clock hyear).readClockChars_writeChars]
  · rw [hu]
    exact hmarks

theorem IsProper.write_eq_iff (ht : t.IsProper) (hu : u.IsProper) (htyear : t.InFourDigitYear)
    (huyear : u.InFourDigitYear) : t.write = u.write ↔ t.toSecond = u.toSecond := by
  rw [ht.clock_marks.eq_iff hu.clock_marks]
  constructor
  · intro h
    have hchars : t.clock.writeChars = u.clock.writeChars := String.ofList_injective h
    have hread := (ht.fits_clock htyear).readClockChars_writeChars
    rw [hchars, (hu.fits_clock huyear).readClockChars_writeChars] at hread
    exact (Except.ok.inj hread).symm
  · intro h
    rw [write_eq, write_eq, h]

theorem IsProper.bytes_write_lt_iff (ht : t.IsProper) (hu : u.IsProper) (htyear : t.InFourDigitYear)
    (huyear : u.InFourDigitYear) :
    Text.bytes t.write < Text.bytes u.write ↔ t.toSecond.Before u.toSecond := by
  have htfits := ht.fits_clock htyear
  have hufits := hu.fits_clock huyear
  have htascii := htfits.isAscii
  have huascii := hufits.isAscii
  rw [ht.clock_marks.before_iff hu.clock_marks, ← htfits.lt_iff hufits]
  rw [← String.toList_ofList (l := t.clock.writeChars)] at htascii ⊢
  rw [← String.toList_ofList (l := u.clock.writeChars)] at huascii ⊢
  exact htascii.bytes_lt_iff huascii

end Instant

end Calendar

namespace Result

open Calendar (Instant Denotes Shows)

theorem decodeLeaf_dateTime_string {s : String} {v : Value} :
    decodeLeaf .dateTime (.string s) = .ok v ↔
      ∃ t, (∀ u, Denotes s.toList u ↔ u = t) ∧ v = .dateTime t := by
  have hread : ∀ t, Denotes s.toList t ↔ Instant.read s = .ok t :=
    fun _ => Calendar.readInstantChars_eq_ok_iff.symm
  simp only [hread, decodeLeaf, asText, bind, Except.bind]
  cases Instant.read s with
  | error e => simp
  | ok t => simp [eq_comm]

/-- A timestamp is decoded to the instant that it denotes, and in a year of four digits it is shown
as the reading of a clock on universal time. Whatever the offsets, texts are equal and their bytes
are ordered as the instants are to the second. -/
theorem dateTime_shows {s s' : String} {v v' : Value}
    (h : decodeLeaf .dateTime (.string s) = .ok v)
    (h' : decodeLeaf .dateTime (.string s') = .ok v') :
    ∃ t t', v = .dateTime t ∧ v' = .dateTime t' ∧ (∀ u, Denotes s.toList u ↔ u = t) ∧
      (∀ u, Denotes s'.toList u ↔ u = t') ∧
      (t.InFourDigitYear → t'.InFourDigitYear → ∃ text text', v.toEntry = .text text ∧
        v'.toEntry = .text text' ∧ Shows text t ∧ Shows text' t' ∧
        (text = text' ↔ t.toSecond = t'.toSecond) ∧
        (Text.bytes text < Text.bytes text' ↔ t.toSecond.Before t'.toSecond)) := by
  obtain ⟨t, hdenotes, rfl⟩ := decodeLeaf_dateTime_string.1 h
  obtain ⟨t', hdenotes', rfl⟩ := decodeLeaf_dateTime_string.1 h'
  have ht := ((hdenotes t).2 rfl).isProper
  have ht' := ((hdenotes' t').2 rfl).isProper
  exact ⟨t, t', rfl, rfl, hdenotes, hdenotes', fun hyear hyear' =>
    ⟨t.write, t'.write, rfl, rfl, ht.shows_write hyear, ht'.shows_write hyear',
      ht.write_eq_iff ht' hyear hyear', ht.bytes_write_lt_iff ht' hyear hyear'⟩⟩

theorem dateTime_shows_leapSecond :
    decodeLeaf .dateTime (.string "2016-12-31T18:59:60.5-05:00") =
      .ok (.dateTime ⟨1483228799, 1500000000⟩) ∧
    decodeLeaf .dateTime (.string "2017-01-01T00:00:00Z") = .ok (.dateTime ⟨1483228800, 0⟩) ∧
    Instant.InFourDigitYear ⟨1483228799, 1500000000⟩ ∧ Instant.InFourDigitYear ⟨1483228800, 0⟩ ∧
    ∃ t t', Value.dateTime ⟨1483228799, 1500000000⟩ = .dateTime t ∧
      Value.dateTime ⟨1483228800, 0⟩ = .dateTime t' ∧
      (∀ u, Denotes "2016-12-31T18:59:60.5-05:00".toList u ↔ u = t) ∧
      (∀ u, Denotes "2017-01-01T00:00:00Z".toList u ↔ u = t') ∧
      (t.InFourDigitYear → t'.InFourDigitYear → ∃ text text',
        (Value.dateTime ⟨1483228799, 1500000000⟩).toEntry = .text text ∧
        (Value.dateTime ⟨1483228800, 0⟩).toEntry = .text text' ∧ Shows text t ∧ Shows text' t' ∧
        (text = text' ↔ t.toSecond = t'.toSecond) ∧
        (Text.bytes text < Text.bytes text' ↔ t.toSecond.Before t'.toSecond)) := by
  have hread : decodeLeaf .dateTime (.string "2016-12-31T18:59:60.5-05:00") =
      .ok (.dateTime ⟨1483228799, 1500000000⟩) := by rfl
  have hread' : decodeLeaf .dateTime (.string "2017-01-01T00:00:00Z") =
      .ok (.dateTime ⟨1483228800, 0⟩) := by rfl
  have hproper : Instant.IsProper ⟨1483228799, 1500000000⟩ := fun _ => rfl
  have hproper' : Instant.IsProper ⟨1483228800, 0⟩ := fun hleap => by cases hleap
  exact ⟨hread, hread', ⟨_, hproper.clock_marks, by decide, by decide⟩,
    ⟨_, hproper'.clock_marks, by decide, by decide⟩, dateTime_shows hread hread'⟩

-- The leap second is shown before the second that follows it.
example : Instant.write ⟨1483228799, 1500000000⟩ = "2016-12-31, 23:59:60" ∧
    Instant.write ⟨1483228800, 0⟩ = "2017-01-01, 00:00:00" := by
  decide

end Result

end Docket
