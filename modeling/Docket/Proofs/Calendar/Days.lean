import Docket.Calendar.Date
import Mathlib.Order.Monotone.Basic
import Mathlib.Tactic.IntervalCases
/-!
Counting days. The days of the calendar follow one another as the lengths of its months say, and a
day's number is its distance from the first of January 1970. The number grows from day to day, so it
orders days as year, month and day do.
-/

namespace Docket.Calendar

namespace Date

structure IsDay (d : Date) : Prop where
  month : 1 ≤ d.month ∧ d.month ≤ 12
  day : 1 ≤ d.day ∧ d.day ≤ daysIn d.year d.month

def next (d : Date) : Date :=
  if d.day < daysIn d.year d.month then { d with day := d.day + 1 }
  else if d.month < 12 then ⟨d.year, d.month + 1, 1⟩
  else ⟨d.year + 1, 1, 1⟩

def previous (d : Date) : Date :=
  if 1 < d.day then { d with day := d.day - 1 }
  else if 1 < d.month then ⟨d.year, d.month - 1, daysIn d.year (d.month - 1)⟩
  else ⟨d.year - 1, 12, 31⟩

inductive Counts : Int → Date → Prop
  | epoch : Counts 0 ⟨1970, 1, 1⟩
  | after {n : Int} {d : Date} (h : Counts n d) : Counts (n + 1) d.next
  | before {n : Int} {d : Date} (h : Counts n d) : Counts (n - 1) d.previous

def Before (d e : Date) : Prop :=
  d.year < e.year ∨ d.year = e.year ∧ (d.month < e.month ∨ d.month = e.month ∧ d.day < e.day)

end Date

theorem daysIn_pos (year : Int) (month : Nat) : 1 ≤ daysIn year month := by
  unfold daysIn
  split
  · split <;> decide
  all_goals decide

theorem daysIn_le (year : Int) (month : Nat) : daysIn year month ≤ 31 := by
  unfold daysIn
  split
  · split <;> decide
  all_goals decide

theorem isLeap_iff {year : Int} :
    isLeap year = true ↔ year % 4 = 0 ∧ (year % 100 ≠ 0 ∨ year % 400 = 0) := by
  simp [isLeap]

namespace Date

variable {d e : Date} {n m : Int}

theorem IsDay.next (h : d.IsDay) : d.next.IsDay := by
  obtain ⟨⟨hm, hm'⟩, hd, hd'⟩ := h
  unfold Date.next
  split
  · rename_i hlt
    exact ⟨⟨hm, hm'⟩, Nat.le_add_left _ _, hlt⟩
  · split
    · rename_i hlt
      exact ⟨⟨Nat.le_add_left _ _, hlt⟩, le_rfl, daysIn_pos _ _⟩
    · exact ⟨⟨le_rfl, Nat.le_add_left _ _⟩, le_rfl, daysIn_pos _ _⟩

theorem IsDay.previous (h : d.IsDay) : d.previous.IsDay := by
  obtain ⟨⟨hm, hm'⟩, hd, hd'⟩ := h
  unfold Date.previous
  split
  · exact ⟨⟨hm, hm'⟩, by dsimp; omega, by dsimp; omega⟩
  · split
    · exact ⟨by dsimp; omega, daysIn_pos _ _, le_rfl⟩
    · exact ⟨⟨Nat.le_add_left _ _, le_rfl⟩, Nat.le_add_left _ _, le_rfl⟩

theorem IsDay.next_previous (h : d.IsDay) : d.previous.next = d := by
  obtain ⟨⟨hm, hm'⟩, hd, hd'⟩ := h
  obtain ⟨year, month, day⟩ := d
  dsimp only at *
  unfold Date.previous
  dsimp only
  split
  · rw [Date.next, if_pos (by dsimp only; omega)]
    dsimp only
    rw [Nat.sub_add_cancel hd]
  · obtain rfl : day = 1 := by omega
    split
    · rw [Date.next, if_neg (by dsimp only; omega), if_pos (by dsimp only; omega)]
      dsimp only
      rw [Nat.sub_add_cancel hm]
    · obtain rfl : month = 1 := by omega
      have hlast : daysIn (year - 1) 12 = 31 := rfl
      rw [Date.next, if_neg (by dsimp only; omega), if_neg (by dsimp only; omega)]
      dsimp only
      rw [sub_add_cancel]

/-- The day on which a year from March begins, counted like the days of the era. -/
def yearStart (year : Int) : Int := 365 * year + year / 4 - year / 100 + year / 400

theorem dayNumber_eq (d : Date) :
    d.dayNumber = yearStart (if d.month ≤ 2 then d.year - 1 else d.year) +
      (153 * ((d.month + 9) % 12 : Nat) + 2) / 5 + d.day - 1 - 719468 := by
  unfold dayNumber yearStart
  dsimp only
  omega

theorem yearStart_succ (year : Int) :
    yearStart (year + 1) = yearStart year + 365 + (if isLeap (year + 1) then 1 else 0) := by
  have hleap : isLeap (year + 1) = true ↔ _ := isLeap_iff
  unfold yearStart
  split
  · rename_i h
    have := hleap.1 h
    omega
  · rename_i h
    have := mt hleap.2 h
    omega

theorem dayNumber_day (year : Int) (month day : Nat) :
    dayNumber ⟨year, month, day⟩ = dayNumber ⟨year, month, 1⟩ + day - 1 := by
  rw [dayNumber_eq, dayNumber_eq]
  dsimp only
  omega

theorem dayNumber_month {year : Int} {month : Nat} (h : 1 ≤ month ∧ month < 12) :
    dayNumber ⟨year, month + 1, 1⟩ = dayNumber ⟨year, month, 1⟩ + daysIn year month := by
  obtain ⟨hm, hm'⟩ := h
  rw [dayNumber_eq, dayNumber_eq]
  by_cases hfeb : month = 2
  · -- the year from March that follows begins after the leap day, if there is one
    have hyear := yearStart_succ (year - 1)
    rw [sub_add_cancel] at hyear
    subst hfeb
    dsimp only
    rw [if_neg (by decide), if_pos le_rfl, hyear, daysIn]
    cases isLeap year with
    | true =>
      rw [if_pos rfl, if_pos rfl]
      omega
    | false =>
      rw [if_neg Bool.false_ne_true, if_neg Bool.false_ne_true]
      omega
  · interval_cases month <;> simp [daysIn] at hfeb ⊢ <;> omega

theorem dayNumber_year (year : Int) :
    dayNumber ⟨year + 1, 1, 1⟩ = dayNumber ⟨year, 12, 1⟩ + 31 := by
  rw [dayNumber_eq, dayNumber_eq]
  dsimp only
  rw [if_pos (by decide), if_neg (by decide), add_sub_cancel_right]
  omega

theorem IsDay.dayNumber_next (h : d.IsDay) : d.next.dayNumber = d.dayNumber + 1 := by
  obtain ⟨year, month, day⟩ := d
  obtain ⟨⟨hm, hm'⟩, hd, hd'⟩ := h
  dsimp only at *
  unfold Date.next
  dsimp only
  split
  · rw [dayNumber_day year month day, dayNumber_day year month (day + 1)]
    omega
  · obtain rfl : day = daysIn year month := by omega
    rw [dayNumber_day year month (daysIn year month)]
    split
    · rename_i hlt
      rw [dayNumber_month ⟨hm, hlt⟩]
      omega
    · obtain rfl : month = 12 := by omega
      have hlast : daysIn year 12 = 31 := rfl
      rw [dayNumber_year, hlast]
      omega

def ofMarch (year day : Int) : Date :=
  let fromMarch := (5 * day + 2) / 153
  let month := if fromMarch < 10 then fromMarch + 3 else fromMarch - 9
  ⟨if month ≤ 2 then year + 1 else year, month.toNat,
    (day - (153 * fromMarch + 2) / 5 + 1).toNat⟩

/-- A year of the era of four centuries. Years are grouped into centuries and, within them, into
fours, and the last year of a group may be longer than the others. -/
structure YearParts (year era century four rest : Int) : Prop where
  century_lt : 0 ≤ century ∧ century < 4
  four_lt : 0 ≤ four ∧ four < 25
  rest_lt : 0 ≤ rest ∧ rest < 4
  year_eq : year = 400 * era + 100 * century + 4 * four + rest

section Parts

variable {year era century four rest day dayOfEra : Int}

theorem exists_yearParts (year : Int) : ∃ era century four rest,
    YearParts year era century four rest :=
  ⟨year / 400, year % 400 / 100, year % 100 / 4, year % 4, by omega, by omega, by omega, by omega⟩

theorem YearParts.yearStart_eq (h : YearParts year era century four rest) :
    yearStart year = 146097 * era + (36524 * century + 1461 * four + 365 * rest) := by
  obtain ⟨hcentury, hfour, hrest, rfl⟩ := h
  unfold yearStart
  omega

theorem YearParts.of_isLeap (h : YearParts year era century four rest)
    (hleap : isLeap (year + 1) = true) : rest = 3 ∧ (four ≠ 24 ∨ century = 3) := by
  obtain ⟨hcentury, hfour, hrest, rfl⟩ := h
  have hmod := isLeap_iff.1 hleap
  omega

theorem YearParts.yearOfEra_eq (h : YearParts year era century four rest)
    (hday : 0 ≤ day ∧ day ≤ 365) (hlast : day = 365 → rest = 3 ∧ (four ≠ 24 ∨ century = 3))
    (hdayOfEra : dayOfEra = 36524 * century + 1461 * four + 365 * rest + day) :
    (dayOfEra - dayOfEra / 1460 + dayOfEra / 36524 - dayOfEra / 146096) / 365 =
      100 * century + 4 * four + rest := by
  obtain ⟨hcentury, hfour, hrest, -⟩ := h
  by_cases hend : dayOfEra = 146096
  · subst hend
    omega
  · have hcenturies : dayOfEra / 36524 = century := by omega
    have heras : dayOfEra / 146096 = 0 := by omega
    have hfours : dayOfEra / 1460 =
        25 * century + four + (365 * rest + four + 24 * century + day) / 1460 := by omega
    rw [hcenturies, heras, hfours]
    omega

theorem ofDayNumber_eq {n yearOfEra : Int} (hn : n + 719468 = 146097 * era + dayOfEra)
    (hday : 0 ≤ dayOfEra ∧ dayOfEra < 146097)
    (hyear : (dayOfEra - dayOfEra / 1460 + dayOfEra / 36524 - dayOfEra / 146096) / 365 =
      yearOfEra) :
    ofDayNumber n = ofMarch (yearOfEra + era * 400)
      (dayOfEra - (365 * yearOfEra + yearOfEra / 4 - yearOfEra / 100)) := by
  have hera : (n + 719468) / 146097 = era := by omega
  have hrest : n + 719468 - era * 146097 = dayOfEra := by omega
  unfold ofDayNumber ofMarch
  dsimp only
  rw [hera, hrest, hyear]

theorem YearParts.dayOfEra_lt (h : YearParts year era century four rest)
    (hday : 0 ≤ day ∧ day ≤ 365) :
    0 ≤ 36524 * century + 1461 * four + 365 * rest + day ∧
      36524 * century + 1461 * four + 365 * rest + day < 146097 := by
  obtain ⟨hcentury, hfour, hrest, -⟩ := h
  omega

theorem YearParts.day_eq (h : YearParts year era century four rest) :
    36524 * century + 1461 * four + 365 * rest + day -
      (365 * (100 * century + 4 * four + rest) + (100 * century + 4 * four + rest) / 4 -
        (100 * century + 4 * four + rest) / 100) = day := by
  obtain ⟨hcentury, hfour, hrest, -⟩ := h
  omega

theorem ofDayNumber_yearStart (hday : 0 ≤ day ∧ day ≤ 365)
    (hleap : day = 365 → isLeap (year + 1) = true) :
    ofDayNumber (yearStart year + day - 719468) = ofMarch year day := by
  obtain ⟨era, century, four, rest, hparts⟩ := exists_yearParts year
  have hlast : day = 365 → rest = 3 ∧ (four ≠ 24 ∨ century = 3) :=
    fun h => hparts.of_isLeap (hleap h)
  have hnumber : yearStart year + day - 719468 + 719468 =
      146097 * era + (36524 * century + 1461 * four + 365 * rest + day) := by
    rw [hparts.yearStart_eq]
    omega
  have hyear : 100 * century + 4 * four + rest + era * 400 = year := by
    rw [hparts.year_eq]
    omega
  rw [ofDayNumber_eq hnumber (hparts.dayOfEra_lt hday) (hparts.yearOfEra_eq hday hlast rfl),
    hparts.day_eq, hyear]

end Parts

/-- The months from March on begin as many days into the year as the months before them have. -/
theorem daysIn_add_le (year : Int) {month : Nat} (h : 1 ≤ month ∧ month ≤ 12) :
    (daysIn year month : Int) + (153 * ((month + 9) % 12 : Nat) + 2) / 5 ≤
      (153 * (((month + 9) % 12 : Nat) + 1) + 2) / 5 := by
  obtain ⟨hm, hm'⟩ := h
  interval_cases month
  case «2» =>
    simp only [daysIn]
    split <;> decide
  all_goals simp [daysIn]

theorem IsDay.ofMarch_eq {year : Int} {month day : Nat} (h : IsDay ⟨year, month, day⟩) :
    ofMarch (if month ≤ 2 then year - 1 else year)
      ((153 * ((month + 9) % 12 : Nat) + 2) / 5 + day - 1) = ⟨year, month, day⟩ := by
  obtain ⟨⟨hm, hm'⟩, hd, hd'⟩ := h
  have hlength := daysIn_add_le year ⟨hm, hm'⟩
  dsimp only at *
  have hfrom : (5 * ((153 * ((month + 9) % 12 : Nat) + 2) / 5 + (day : Int) - 1) + 2) / 153 =
      ((month + 9) % 12 : Nat) := by omega
  have hmonth : (if (((month + 9) % 12 : Nat) : Int) < 10 then (((month + 9) % 12 : Nat) : Int) + 3
      else (((month + 9) % 12 : Nat) : Int) - 9) = month := by
    split <;> omega
  unfold ofMarch
  simp only [hfrom, hmonth, Date.mk.injEq]
  refine ⟨?_, by omega, by omega⟩
  by_cases hyear : month ≤ 2
  · rw [if_pos (by omega), if_pos hyear]
    omega
  · rw [if_neg (by omega), if_neg hyear]

theorem IsDay.isLeap_of_dayOfYear {year : Int} {month day : Nat} (h : IsDay ⟨year, month, day⟩) :
    (153 * ((month + 9) % 12 : Nat) + 2) / 5 + (day : Int) - 1 ≤ 365 ∧
      ((153 * ((month + 9) % 12 : Nat) + 2) / 5 + (day : Int) - 1 = 365 →
        isLeap ((if month ≤ 2 then year - 1 else year) + 1) = true) := by
  obtain ⟨⟨hm, hm'⟩, hd, hd'⟩ := h
  have hlength := daysIn_add_le year ⟨hm, hm'⟩
  dsimp only at *
  by_cases hfeb : month = 2
  · subst hfeb
    rw [if_pos le_rfl, sub_add_cancel]
    rw [daysIn] at hd'
    cases hleap : isLeap year with
    | true =>
      rw [hleap, if_pos rfl] at hd'
      exact ⟨by omega, fun _ => rfl⟩
    | false =>
      rw [hleap, if_neg Bool.false_ne_true] at hd'
      exact ⟨by omega, by omega⟩
  · omega

theorem IsDay.ofDayNumber_dayNumber (h : d.IsDay) : ofDayNumber d.dayNumber = d := by
  obtain ⟨year, month, day⟩ := d
  obtain ⟨hday, hleap⟩ := h.isLeap_of_dayOfYear
  have hpos := h.day.1
  have hnumber : dayNumber ⟨year, month, day⟩ =
      yearStart (if month ≤ 2 then year - 1 else year) +
        ((153 * ((month + 9) % 12 : Nat) + 2) / 5 + day - 1) - 719468 := by
    rw [dayNumber_eq]
    dsimp only
    omega
  rw [hnumber, ofDayNumber_yearStart ⟨by dsimp at hpos; omega, hday⟩ hleap, h.ofMarch_eq]

theorem Counts.isDay (h : Counts n d) : d.IsDay := by
  induction h with
  | epoch => exact ⟨by decide, by decide⟩
  | after _ ih => exact ih.next
  | before _ ih => exact ih.previous

theorem Counts.dayNumber_eq (h : Counts n d) : d.dayNumber = n := by
  induction h with
  | epoch => rfl
  | after h ih => rw [h.isDay.dayNumber_next, ih]
  | @before n d h ih =>
    have hnext := h.isDay.previous.dayNumber_next
    rw [h.isDay.next_previous, ih] at hnext
    omega

theorem exists_counts (n : Int) : ∃ d, Counts n d := by
  induction n using Int.induction_on with
  | zero => exact ⟨_, .epoch⟩
  | succ n ih =>
    obtain ⟨d, hd⟩ := ih
    exact ⟨_, hd.after⟩
  | pred n ih =>
    obtain ⟨d, hd⟩ := ih
    exact ⟨_, hd.before⟩

theorem counts_ofDayNumber (n : Int) : Counts n (ofDayNumber n) := by
  obtain ⟨d, hd⟩ := exists_counts n
  have hinverse := hd.isDay.ofDayNumber_dayNumber
  rw [hd.dayNumber_eq] at hinverse
  rwa [hinverse]

theorem counts_iff : Counts n d ↔ d.IsDay ∧ d.dayNumber = n := by
  constructor
  · exact fun h => ⟨h.isDay, h.dayNumber_eq⟩
  · intro h
    obtain ⟨hday, rfl⟩ := h
    have hcounts := counts_ofDayNumber d.dayNumber
    rwa [hday.ofDayNumber_dayNumber] at hcounts

theorem Counts.eq_iff (hd : Counts n d) (he : Counts m e) : n = m ↔ d = e := by
  constructor
  · intro h
    rw [← hd.isDay.ofDayNumber_dayNumber, ← he.isDay.ofDayNumber_dayNumber, hd.dayNumber_eq,
      he.dayNumber_eq, h]
  · intro h
    rw [← hd.dayNumber_eq, ← he.dayNumber_eq, h]

def rank (d : Date) : Int := (d.year * 13 + d.month) * 32 + d.day

theorem IsDay.rank_lt_next (h : d.IsDay) : d.rank < d.next.rank := by
  obtain ⟨⟨hm, hm'⟩, hd, hd'⟩ := h
  have hle := daysIn_le d.year d.month
  unfold rank Date.next
  split
  · dsimp only
    omega
  · split <;> dsimp only <;> omega

theorem IsDay.rank_lt_iff (hd : d.IsDay) (he : e.IsDay) : d.rank < e.rank ↔ d.Before e := by
  obtain ⟨hdm, hdd⟩ := hd
  obtain ⟨hem, hed⟩ := he
  have hdle := daysIn_le d.year d.month
  have hele := daysIn_le e.year e.month
  unfold rank Before
  omega

theorem Counts.lt_iff (hd : Counts n d) (he : Counts m e) : n < m ↔ d.Before e := by
  have hmono : StrictMono fun k => (ofDayNumber k).rank := by
    refine strictMono_int_of_lt_succ fun k => ?_
    have hcounts := counts_ofDayNumber k
    have hnext : ofDayNumber (k + 1) = (ofDayNumber k).next := by
      have hinverse := hcounts.isDay.next.ofDayNumber_dayNumber
      rwa [hcounts.after.dayNumber_eq] at hinverse
    rw [hnext]
    exact hcounts.isDay.rank_lt_next
  have hn : ofDayNumber n = d := by rw [← hd.dayNumber_eq, hd.isDay.ofDayNumber_dayNumber]
  have hm : ofDayNumber m = e := by rw [← he.dayNumber_eq, he.isDay.ofDayNumber_dayNumber]
  rw [← hmono.lt_iff_lt, hn, hm, hd.isDay.rank_lt_iff he.isDay]

end Date

end Docket.Calendar
