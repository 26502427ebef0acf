import Docket.Proofs.Calendar.Clocks
import Docket.Proofs.Calendar.Digits
import Docket.Proofs.Except
import Docket.Calendar.Reader
/-!
Timestamps in the text of a payload: the reading of a clock, a fraction of a second and the offset
of the clock from universal time. The reader accepts these and gives the instants that they denote.
-/

namespace Docket

namespace Calendar

inductive SpellsOffset : Int → List Char → Prop
  | universal {c : Char} (h : c = 'Z' ∨ c = 'z') : SpellsOffset 0 [c]
  | ahead {hours minutes : Nat} (hhours : hours < 24) (hminutes : minutes < 60) :
    SpellsOffset (hours * 3600 + minutes * 60) ('+' :: (padded 2 hours ++ ':' :: padded 2 minutes))
  | behind {c : Char} {hours minutes : Nat} (h : c = '-' ∨ c = '\u2212') (hhours : hours < 24)
    (hminutes : minutes < 60) :
    SpellsOffset (-(hours * 3600 + minutes * 60)) (c :: (padded 2 hours ++ ':' :: padded 2 minutes))

inductive SpellsFraction : Nat → List Char → Prop
  | zero : SpellsFraction 0 []
  | digits {ds : List Char} (hne : ds ≠ []) (hds : ∀ c ∈ ds, c.isDigit = true) :
    SpellsFraction (naturalOf (ds.take 9) * 10 ^ (9 - (ds.take 9).length)) ('.' :: ds)

def Stamps (cs : List Char) (c : Clock) (nanos : Nat) (offset : Int) : Prop :=
  ∃ (year : Nat) (mark : Char) (fraction zone : List Char),
    cs = padded 4 year ++ '-' :: (padded 2 c.date.month ++ '-' :: (padded 2 c.date.day ++
      mark :: (padded 2 c.hour ++ ':' :: (padded 2 c.minute ++ ':' :: (padded 2 c.second ++
        (fraction ++ zone)))))) ∧
    year < 10000 ∧ c.date.year = year ∧ mark ∈ ['T', 't', ' '] ∧ SpellsFraction nanos fraction ∧
    SpellsOffset offset zone

/-- The instant of a timestamp: its clock is ahead of universal time by the offset. -/
def Denotes (cs : List Char) (t : Instant) : Prop :=
  ∃ c nanos offset u, Stamps cs c nanos offset ∧ c.Marks u ∧
    t = ⟨u.seconds - offset, u.nanos + nanos⟩

section Payload

variable {cs rest : List Char} {n : Nat}

theorem readMark_eq_ok_iff {mark : Char} : readMark mark cs = .ok rest ↔ cs = mark :: rest := by
  cases cs with
  | nil => simp [readMark]
  | cons c cs =>
    rw [readMark]
    split
    · rename_i hmark
      simp [hmark]
    · rename_i hmark
      simp [hmark]

theorem readDigits_some {most : Nat} (hne : (cs.takeWhile Char.isDigit).take most ≠ []) :
    ∃ rest, readDigits (some most) cs =
      .ok (naturalOf ((cs.takeWhile Char.isDigit).take most), rest) := by
  unfold readDigits
  dsimp only
  split
  · contradiction
  · contradiction
  · exact ⟨_, rfl⟩

theorem readDigits_eq_ok {most : Nat} (h : readDigits (some most) cs = .ok (n, rest)) :
    (cs.takeWhile Char.isDigit).take most ≠ [] ∧
      n = naturalOf ((cs.takeWhile Char.isDigit).take most) := by
  unfold readDigits at h
  dsimp only at h
  split at h
  · cases h
  · cases h
  · rename_i hds _
    cases h
    exact ⟨hds, rfl⟩

theorem readFraction_eq_ok (h : readFraction cs = .ok (n, rest)) :
    ∃ fraction, cs = fraction ++ rest ∧ SpellsFraction n fraction := by
  unfold readFraction at h
  split at h
  · rename_i tail
    obtain ⟨⟨value, _⟩, hread, h⟩ := bind_eq_ok_iff.1 h
    obtain ⟨hne, rfl⟩ := readDigits_eq_ok hread
    have hdigits : ∀ c ∈ tail.takeWhile Char.isDigit, c.isDigit = true :=
      fun _ hc => List.mem_takeWhile_imp hc
    have hspells := SpellsFraction.digits (fun hnil => hne (by rw [hnil, List.take_nil])) hdigits
    have hdigitsFirst := List.takeWhile_prefix Char.isDigit (l := tail)
    have hsplit := List.prefix_iff_eq_append.1 hdigitsFirst
    rw [List.length_take] at hspells
    cases h
    exact ⟨_, by rw [List.cons_append, hsplit], hspells⟩
  · cases h
    exact ⟨[], rfl, .zero⟩

theorem SpellsFraction.readFraction_append (h : SpellsFraction n cs)
    (hrest : ∀ c ∈ rest.head?, c.isDigit = false ∧ c ≠ '.') :
    readFraction (cs ++ rest) = .ok (n, rest) := by
  cases h with
  | zero =>
    rw [List.nil_append]
    unfold readFraction
    split
    · exact absurd rfl (hrest '.' rfl).2
    · rfl
  | @digits ds hne hds =>
    have hrun : (ds ++ rest).takeWhile Char.isDigit = ds :=
      takeWhile_isDigit_append hds fun c hc => (hrest c hc).1
    have hnine : ((ds ++ rest).takeWhile Char.isDigit).take 9 ≠ [] := by
      rw [hrun]
      simpa using hne
    obtain ⟨_, hread⟩ := readDigits_some hnine
    rw [List.cons_append, readFraction, hread, hrun, List.length_take]
    simp only [bind, Except.bind, List.drop_left]
    rfl

theorem readOffsetPair_eq_ok_iff {tens : Nat} (htens : tens < 10) :
    readOffsetPair tens cs = .ok (n, rest) ↔ cs = padded 2 n ++ rest ∧ n < 10 * tens + 10 := by
  constructor
  · intro h
    unfold readOffsetPair at h
    split at h
    · rename_i a b tail
      split at h
      · rename_i hdigits
        rw [Bool.and_eq_true] at hdigits
        obtain ⟨ha, hb⟩ := hdigits
        split at h
        · rename_i hle
          cases h
          have hdigits : ∀ c ∈ [a, b], c.isDigit = true := by simp [ha, hb]
          have hpair : padded 2 (naturalOf [a, b]) = [a, b] := padded_naturalOf hdigits (by simp)
          have hvalue : naturalOf [a, b] = 10 * digitValue a + digitValue b := by simp [naturalOf]
          have hb' := digitValue_lt hb
          rw [← hvalue, hpair, hvalue]
          exact ⟨rfl, by omega⟩
        · cases h
      · cases h
    · split at h <;> cases h
  · intro h
    obtain ⟨rfl, hn⟩ := h
    have hlt : n < 10 ^ 2 := by omega
    obtain ⟨a, b, hpair⟩ := List.length_eq_two.1 (length_padded hlt (by decide))
    have hvalue : 10 * digitValue a + digitValue b = n := by
      have hnatural := naturalOf_padded 2 n
      rw [hpair] at hnatural
      simpa [naturalOf] using hnatural
    have ha : a.isDigit = true := isDigit_of_mem_padded (by rw [hpair]; simp)
    have hb : b.isDigit = true := isDigit_of_mem_padded (by rw [hpair]; simp)
    rw [hpair, List.cons_append, List.cons_append, List.nil_append, readOffsetPair, ha, hb, hvalue]
    rw [Bool.and_true, if_pos rfl, if_pos (by omega)]

theorem readOffset_eq_ok {offset : Int} (h : readOffset cs = .ok (offset, []))
    (hday : offset.natAbs < 86400) : SpellsOffset offset cs := by
  have hnine : 9 < 10 := by decide
  have hfive : 5 < 10 := by decide
  unfold readOffset at h
  split at h
  · cases h
  · rename_i c tail
    split at h
    · rename_i huniversal
      cases h
      exact .universal huniversal
    · split at h
      · rename_i hsign
        simp only [bind_eq_ok_iff, Prod.exists, readMark_eq_ok_iff, readOffsetPair_eq_ok_iff hnine,
          readOffsetPair_eq_ok_iff hfive] at h
        obtain ⟨hours, _, ⟨rfl, -⟩, _, rfl, minutes, _, ⟨rfl, hminutes⟩, h⟩ := h
        split at h
        · rename_i hplus
          cases h
          rw [hplus, List.append_nil]
          exact .ahead (by omega) hminutes
        · rename_i hplus
          cases h
          rw [List.append_nil]
          exact .behind (hsign.resolve_left hplus) (by omega) hminutes
      · cases h

theorem SpellsOffset.readOffset_eq {offset : Int} (h : SpellsOffset offset cs) :
    readOffset cs = .ok (offset, []) ∧ offset.natAbs < 86400 := by
  have hnine : 9 < 10 := by decide
  have hfive : 5 < 10 := by decide
  have hpairs : ∀ {hours minutes : Nat}, hours < 24 → minutes < 60 →
      readOffsetPair 9 (padded 2 hours ++ ':' :: padded 2 minutes) =
        .ok (hours, ':' :: padded 2 minutes) ∧
      readOffsetPair 5 (padded 2 minutes) = .ok (minutes, []) := by
    intro hours minutes hhours hminutes
    rw [readOffsetPair_eq_ok_iff hnine, readOffsetPair_eq_ok_iff hfive]
    exact ⟨⟨rfl, by omega⟩, (List.append_nil _).symm, hminutes⟩
  cases h with
  | universal huniversal =>
    rw [readOffset, if_pos huniversal]
    exact ⟨rfl, by decide⟩
  | ahead hhours hminutes =>
    obtain ⟨hfirst, hsecond⟩ := hpairs hhours hminutes
    rw [readOffset, if_neg (by decide), if_pos (by decide)]
    simp only [hfirst, hsecond, bind, Except.bind, readMark, if_true]
    exact ⟨trivial, by omega⟩
  | @behind c _ _ hsign hhours hminutes =>
    obtain ⟨hfirst, hsecond⟩ := hpairs hhours hminutes
    have hz : ¬(c = 'Z' ∨ c = 'z') := by
      rcases hsign with rfl | rfl <;> decide
    have hplus : c ≠ '+' := by
      rcases hsign with rfl | rfl <;> decide
    rw [readOffset, if_neg hz, if_pos (.inr hsign)]
    simp only [hfirst, hsecond, hplus, bind, Except.bind, readMark, if_true, if_false]
    exact ⟨trivial, by omega⟩

theorem readInstantChars_eq_ok {t : Instant} (h : readInstantChars cs = .ok t) : Denotes cs t := by
  have hfour : 0 < 4 := by decide
  have htwo : 0 < 2 := by decide
  simp only [readInstantChars, error_bind, ite_error_eq_ok_iff, bind_eq_ok_iff, Prod.exists,
    readColumn_eq_ok_iff, readColumns_eq_ok_iff hfour, readColumns_eq_ok_iff htwo,
    List.mem_singleton, exists_eq_left] at h
  obtain ⟨-, year, _, ⟨rfl, hyear⟩, _, rfl, month, _, ⟨rfl, -⟩, _, rfl, day, _, ⟨rfl, -⟩, hvalid, _,
    ⟨mark, hmark, rfl⟩, hour, _, ⟨rfl, -⟩, _, rfl, minute, _, ⟨rfl, -⟩, _, rfl, second, _, ⟨rfl, -⟩,
    nanos, zone, hfraction, htime, offset, _, hoffset, hend, hday, hinstant⟩ := h
  obtain ⟨fraction, rfl, hfraction'⟩ := readFraction_eq_ok hfraction
  obtain ⟨-, -, hmonth, hmonth', hfirst, hlast⟩ := not_not.1 hvalid
  have hhour : hour < 24 := by omega
  have hminute : minute < 60 := by omega
  have hsecond : second ≤ 60 := by omega
  cases not_not.1 hend
  cases hinstant
  rw [secondsPerDay, not_le] at hday
  have hzone := readOffset_eq_ok hoffset (by omega)
  have hcounts := Date.counts_iff.2 ⟨⟨⟨hmonth, hmonth'⟩, hfirst, hlast⟩, rfl⟩
  refine ⟨⟨⟨year, month, day⟩, hour, minute, second⟩, nanos, offset,
    ⟨_, Clock.leapNanos second⟩,
    ⟨year, mark, fraction, zone, rfl, hyear, rfl, hmark, hfraction', hzone⟩,
    ⟨hhour, hminute, hsecond, ⟨_, hcounts, rfl⟩, rfl⟩, ?_⟩
  rw [Instant.mk.injEq]
  dsimp only [secondsPerDay, Clock.leapNanos]
  omega

theorem length_le_byteCount (cs : List Char) : cs.length ≤ byteCount cs := by
  have hfold : ∀ (cs : List Char) (n : Nat),
      n + cs.length ≤ cs.foldl (fun n c => n + c.utf8Size) n := by
    intro cs
    induction cs with
    | nil => exact fun n => le_rfl
    | cons c cs ih =>
      intro n
      have hsize := c.utf8Size_pos
      have hrest := ih (n + c.utf8Size)
      rw [List.length_cons, List.foldl_cons]
      omega
  have hlength := hfold cs 0
  rwa [Nat.zero_add] at hlength

theorem SpellsOffset.head? {offset : Int} (h : SpellsOffset offset cs) :
    ∀ c ∈ cs.head?, c.isDigit = false ∧ c ≠ '.' := by
  intro c hc
  cases h with
  | universal h =>
    cases hc
    rcases h with rfl | rfl <;> decide
  | ahead _ _ =>
    cases hc
    decide
  | behind h _ _ =>
    cases hc
    rcases h with rfl | rfl <;> decide

theorem Denotes.readInstantChars_eq {t : Instant} (h : Denotes cs t) :
    readInstantChars cs = .ok t := by
  have hfour : 0 < 4 := by decide
  have htwo : 0 < 2 := by decide
  obtain ⟨⟨⟨_, month, day⟩, hour, minute, second⟩, nanos, offset, u,
    ⟨year, mark, fraction, zone, rfl, hyear, rfl, hmark, hfraction, hzone⟩, hmarks, rfl⟩ := h
  obtain ⟨hhour, hminute, hsecond, ⟨days, hcounts, hseconds⟩, hnanos⟩ := hmarks
  obtain ⟨⟨hmonth, hmonth'⟩, hfirst, hlast⟩ := hcounts.isDay
  obtain ⟨hoffset, hday⟩ := hzone.readOffset_eq
  have hread := hfraction.readFraction_append hzone.head?
  simp only [readInstantChars, error_bind, ite_error_eq_ok_iff, bind_eq_ok_iff, Prod.exists,
    readColumn_eq_ok_iff, readColumns_eq_ok_iff hfour, readColumns_eq_ok_iff htwo,
    List.mem_singleton, exists_eq_left]
  dsimp only at *
  have hdays := daysIn_le year month
  have hvalid : Date.Valid ⟨year, month, day⟩ := by
    refine ⟨?_, ?_, hmonth, hmonth', hfirst, hlast⟩
    · dsimp only [firstYear]
      omega
    · dsimp only [lastYear]
      omega
  -- beyond its columns the reader asks for enough bytes and an offset of less than a day
  refine ⟨?columns, year, _, ⟨rfl, hyear⟩, _, rfl, month, _, ⟨rfl, by omega⟩, _, rfl, day, _,
    ⟨rfl, by omega⟩, not_not.2 hvalid, _, ⟨mark, hmark, rfl⟩, hour, _, ⟨rfl, by omega⟩, _, rfl,
    minute, _, ⟨rfl, by omega⟩, _, rfl, second, _, ⟨rfl, by omega⟩, nanos, _, hread, by omega,
    offset, _, hoffset, not_not.2 rfl, ?day, ?instant⟩
  case columns =>
    rw [timestampColumns, not_lt]
    refine le_trans ?_ (length_le_byteCount _)
    have hfour := le_length_padded 4 year
    have htwo := le_length_padded 2
    simp only [List.length_append, List.length_cons]
    linarith [htwo month, htwo day, htwo hour, htwo minute, htwo second]
  case day =>
    rw [secondsPerDay]
    omega
  case instant =>
    rw [Except.ok.injEq, Instant.mk.injEq, hcounts.dayNumber_eq, hseconds, hnanos]
    dsimp only [secondsPerDay, Clock.leapNanos]
    omega

theorem readInstantChars_eq_ok_iff {t : Instant} :
    readInstantChars cs = .ok t ↔ Denotes cs t :=
  ⟨readInstantChars_eq_ok, Denotes.readInstantChars_eq⟩

theorem SpellsOffset.emod_eq {offset : Int} (h : SpellsOffset offset cs) : offset % 60 = 0 := by
  cases h with
  | universal _ => rfl
  | ahead _ _ => omega
  | behind _ _ _ => omega

theorem SpellsFraction.lt (h : SpellsFraction n cs) : n < 1000000000 := by
  cases h with
  | zero => decide
  | @digits ds hne hds =>
    have hlt : naturalOf (ds.take 9) < 10 ^ (ds.take 9).length :=
      naturalOf_lt fun c hc => hds c (List.mem_of_mem_take hc)
    have hle : (ds.take 9).length ≤ 9 := List.length_take_le 9 ds
    calc naturalOf (ds.take 9) * 10 ^ (9 - (ds.take 9).length)
        < 10 ^ (ds.take 9).length * 10 ^ (9 - (ds.take 9).length) :=
          Nat.mul_lt_mul_of_pos_right hlt (Nat.pow_pos (by decide))
      _ = 1000000000 := by rw [← Nat.pow_add, Nat.add_sub_cancel' hle]

/-- Offsets are whole minutes, so a leap second remains the last of its minute. -/
theorem Denotes.isProper {t : Instant} (h : Denotes cs t) : t.IsProper := by
  obtain ⟨c, nanos, offset, u, ⟨_, _, _, _, -, -, -, -, hfraction, hzone⟩, hmarks, rfl⟩ := h
  obtain ⟨-, -, -, ⟨days, -, hseconds⟩, hnanos⟩ := hmarks
  have hoffset := hzone.emod_eq
  have hlt := hfraction.lt
  intro hleap
  have hlast : c.second = 60 := by
    by_contra hne
    rw [Clock.leapNanos, if_neg hne] at hnanos
    have hle := of_decide_eq_true hleap
    dsimp only at hle
    omega
  rw [hlast] at hseconds
  dsimp only
  omega

end Payload

end Calendar

end Docket
