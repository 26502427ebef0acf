import Docket.Proofs.Calendar.Days
import Docket.Proofs.Calendar.Digits
import Docket.Result.Decode
import Docket.Result.Response
/-!
Dates as they are shown. The text of a date is read as the date again, whatever the sign and the
length of its year, so no two dates have one text.
-/

namespace Docket

namespace Calendar

variable {rest : List Char}

theorem isWhite_of_isDigit {c : Char} (h : c.isDigit = true) : Text.isWhite c = false := by
  have hc := Text.isDigit_iff.1 h
  simp [Text.isWhite]
  omega

theorem exists_padded_cons (width n : Nat) :
    ∃ d ds, padded width n = d :: ds ∧ d.isDigit = true := by
  obtain ⟨d, ds, hcons⟩ := List.exists_cons_of_ne_nil (padded_ne_nil width n)
  have hmem : d ∈ padded width n := by
    rw [hcons]
    exact List.mem_cons_self
  exact ⟨d, ds, hcons, isDigit_of_mem_padded hmem⟩

theorem trimLeft_padded (width n : Nat) (rest : List Char) :
    Text.trimLeft (padded width n ++ rest) = padded width n ++ rest := by
  obtain ⟨d, ds, hcons, hd⟩ := exists_padded_cons width n
  rw [hcons]
  exact Text.trimLeft_of_head? fun c hc => by
    cases hc
    exact isWhite_of_isDigit hd

theorem readDigits_padded {most : Option Nat} {width n : Nat}
    (hmost : ∀ k ∈ most, n < 10 ^ width ∧ 0 < width ∧ width ≤ k)
    (hrest : ∀ c ∈ rest.head?, c.isDigit = false) :
    readDigits most (padded width n ++ rest) = .ok (n, rest) := by
  rw [readDigits_append (fun _ => isDigit_of_mem_padded) (padded_ne_nil _ _) ?_ hrest,
    naturalOf_padded]
  intro k hk
  obtain ⟨hn, hwidth, hle⟩ := hmost k hk
  rwa [length_padded hn hwidth]

theorem readYear_writeYear {year : Int} (hyear : -2147483648 ≤ year ∧ year < 2147483648)
    (hrest : ∀ c ∈ rest.head?, c.isDigit = false) :
    readYear (writeYear year ++ rest) = .ok (year, rest) := by
  unfold writeYear
  by_cases hplain : 0 ≤ year ∧ year ≤ 9999
  · have hread : readDigits (some 4) (padded 4 year.toNat ++ rest) = .ok (year.toNat, rest) :=
      readDigits_padded (by simp; omega) hrest
    have htrim := trimLeft_padded 4 year.toNat rest
    obtain ⟨d, ds, hcons, hd⟩ := exists_padded_cons 4 year.toNat
    rw [hcons] at hread htrim
    rw [if_pos hplain, readYear, hcons, htrim]
    split
    · rename_i hminus
      cases hminus
      cases hd
    · rename_i hplus
      cases hplus
      cases hd
    · simp only [hread, Except.map, bind, Except.bind]
      rw [Int.toNat_of_nonneg hplain.1, if_pos hyear]
  · have hread : readDigits none (padded 4 year.natAbs ++ rest) = .ok (year.natAbs, rest) :=
      readDigits_padded (by simp) hrest
    rw [if_neg hplain]
    split
    · rename_i hneg
      have htrim : Text.trimLeft ('-' :: (padded 4 year.natAbs ++ rest)) =
          '-' :: (padded 4 year.natAbs ++ rest) := rfl
      rw [List.cons_append, readYear, htrim]
      simp only [hread, Except.map, bind, Except.bind]
      rw [Int.ofNat_natAbs_of_nonpos hneg.le, neg_neg, if_pos hyear]
    · rename_i hpos
      have htrim : Text.trimLeft ('+' :: (padded 4 year.natAbs ++ rest)) =
          '+' :: (padded 4 year.natAbs ++ rest) := rfl
      rw [List.cons_append, readYear, htrim]
      simp only [hread, Except.map, bind, Except.bind]
      rw [Int.natAbs_of_nonneg (not_lt.1 hpos), if_pos hyear]

theorem readWithin_padded {low high n : Nat} (hn : low ≤ n ∧ n ≤ high) (hhigh : high < 100)
    (hrest : ∀ c ∈ rest.head?, c.isDigit = false) :
    readWithin low high (padded 2 n ++ rest) = .ok (n, rest) := by
  have hread : readDigits (some 2) (padded 2 n ++ rest) = .ok (n, rest) :=
    readDigits_padded (by simp; omega) hrest
  rw [readWithin, trimLeft_padded]
  simp only [hread, bind, Except.bind]
  rw [if_pos hn]

theorem Date.Valid.readDateChars_writeChars {d : Date} (h : d.Valid) :
    readDateChars d.writeChars = .ok d := by
  have hvalid := h
  obtain ⟨hfirst, hlast, hm, hm', hd, hd'⟩ := h
  have hday := daysIn_le d.year d.month
  rw [firstYear] at hfirst
  rw [lastYear] at hlast
  have hyear : readYear (writeYear d.year ++ '-' :: (padded 2 d.month ++ '-' :: padded 2 d.day)) =
      .ok (d.year, '-' :: (padded 2 d.month ++ '-' :: padded 2 d.day)) :=
    readYear_writeYear (by omega) (by simp)
  have hmonth : readWithin 1 12 (padded 2 d.month ++ '-' :: padded 2 d.day) =
      .ok (d.month, '-' :: padded 2 d.day) :=
    readWithin_padded ⟨hm, hm'⟩ (by decide) (by simp)
  have hdate : readWithin 1 31 (padded 2 d.day ++ []) = .ok (d.day, []) :=
    readWithin_padded ⟨hd, hd'.trans hday⟩ (by decide) (by simp)
  rw [List.append_nil] at hdate
  unfold readDateChars writeChars
  rw [List.append_assoc, List.cons_append, hyear]
  simp only [bind, Except.bind, readMark, hmonth, hdate, if_true, ne_eq, not_true_eq_false,
    if_false]
  rw [if_pos hvalid]

theorem Date.Valid.read_write {d : Date} (h : d.Valid) : Date.read d.write = .ok d := by
  rw [Date.read, Date.write, String.toList_ofList, h.readDateChars_writeChars]

end Calendar

namespace Result

open Calendar (Date)

theorem decodeLeaf_date_string (s : String) (d : Date) :
    decodeLeaf .date (.string s) = .ok (.date d) ↔ Date.read s = .ok d := by
  simp only [decodeLeaf, asText, bind, Except.bind]
  cases Date.read s <;> simp

theorem date_reads_back {d : Date} (h : d.Valid) :
    ∃ text, (Value.date d).toEntry = .text text ∧
      decodeLeaf .date (.string text) = .ok (.date d) ∧
      ∀ e : Date, e.Valid → (Value.date e).toEntry = .text text → e = d := by
  refine ⟨d.write, rfl, (decodeLeaf_date_string _ _).2 h.read_write, fun e he hshown => ?_⟩
  have htext : e.write = d.write := by
    rw [Value.toEntry] at hshown
    exact Entry.text.inj hshown
  have hread := he.read_write
  rw [htext, h.read_write] at hread
  exact (Except.ok.inj hread).symm

theorem date_reads_back_signed : Date.Valid ⟨12000, 2, 29⟩ ∧ Date.Valid ⟨-4, 12, 31⟩ ∧
    (∃ text, (Value.date ⟨12000, 2, 29⟩).toEntry = .text text ∧
      decodeLeaf .date (.string text) = .ok (.date ⟨12000, 2, 29⟩) ∧
      ∀ e : Date, e.Valid → (Value.date e).toEntry = .text text → e = ⟨12000, 2, 29⟩) ∧
    ∃ text, (Value.date ⟨-4, 12, 31⟩).toEntry = .text text ∧
      decodeLeaf .date (.string text) = .ok (.date ⟨-4, 12, 31⟩) ∧
      ∀ e : Date, e.Valid → (Value.date e).toEntry = .text text → e = ⟨-4, 12, 31⟩ :=
  ⟨by decide, by decide, date_reads_back (by decide), date_reads_back (by decide)⟩

-- Years of other than four digits have a sign.
example : Date.write ⟨12000, 2, 29⟩ = "+12000-02-29" ∧ Date.write ⟨-4, 12, 31⟩ = "-0004-12-31" := by
  decide

end Result

end Docket
