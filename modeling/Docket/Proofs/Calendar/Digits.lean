import Docket.Calendar.Reader
import Docket.Proofs.Trimming
import Docket.Text.Letter
import Mathlib.Algebra.Order.Ring.Nat
import Mathlib.Data.Char
import Mathlib.Tactic.Linarith
/-!
Numbers in digits. A number that is written in at least some columns is read back, up to the first
character that is no digit or in exactly those columns; and numbers in the same columns are ordered
as their digits are.
-/

namespace Docket.Calendar

section Padded

variable {width n m : Nat}

theorem naturalOf_eq (cs : List Char) : naturalOf cs = Nat.ofDigitChars 10 cs 0 := rfl

theorem naturalOf_padded (width n : Nat) : naturalOf (padded width n) = n := by
  rw [naturalOf_eq, padded, Nat.ofDigitChars_append, Nat.ofDigitChars_replicate_zero, Nat.mul_zero,
    Nat.ofDigitChars_ten_toDigits]

theorem isDigit_of_mem_padded {c : Char} (h : c ∈ padded width n) : c.isDigit = true := by
  rcases List.mem_append.1 h with hzero | hdigit
  · rw [List.eq_of_mem_replicate hzero]
    rfl
  · exact Nat.isDigit_of_mem_toDigits (by decide) (by decide) hdigit

theorem padded_ne_nil (width n : Nat) : padded width n ≠ [] := by
  rw [padded]
  exact List.append_ne_nil_of_right_ne_nil _ Nat.toDigits_ne_nil

theorem length_padded (hn : n < 10 ^ width) (hwidth : 0 < width) :
    (padded width n).length = width := by
  have hlength := (Nat.length_toDigits_le_iff (by decide) hwidth).2 hn
  rw [padded, List.length_append, List.length_replicate]
  omega

theorem le_length_padded (width n : Nat) : width ≤ (padded width n).length := by
  rw [padded, List.length_append, List.length_replicate]
  omega

theorem padded_injective (width : Nat) : Function.Injective (padded width) :=
  Function.LeftInverse.injective (naturalOf_padded width)

end Padded

section Order

variable {c d : Char} {cs ds : List Char}

theorem naturalOf_cons (c : Char) (cs : List Char) :
    naturalOf (c :: cs) = digitValue c * 10 ^ cs.length + naturalOf cs := by
  rw [naturalOf_eq, Nat.ofDigitChars_cons, Nat.ofDigitChars_eq_ofDigitChars_zero, naturalOf_eq,
    Nat.mul_zero, Nat.zero_add, Nat.mul_comm]
  rfl

theorem digitValue_lt (h : c.isDigit = true) : digitValue c < 10 := by
  have hc := Text.isDigit_iff.1 h
  rw [digitValue]
  omega

theorem naturalOf_lt (h : ∀ c ∈ cs, c.isDigit = true) : naturalOf cs < 10 ^ cs.length := by
  induction cs with
  | nil => decide
  | cons c cs ih =>
    obtain ⟨hc, hcs⟩ := List.forall_mem_cons.1 h
    have hvalue := digitValue_lt hc
    have hrest := ih hcs
    rw [naturalOf_cons, List.length_cons, pow_succ]
    nlinarith

theorem digit_lt_iff (hc : c.isDigit = true) (hd : d.isDigit = true) :
    c < d ↔ digitValue c < digitValue d := by
  have hc' := Text.isDigit_iff.1 hc
  have hd' := Text.isDigit_iff.1 hd
  have hlt : c < d ↔ c.toNat < d.toNat := Iff.rfl
  rw [hlt, digitValue, digitValue]
  omega

theorem digits_lt_iff (hlength : cs.length = ds.length) (hcs : ∀ c ∈ cs, c.isDigit = true)
    (hds : ∀ d ∈ ds, d.isDigit = true) : cs < ds ↔ naturalOf cs < naturalOf ds := by
  induction cs generalizing ds with
  | nil =>
    obtain rfl := List.length_eq_zero_iff.1 hlength.symm
    simp
  | cons c cs ih =>
    obtain ⟨d, ds, rfl⟩ := List.exists_cons_of_length_eq_add_one hlength.symm
    have hrest : cs.length = ds.length := Nat.succ.inj hlength
    obtain ⟨hc, hcs⟩ := List.forall_mem_cons.1 hcs
    obtain ⟨hd, hds⟩ := List.forall_mem_cons.1 hds
    have hless := naturalOf_lt hcs
    have hless' := naturalOf_lt hds
    rw [List.cons_lt_cons_iff, naturalOf_cons, naturalOf_cons, ih hrest hcs hds, ← hrest]
    rw [← hrest] at hless'
    rcases lt_trichotomy c d with hlt | rfl | hgt
    · have hvalue := (digit_lt_iff hc hd).1 hlt
      refine iff_of_true (.inl hlt) ?_
      nlinarith
    · simp
    · have hvalue := (digit_lt_iff hd hc).1 hgt
      refine iff_of_false ?_ ?_
      · exact not_or.2 ⟨hgt.asymm, fun h => hgt.ne' h.1⟩
      · nlinarith

theorem padded_lt_iff {width n m : Nat} (hn : n < 10 ^ width) (hm : m < 10 ^ width)
    (hwidth : 0 < width) : padded width n < padded width m ↔ n < m := by
  have hlength : (padded width n).length = (padded width m).length := by
    rw [length_padded hn hwidth, length_padded hm hwidth]
  rw [digits_lt_iff hlength (fun _ => isDigit_of_mem_padded) (fun _ => isDigit_of_mem_padded),
    naturalOf_padded, naturalOf_padded]

theorem padded_naturalOf (h : ∀ c ∈ cs, c.isDigit = true) (hne : cs ≠ []) :
    padded cs.length (naturalOf cs) = cs := by
  have hlength := length_padded (naturalOf_lt h) (List.length_pos_iff.2 hne)
  have hdigits : ∀ c ∈ padded cs.length (naturalOf cs), c.isDigit = true :=
    fun _ => isDigit_of_mem_padded
  -- texts of equal length and value: neither is before the other
  apply List.le_antisymm
  · rw [← List.not_lt, digits_lt_iff hlength.symm h hdigits, naturalOf_padded]
    exact lt_irrefl _
  · rw [← List.not_lt, digits_lt_iff hlength hdigits h, naturalOf_padded]
    exact lt_irrefl _

theorem append_lt_append_iff {as bs : List Char} (hlength : cs.length = ds.length) :
    cs ++ as < ds ++ bs ↔ cs < ds ∨ cs = ds ∧ as < bs := by
  induction cs generalizing ds with
  | nil =>
    obtain rfl := List.length_eq_zero_iff.1 hlength.symm
    simp
  | cons c cs ih =>
    obtain ⟨d, ds, rfl⟩ := List.exists_cons_of_length_eq_add_one hlength.symm
    rw [List.cons_append, List.cons_append, List.cons_lt_cons_iff, List.cons_lt_cons_iff,
      ih (Nat.succ.inj hlength), List.cons.injEq]
    tauto

theorem padded_append_lt_iff {width n m : Nat} {as bs : List Char} (hn : n < 10 ^ width)
    (hm : m < 10 ^ width) (hwidth : 0 < width) :
    padded width n ++ as < padded width m ++ bs ↔ n < m ∨ n = m ∧ as < bs := by
  have hlength : (padded width n).length = (padded width m).length := by
    rw [length_padded hn hwidth, length_padded hm hwidth]
  rw [append_lt_append_iff hlength, padded_lt_iff hn hm hwidth, (padded_injective width).eq_iff]

end Order

section Read

variable {ds rest : List Char} {width n : Nat}

theorem takeWhile_isDigit_append (hds : ∀ c ∈ ds, c.isDigit = true)
    (hrest : ∀ c ∈ rest.head?, c.isDigit = false) : (ds ++ rest).takeWhile Char.isDigit = ds := by
  have hstop : rest.takeWhile Char.isDigit = [] := by
    cases rest with
    | nil => rfl
    | cons c rest => simp [hrest c rfl]
  rw [List.takeWhile_append_of_pos hds, hstop, List.append_nil]

theorem readDigits_append {most : Option Nat} (hds : ∀ c ∈ ds, c.isDigit = true) (hne : ds ≠ [])
    (hmost : ∀ n ∈ most, ds.length ≤ n) (hrest : ∀ c ∈ rest.head?, c.isDigit = false) :
    readDigits most (ds ++ rest) = .ok (naturalOf ds, rest) := by
  have hrun := takeWhile_isDigit_append hds hrest
  obtain ⟨d, ds, rfl⟩ := List.exists_cons_of_ne_nil hne
  unfold readDigits
  rw [hrun]
  cases most with
  | none => simp
  | some n =>
    dsimp only
    rw [List.take_of_length_le (hmost n rfl)]
    simp

theorem readColumns_padded (hn : n < 10 ^ width) (hwidth : 0 < width) (rest : List Char) :
    readColumns width (padded width n ++ rest) = .ok (n, rest) := by
  have hlength := length_padded hn hwidth
  have hall : (padded width n).all Char.isDigit = true :=
    List.all_eq_true.2 fun _ => isDigit_of_mem_padded
  unfold readColumns
  rw [List.take_left' hlength, List.drop_left' hlength, if_pos ⟨hlength, hall⟩, naturalOf_padded]

theorem readColumns_eq_ok_iff {cs : List Char} (hwidth : 0 < width) :
    readColumns width cs = .ok (n, rest) ↔ cs = padded width n ++ rest ∧ n < 10 ^ width := by
  constructor
  · intro h
    unfold readColumns at h
    dsimp only at h
    split at h
    · rename_i hcolumns
      obtain ⟨hlength, hall⟩ := hcolumns
      have hdigits := List.all_eq_true.1 hall
      have hne : cs.take width ≠ [] := by
        rw [← List.length_pos_iff, hlength]
        exact hwidth
      have hlt := naturalOf_lt hdigits
      have hpadded := padded_naturalOf hdigits hne
      rw [hlength] at hlt hpadded
      cases h
      rw [hpadded, List.take_append_drop]
      exact ⟨rfl, hlt⟩
    · cases h
  · intro h
    obtain ⟨rfl, hn⟩ := h
    exact readColumns_padded hn hwidth rest

theorem readColumn_eq_ok_iff {marks cs : List Char} :
    readColumn marks cs = .ok rest ↔ ∃ c ∈ marks, cs = c :: rest := by
  cases cs with
  | nil => simp [readColumn]
  | cons d ds =>
    rw [readColumn]
    constructor
    · intro h
      split at h
      · rename_i hd
        cases h
        exact ⟨d, hd, rfl⟩
      · cases h
    · intro h
      obtain ⟨c, hc, hcons⟩ := h
      cases hcons
      rw [if_pos hc]

end Read

end Docket.Calendar
