import Docket.Text.Blank
import Mathlib.Data.List.DropRight
import Mathlib.Tactic.Common
/-!
White space around a text. What is left between the white space at both ends has none at its own
ends, which is all there is to say of it; nothing is left of a blank text.
-/

namespace Docket.Text

structure Trims (s t : String) : Prop where
  around : ∃ before after,
    isBlank before = true ∧ isBlank after = true ∧ s = before ++ t ++ after
  first : ∀ c ∈ t.toList.head?, isWhite c = false
  last : ∀ c ∈ t.toList.getLast?, isWhite c = false

theorem trimLeft_append {white : List Char} (h : ∀ c ∈ white, isWhite c = true) (cs : List Char) :
    trimLeft (white ++ cs) = trimLeft cs :=
  List.dropWhile_append_of_pos h

theorem trimRight_append {white : List Char} (h : ∀ c ∈ white, isWhite c = true) (cs : List Char) :
    trimRight (cs ++ white) = trimRight cs := by
  have hwhite : ∀ c ∈ white.reverse, isWhite c = true := fun c hc => h c (List.mem_reverse.1 hc)
  rw [trimRight, trimRight, List.reverse_append, List.dropWhile_append_of_pos hwhite]

theorem trimLeft_of_head? {cs : List Char} (h : ∀ c ∈ cs.head?, isWhite c = false) :
    trimLeft cs = cs := by
  cases cs with
  | nil => rfl
  | cons c cs => exact List.dropWhile_cons_of_neg (by simp [h c rfl])

theorem trimRight_of_getLast? {cs : List Char} (h : ∀ c ∈ cs.getLast?, isWhite c = false) :
    trimRight cs = cs := by
  have hleft : trimLeft cs.reverse = cs.reverse := trimLeft_of_head? (by simpa using h)
  change (trimLeft cs.reverse).reverse = cs
  rw [hleft, List.reverse_reverse]

theorem head?_trimLeft {cs : List Char} {c : Char} (h : c ∈ (trimLeft cs).head?) :
    isWhite c = false := by
  have hnot := List.head?_dropWhile_not isWhite cs
  rw [trimLeft] at h
  rwa [h] at hnot

theorem getLast?_trimRight {cs : List Char} {c : Char} (h : c ∈ (trimRight cs).getLast?) :
    isWhite c = false := by
  rw [trimRight, List.getLast?_reverse] at h
  exact head?_trimLeft h

theorem head?_of_head?_trimRight {cs : List Char} {c : Char} (h : c ∈ (trimRight cs).head?) :
    c ∈ cs.head? := by
  obtain ⟨rest, hprefix⟩ : trimRight cs <+: cs := List.rdropWhile_prefix isWhite cs
  rw [← hprefix, List.head?_append, h]
  rfl

theorem exists_eq_append_trim (cs : List Char) :
    ∃ before after, (∀ c ∈ before, isWhite c = true) ∧ (∀ c ∈ after, isWhite c = true) ∧
      cs = before ++ trimRight (trimLeft cs) ++ after := by
  refine ⟨cs.takeWhile isWhite, (trimLeft cs).rtakeWhile isWhite,
    fun _ => List.mem_takeWhile_imp, fun _ => List.mem_rtakeWhile_imp, ?_⟩
  calc
    cs = cs.takeWhile isWhite ++ trimLeft cs := List.takeWhile_append_dropWhile.symm
    _ = cs.takeWhile isWhite ++
        (trimRight (trimLeft cs) ++ (trimLeft cs).rtakeWhile isWhite) :=
      congrArg _ List.rdropWhile_append_rtakeWhile.symm
    _ = _ := (List.append_assoc ..).symm

theorem trims_trim (s : String) : Trims s (trim s) := by
  obtain ⟨before, after, hbefore, hafter, hs⟩ := exists_eq_append_trim s.toList
  constructor
  · refine ⟨.ofList before, .ofList after, ?_, ?_, ?_⟩
    · simpa [isBlank] using hbefore
    · simpa [isBlank] using hafter
    · rw [trim, ← String.ofList_append, ← String.ofList_append, ← hs, String.ofList_toList]
  · intro c hc
    rw [trim, String.toList_ofList] at hc
    exact head?_trimLeft (head?_of_head?_trimRight hc)
  · intro c hc
    rw [trim, String.toList_ofList] at hc
    exact getLast?_trimRight hc

theorem Trims.eq_trim {s t : String} (h : Trims s t) : t = trim s := by
  obtain ⟨before, after, hbefore, hafter, rfl⟩ := h.around
  simp only [isBlank, List.all_eq_true] at hbefore hafter
  apply String.toList_inj.1
  rw [trim, String.toList_ofList, String.toList_append, String.toList_append, List.append_assoc,
    trimLeft_append hbefore]
  cases ht : t.toList with
  | nil =>
    have hnone : trimLeft (after.toList ++ []) = trimLeft [] := trimLeft_append hafter []
    rw [List.append_nil] at hnone
    rw [List.nil_append, hnone]
    rfl
  | cons c cs =>
    have hhead : trimLeft (c :: cs ++ after.toList) = c :: cs ++ after.toList :=
      trimLeft_of_head? fun d hd => h.first d (by rw [ht]; exact hd)
    rw [hhead, trimRight_append hafter, ← ht, trimRight_of_getLast? h.last]

theorem trims_iff {s t : String} : Trims s t ↔ t = trim s :=
  ⟨Trims.eq_trim, fun h => h ▸ trims_trim s⟩

theorem trim_eq_empty_iff {s : String} : trim s = "" ↔ isBlank s = true := by
  constructor
  · intro h
    obtain ⟨before, after, hbefore, hafter, hs⟩ := (trims_trim s).around
    rw [h, String.append_empty] at hs
    simp only [isBlank, List.all_eq_true] at hbefore hafter ⊢
    intro c hc
    rw [hs, String.toList_append, List.mem_append] at hc
    exact hc.elim (hbefore c) (hafter c)
  · intro h
    refine (Trims.eq_trim ⟨⟨s, "", h, rfl, ?_⟩, ?_, ?_⟩).symm
    · simp
    · simp
    · simp

end Docket.Text
