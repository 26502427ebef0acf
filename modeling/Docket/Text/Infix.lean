/-!
Occurrence of one text within another.
-/

namespace Docket.Text

def occursIn (p : List Char) : List Char → Bool
  | [] => p.isEmpty
  | c :: cs => p.isPrefixOf (c :: cs) || occursIn p cs

theorem occursIn_iff {p cs : List Char} :
    occursIn p cs = true ↔ ∃ before after, cs = before ++ p ++ after := by
  induction cs with
  | nil => cases p <;> simp [occursIn]
  | cons c cs ih =>
    simp only [occursIn, Bool.or_eq_true, List.isPrefixOf_iff_prefix, ih]
    constructor
    · rintro (⟨after, h⟩ | ⟨before, after, h⟩)
      · exact ⟨[], after, by simp [h]⟩
      · exact ⟨c :: before, after, by simp [h]⟩
    · rintro ⟨before, after, h⟩
      cases before with
      | nil => exact .inl ⟨after, by simpa using h.symm⟩
      | cons d before =>
        simp only [List.cons_append, List.cons.injEq] at h
        exact .inr ⟨before, after, h.2⟩

def mentions (s p : String) : Bool := occursIn p.toList s.toList

theorem mentions_iff {s p : String} :
    mentions s p = true ↔ ∃ before after, s = before ++ p ++ after := by
  rw [mentions, occursIn_iff]
  constructor
  · rintro ⟨before, after, h⟩
    refine ⟨.ofList before, .ofList after, ?_⟩
    apply String.toList_inj.1
    simpa using h
  · rintro ⟨before, after, rfl⟩
    exact ⟨before.toList, after.toList, by simp⟩

end Docket.Text
