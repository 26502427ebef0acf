import Mathlib.Tactic.Common
/-!
Texts taken apart at a character. The segments between the commas of a text are the only ones
without commas that give the text when they are put together with commas again.
-/

namespace Docket.Text

theorem forall_mem_splitOnP {p : Char → Bool} {cs : List Char} :
    ∀ s ∈ cs.splitOnP p, ∀ c ∈ s, p c = false := by
  induction cs with
  | nil => simp
  | cons c cs ih =>
    rw [List.splitOnP_cons_eq_if_modifyHead]
    split
    · exact List.forall_mem_cons.2 ⟨by simp, ih⟩
    · rename_i hc
      cases hsplit : cs.splitOnP p with
      | nil => simp
      | cons s rest =>
        rw [hsplit] at ih
        obtain ⟨hs, hrest⟩ := List.forall_mem_cons.1 ih
        refine List.forall_mem_cons.2 ⟨?_, hrest⟩
        exact List.forall_mem_cons.2 ⟨Bool.eq_false_iff.2 hc, hs⟩

def segments (s : String) : List String := (s.toList.splitOn ',').map String.ofList

structure Joins (s : String) (segments : List String) : Prop where
  nonempty : segments ≠ []
  apart : ∀ t ∈ segments, ',' ∉ t.toList
  joined : s = String.intercalate "," segments

theorem joins_segments (s : String) : Joins s (segments s) where
  nonempty := by simp [segments, List.splitOn_ne_nil]
  apart := by
    intro t ht hcomma
    obtain ⟨cs, hcs, rfl⟩ := List.mem_map.1 ht
    rw [String.toList_ofList] at hcomma
    rw [List.splitOn_eq_splitOnP] at hcs
    have hnot := forall_mem_splitOnP cs hcs ',' hcomma
    simp at hnot
  joined := by
    have hparts : (segments s).map String.toList = s.toList.splitOn ',' := by
      simp [segments, Function.comp_def]
    apply String.toList_inj.1
    rw [String.toList_intercalate, hparts]
    exact (List.intercalate_splitOn ',').symm

theorem Joins.eq_segments {s : String} {ts : List String} (h : Joins s ts) : ts = segments s := by
  have hsplit : s.toList.splitOn ',' = ts.map String.toList := by
    rw [h.joined, String.toList_intercalate]
    refine List.splitOn_intercalate ',' ?_ (by simpa using h.nonempty)
    intro cs hcs
    obtain ⟨t, ht, rfl⟩ := List.mem_map.1 hcs
    exact h.apart t ht
  rw [segments, hsplit, List.map_map]
  simp

end Docket.Text
