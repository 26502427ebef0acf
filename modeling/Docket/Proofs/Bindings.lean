import Docket.Query.Variable
import Mathlib.Data.List.Induction
import Mathlib.Data.String.Basic
import Mathlib.Tactic.Common
/-!
Values of variables as they are set one after the other. Each name has one entry, which holds the
value that was set last, and the entries stand in the order of the names whatever the order of the
setting.
-/

namespace Docket.Query

section Place

variable {α : Type} {x y : VariableName} {v : α} {es : List (VariableName × α)}

theorem mem_keys_place : x ∈ Entries.keys (Entries.place VariableName.before y v es) ↔
    x = y ∨ x ∈ Entries.keys es := by
  induction es with
  | nil => simp [Entries.place, Entries.keys]
  | cons e es ih =>
    simp only [Entries.keys] at ih
    unfold Entries.place
    split
    · rename_i h
      simp [Entries.keys, h]
    split
    · simp [Entries.keys]
    · simp only [Entries.keys, List.map_cons, List.mem_cons, ih]
      tauto

theorem pairwise_keys_place (h : (Entries.keys es).Pairwise fun x y => x.text < y.text) :
    (Entries.keys (Entries.place VariableName.before y v es)).Pairwise
      fun x y => x.text < y.text := by
  induction es with
  | nil => exact List.pairwise_singleton _ y
  | cons e es ih =>
    obtain ⟨hfirst, hrest⟩ := List.pairwise_cons.1 h
    unfold Entries.place
    split
    · exact h
    split
    · rename_i hbefore
      have hlt : y.text < e.1.text := of_decide_eq_true hbefore
      refine List.pairwise_cons.2 ⟨fun z hz => ?_, h⟩
      rcases List.mem_cons.1 hz with rfl | hz
      · exact hlt
      · exact lt_trans hlt (hfirst z hz)
    · rename_i hne hbefore
      refine List.pairwise_cons.2 ⟨fun z hz => ?_, ih hrest⟩
      rcases mem_keys_place.1 hz with rfl | hz
      · have hge : ¬z.text < e.1.text := fun hlt => hbefore (decide_eq_true hlt)
        have htext : e.1.text ≠ z.text := fun heq => hne (VariableName.eq_of_text_eq heq)
        exact lt_of_le_of_ne (not_lt.1 hge) htext
      · exact hfirst z hz

theorem get?_place : Entries.get? x (Entries.place VariableName.before y v es) =
    if x = y then some v else Entries.get? x es := by
  induction es with
  | nil => simp [Entries.place, Entries.get?, eq_comm]
  | cons e es ih =>
    unfold Entries.place
    split
    · rename_i h
      by_cases hx : x = y
      · simp [Entries.get?, h, hx]
      · simp [Entries.get?, h, hx, Ne.symm hx]
    split
    · simp [Entries.get?, eq_comm]
    · rename_i hne _
      by_cases he : e.1 = x
      · have hx : x ≠ y := fun hx => hne (he.trans hx)
        simp [Entries.get?, he, hx]
      · simp [Entries.get?, he, ih]

end Place

namespace Bindings

def after (sets : List (VariableName × VariableValue)) : Bindings :=
  sets.foldl (fun b s => b.set s.1 s.2) empty

def SetLast (sets : List (VariableName × VariableValue)) (x : VariableName) (v : VariableValue) :
    Prop :=
  ∃ before rest, sets = before ++ (x, v) :: rest ∧ x ∉ rest.map Prod.fst

variable {b : Bindings} {sets : List (VariableName × VariableValue)} {x y : VariableName}
  {v w : VariableValue}

theorem get?_set : (b.set y w).get? x = if x = y then some w else b.get? x := get?_place

theorem after_concat : after (sets ++ [(y, w)]) = (after sets).set y w := by
  rw [after, List.foldl_append]
  rfl

theorem setLast_concat :
    SetLast (sets ++ [(y, w)]) x v ↔ if x = y then w = v else SetLast sets x v := by
  constructor
  · intro h
    obtain ⟨before, rest, hsets, hrest⟩ := h
    cases rest using List.reverseRecOn with
    | nil =>
      obtain ⟨_, hlast⟩ := List.append_inj' hsets rfl
      cases hlast
      rw [if_pos rfl]
    | append_singleton rest s =>
      rw [← List.cons_append, ← List.append_assoc] at hsets
      obtain ⟨hbefore, hlast⟩ := List.append_inj' hsets rfl
      cases hlast
      rw [List.map_append, List.mem_append, not_or] at hrest
      rw [if_neg fun hx => hrest.2 (by simp [hx])]
      exact ⟨before, rest, hbefore, hrest.1⟩
  · intro h
    split at h
    · rename_i hx
      subst hx h
      exact ⟨sets, [], rfl, List.not_mem_nil⟩
    · rename_i hx
      obtain ⟨before, rest, rfl, hrest⟩ := h
      refine ⟨before, rest ++ [(y, w)], by simp, ?_⟩
      rw [List.map_append, List.mem_append, not_or]
      exact ⟨hrest, by simpa using hx⟩

theorem get?_after : (after sets).get? x = some v ↔ SetLast sets x v := by
  induction sets using List.reverseRecOn with
  | nil => simp [after, SetLast, empty, get?, Entries.get?]
  | append_singleton sets s ih =>
    rw [after_concat, get?_set, setLast_concat]
    split
    · exact Option.some_inj
    · exact ih

theorem pairwise_after :
    (Entries.keys (after sets).entries).Pairwise fun x y => x.text < y.text := by
  induction sets using List.reverseRecOn with
  | nil => exact .nil
  | append_singleton sets s ih =>
    rw [after_concat]
    exact pairwise_keys_place ih

theorem nodup_after : (Entries.keys (after sets).entries).Nodup := by
  refine pairwise_after.imp fun hlt heq => ?_
  rw [heq] at hlt
  exact lt_irrefl _ hlt

theorem getText?_text : b.getText? x.text = b.get? x := by
  obtain ⟨entries⟩ := b
  induction entries with
  | nil => rfl
  | cons e entries ih =>
    by_cases h : e.1 = x
    · simp [getText?, get?, Entries.get?, h]
    · have htext : e.1.text ≠ x.text := fun heq => h (VariableName.eq_of_text_eq heq)
      simp only [getText?, get?, Entries.get?, List.find?_cons, htext, h, decide_false, if_false]
      exact ih

end Bindings

end Docket.Query
