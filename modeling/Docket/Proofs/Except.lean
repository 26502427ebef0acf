import Docket.Failure
import Mathlib.Data.List.Forall2
/-!
Results that may be failures, taken apart: what a sequence of steps and a step for each entry of a
list give when they succeed.
-/

namespace Docket

theorem bind_eq_ok_iff {ε α β : Type} {x : Except ε α} {f : α → Except ε β} {b : β} :
    (x >>= f) = .ok b ↔ ∃ a, x = .ok a ∧ f a = .ok b := by
  cases x <;> simp [bind, Except.bind]

theorem error_bind {ε α β : Type} (e : ε) (f : α → Except ε β) : (.error e >>= f) = .error e := rfl

theorem ite_error_eq_ok_iff {ε α : Type} {p : Prop} [Decidable p] {e : ε} {x : Except ε α} {a : α} :
    (if p then .error e else x) = .ok a ↔ ¬ p ∧ x = .ok a := by
  split <;> simp [*]

theorem map_eq_ok_iff {ε α β : Type} {x : Except ε α} {f : α → β} {b : β} :
    x.map f = .ok b ↔ ∃ a, x = .ok a ∧ f a = b := by
  cases x <;> simp [Except.map]

theorem failing_eq_ok_iff {ε α : Type} {wrap : ε → Failure} {x : Except ε α} {a : α} :
    failing wrap x = .ok a ↔ x = .ok a := by
  cases x <;> simp [failing]

theorem toOption_eq_some_iff {ε α : Type} {x : Except ε α} {a : α} :
    x.toOption = some a ↔ x = .ok a := by
  cases x <;> simp [Except.toOption]

theorem mapM_eq_ok_iff {ε α β : Type} {f : α → Except ε β} {l : List α} {ys : List β} :
    l.mapM f = .ok ys ↔ l.map f = ys.map .ok := by
  induction l generalizing ys with
  | nil => cases ys <;> simp [pure, Except.pure]
  | cons a l ih =>
    simp only [List.mapM_cons, bind_eq_ok_iff, ih, List.map_cons]
    cases ys with
    | nil => simp [pure, Except.pure]
    | cons y ys => simp [pure, Except.pure]

theorem getElem?_of_mapM {ε α β : Type} {f : α → Except ε β} {l : List α} {ys : List β} {i : Nat}
    {a : α} (h : l.mapM f = .ok ys) (hi : l[i]? = some a) : ∃ y, f a = .ok y ∧ ys[i]? = some y := by
  have hget := congrArg (·[i]?) (mapM_eq_ok_iff.1 h)
  simp only [List.getElem?_map, hi, Option.map_some] at hget
  obtain ⟨y, hy, hok⟩ := Option.map_eq_some_iff.1 hget.symm
  exact ⟨y, hok.symm, hy⟩

theorem exists_of_mem_mapM {ε α β : Type} {f : α → Except ε β} {l : List α} {ys : List β} {y : β}
    (h : l.mapM f = .ok ys) (hy : y ∈ ys) : ∃ a ∈ l, f a = .ok y := by
  have hmem : (.ok y : Except ε β) ∈ l.map f := by
    rw [mapM_eq_ok_iff.1 h]
    exact List.mem_map_of_mem hy
  exact List.mem_map.1 hmem

theorem forall₂_of_mapM {ε α β : Type} {f : α → Except ε β} {l : List α} {ys : List β}
    {R : α → β → Prop} (h : l.mapM f = .ok ys) (hf : ∀ a y, f a = .ok y → R a y) :
    List.Forall₂ R l ys := by
  have heq : List.Forall₂ Eq (l.map f) (ys.map Except.ok) := by
    rw [List.forall₂_eq_eq_eq]
    exact mapM_eq_ok_iff.1 h
  rw [List.forall₂_map_left_iff, List.forall₂_map_right_iff] at heq
  exact heq.imp hf

theorem mapM_congr {ε α β : Type} {f g : α → Except ε β} {l : List α} (h : ∀ a ∈ l, f a = g a) :
    l.mapM f = l.mapM g := by
  induction l with
  | nil => rfl
  | cons a l ih =>
    obtain ⟨ha, hl⟩ := List.forall_mem_cons.1 h
    rw [List.mapM_cons, List.mapM_cons, ha, ih hl]

theorem mapM_eq_error_iff {ε α β : Type} {f : α → Except ε β} {l : List α} {e : ε} :
    l.mapM f = .error e ↔
      ∃ before a after, l = before ++ a :: after ∧ (∀ b ∈ before, ∃ y, f b = .ok y) ∧
        f a = .error e := by
  induction l with
  | nil => simp [pure, Except.pure]
  | cons a l ih =>
    rw [List.mapM_cons]
    cases ha : f a with
    | error e' =>
      constructor
      · intro h
        cases h
        exact ⟨[], a, l, rfl, by simp, ha⟩
      · intro h
        obtain ⟨before, c, after, hl, hbefore, hc⟩ := h
        cases before with
        | nil =>
          cases hl
          rw [ha] at hc
          cases hc
          rfl
        | cons b before =>
          cases hl
          obtain ⟨y, hy⟩ := hbefore a List.mem_cons_self
          rw [ha] at hy
          cases hy
    | ok y =>
      have hrest : (do let ys ← l.mapM f; pure (y :: ys)) = .error e ↔ l.mapM f = .error e := by
        cases l.mapM f <;> simp [bind, Except.bind, pure, Except.pure]
      refine hrest.trans (ih.trans ?_)
      constructor
      · intro h
        obtain ⟨before, c, after, rfl, hbefore, hc⟩ := h
        exact ⟨a :: before, c, after, rfl, List.forall_mem_cons.2 ⟨⟨y, ha⟩, hbefore⟩, hc⟩
      · intro h
        obtain ⟨before, c, after, hl, hbefore, hc⟩ := h
        cases before with
        | nil =>
          cases hl
          rw [ha] at hc
          cases hc
        | cons b before =>
          cases hl
          exact ⟨before, c, after, rfl, fun d hd => hbefore d (List.mem_cons_of_mem a hd), hc⟩

theorem eq_nil_iff_of_mapM {ε α β : Type} {f : α → Except ε β} {l : List α} {ys : List β}
    (h : l.mapM f = .ok ys) : ys = [] ↔ l = [] := by
  rw [← List.map_eq_nil_iff (f := f), mapM_eq_ok_iff.1 h, List.map_eq_nil_iff]

theorem exists_map_eq_map_ok {ε α β : Type} {f : α → Except ε β} {l : List α} :
    (∃ ys : List β, l.map f = ys.map .ok) ↔ ∀ a ∈ l, ∃ y, f a = .ok y := by
  induction l with
  | nil => simp
  | cons a l ih =>
    simp only [List.map_cons, List.forall_mem_cons, ← ih]
    constructor
    · rintro ⟨_ | ⟨y, ys⟩, h⟩
      · cases h
      · obtain ⟨hy, hys⟩ := List.cons.inj h
        exact ⟨⟨y, hy⟩, ys, hys⟩
    · rintro ⟨⟨y, hy⟩, ys, hys⟩
      exact ⟨y :: ys, by rw [hy, hys, List.map_cons]⟩

end Docket
