import Docket.Proofs.Except
import Mathlib.Tactic.Common
/-!
Faults at numbered places. Of several faults the first is the one at the least place, in the order
of lists of numbers. A check that stops at a fault reports the first of all if each of its steps
reports the first of its own, and the steps follow the order of the places.
-/

namespace Docket

/-- What is wrong with something, and at which place. -/
abbrev Faults (ε : Type) := List Nat → ε → Prop

namespace Faults

variable {ε α : Type}

def First (F : Faults ε) (e : ε) : Prop :=
  ∃ place, F place e ∧ ∀ other e', F other e' → place < other ∨ (place = other ∧ e = e')

def when (p : Prop) (e : ε) : Faults ε := fun place e' => p ∧ place = [] ∧ e' = e

def or (F G : Faults ε) : Faults ε := fun place e => F place e ∨ G place e

def under (n : Nat) (F : Faults ε) : Faults ε := fun place e => ∃ rest, place = n :: rest ∧ F rest e

def among (n : Nat) (l : List α) (F : α → Faults ε) : Faults ε := fun place e =>
  ∃ i a rest, l[i]? = some a ∧ place = (n + i) :: rest ∧ F a rest e

def From (n : Nat) (F : Faults ε) : Prop :=
  ∀ place e, F place e → ∃ i rest, n ≤ i ∧ place = i :: rest

theorem First.unique {F : Faults ε} {e e' : ε} (h : F.First e) (h' : F.First e') : e = e' := by
  obtain ⟨place, hplace, hleast⟩ := h
  obtain ⟨place', hplace', hleast'⟩ := h'
  rcases hleast place' e' hplace' with hlt | ⟨-, he⟩
  · rcases hleast' place e hplace with hlt' | ⟨-, he⟩
    · exact absurd hlt (List.lt_asymm hlt')
    · exact he.symm
  · exact he

theorem from_under (n : Nat) (F : Faults ε) : From n (under n F) := by
  intro place e h
  obtain ⟨rest, rfl, -⟩ := h
  exact ⟨n, rest, Nat.le_refl n, rfl⟩

theorem from_among (n : Nat) (l : List α) (F : α → Faults ε) : From n (among n l F) := by
  intro place e h
  obtain ⟨i, a, rest, -, rfl, -⟩ := h
  exact ⟨n + i, rest, Nat.le_add_right n i, rfl⟩

theorem From.under_or {n : Nat} {G : Faults ε} (h : From (n + 1) G) (F : Faults ε) :
    From n ((under n F).or G) := by
  intro place e hor
  rcases hor with hF | hG
  · exact from_under n F place e hF
  · obtain ⟨i, rest, hi, rfl⟩ := h place e hG
    exact ⟨i, rest, by omega, rfl⟩

theorem among_nil (n : Nat) (F : α → Faults ε) (place : List Nat) (e : ε) :
    ¬among n [] F place e := by
  intro h
  obtain ⟨i, a, rest, hi, -⟩ := h
  simp at hi

theorem among_cons (n : Nat) (a : α) (l : List α) (F : α → Faults ε) (place : List Nat) (e : ε) :
    among n (a :: l) F place e ↔ (under n (F a)).or (among (n + 1) l F) place e := by
  constructor
  · intro h
    obtain ⟨i, b, rest, hi, rfl, hb⟩ := h
    cases i with
    | zero =>
      obtain rfl : a = b := by simpa using hi
      exact .inl ⟨rest, rfl, hb⟩
    | succ i =>
      have hnumber : n + (i + 1) = n + 1 + i := by omega
      exact .inr ⟨i, b, rest, by simpa using hi, by rw [hnumber], hb⟩
  · intro h
    rcases h with ⟨rest, rfl, ha⟩ | ⟨i, b, rest, hi, rfl, hb⟩
    · exact ⟨0, a, rest, rfl, rfl, ha⟩
    · exact ⟨i + 1, b, rest, by simpa using hi, by rw [Nat.add_right_comm, Nat.add_assoc], hb⟩

end Faults

/-- A result of a check: it succeeds where there is no fault, and fails with the first one. -/
structure Reports {ε α : Type} (x : Except ε α) (F : Faults ε) : Prop where
  sound : ∀ a, x = .ok a → ∀ place e, ¬F place e
  first : ∀ e, x = .error e → F.First e

namespace Reports

variable {ε α β : Type} {x : Except ε α} {F G : Faults ε}

theorem exists_ok_iff (h : Reports x F) : (∃ a, x = .ok a) ↔ ∀ place e, ¬F place e := by
  constructor
  · intro hok
    obtain ⟨a, ha⟩ := hok
    exact h.sound a ha
  · intro hnone
    cases hx : x with
    | ok a => exact ⟨a, rfl⟩
    | error e =>
      obtain ⟨place, hplace, -⟩ := h.first e hx
      exact absurd hplace (hnone place e)

theorem error_iff (h : Reports x F) {e : ε} : x = .error e ↔ F.First e := by
  constructor
  · exact h.first e
  · intro he
    cases hx : x with
    | ok a =>
      obtain ⟨place, hplace, -⟩ := he
      exact absurd hplace (h.sound a hx place e)
    | error e' => rw [(h.first e' hx).unique he]

theorem congr (h : Reports x F) (hiff : ∀ place e, G place e ↔ F place e) : Reports x G := by
  have heq : G = F := funext fun place => funext fun e => propext (hiff place e)
  rwa [heq]

theorem ok (a : α) (h : ∀ place e, ¬F place e) : Reports (.ok a) F where
  sound _ _ := h
  first _ he := by cases he

theorem error {e : ε} (place : List Nat) (h : ∀ other e', F other e' ↔ other = place ∧ e' = e) :
    Reports (.error e : Except ε α) F where
  sound _ h := by cases h
  first e' he := by
    cases he
    refine ⟨place, (h place e).2 ⟨rfl, rfl⟩, fun other e' h' => ?_⟩
    obtain ⟨rfl, rfl⟩ := (h other e').1 h'
    exact .inr ⟨rfl, rfl⟩

theorem when_ok {p : Prop} {e : ε} (a : α) (h : ¬p) : Reports (.ok a) (Faults.when p e) :=
  ok a fun _ _ hfault => h hfault.1

theorem when_error {p : Prop} {e : ε} (h : p) :
    Reports (.error e : Except ε α) (Faults.when p e) :=
  error [] fun _ _ => and_iff_right h

theorem under (n : Nat) (h : Reports x F) : Reports x (Faults.under n F) where
  sound a ha place e hfault := by
    obtain ⟨rest, -, hrest⟩ := hfault
    exact h.sound a ha rest e hrest
  first e he := by
    obtain ⟨place, hplace, hleast⟩ := h.first e he
    refine ⟨n :: place, ⟨place, rfl, hplace⟩, fun other e' hother => ?_⟩
    obtain ⟨rest, rfl, hrest⟩ := hother
    rcases hleast rest e' hrest with hlt | ⟨rfl, rfl⟩
    · exact .inl (List.cons_lt_cons_iff.2 (.inr ⟨rfl, hlt⟩))
    · exact .inr ⟨rfl, rfl⟩

/-- Of two steps the second is taken where the first succeeds, and its faults come after. -/
theorem bind {f : α → Except ε β} (n : Nat) (hx : Reports x F)
    (hf : ∀ a, x = .ok a → Reports (f a) G) (hfrom : G.From (n + 1)) :
    Reports (x >>= f) ((F.under n).or G) := by
  have hunder := hx.under n
  cases hres : x with
  | ok a =>
    refine (hf a hres).congr fun place e => ?_
    exact or_iff_right (hunder.sound a hres place e)
  | error e =>
    refine ⟨nofun, fun e' he' => ?_⟩
    cases he'
    obtain ⟨place, hplace, hleast⟩ := hunder.first e hres
    refine ⟨place, .inl hplace, fun other e' h => ?_⟩
    rcases h with h | h
    · exact hleast other e' h
    · -- the second step was not taken, and its faults stand under greater numbers
      obtain ⟨rest, rfl, -⟩ := hplace
      obtain ⟨i, rest', hi, rfl⟩ := hfrom other e' h
      exact .inl (List.cons_lt_cons_iff.2 (.inl hi))

theorem map {f : α → β} (h : Reports x F) : Reports (x.map f) F := by
  cases x with
  | ok a => exact ⟨fun _ _ => h.sound a rfl, nofun⟩
  | error e =>
    refine ⟨nofun, fun e' he' => ?_⟩
    cases he'
    exact h.first e rfl

theorem mapM {f : α → Except ε β} {F : α → Faults ε} {l : List α} (n : Nat)
    (h : ∀ a ∈ l, Reports (f a) (F a)) : Reports (l.mapM f) (Faults.among n l F) := by
  induction l generalizing n with
  | nil => exact ok [] (Faults.among_nil n F)
  | cons a l ih =>
    obtain ⟨ha, hl⟩ := List.forall_mem_cons.1 h
    rw [List.mapM_cons]
    refine Reports.congr ?_ (Faults.among_cons n a l F)
    refine Reports.bind n ha (fun b _ => ?_) (Faults.from_among (n + 1) l F)
    exact (ih (n + 1) hl).map

end Reports

end Docket
