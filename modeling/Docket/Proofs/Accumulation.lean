import Docket.Paging
import Mathlib.Data.List.DropRight
import Mathlib.Data.List.Induction
import Mathlib.Tactic.Common
/-!
Walks in use. Scopes are begun and pages taken in, in any order and with any page at fault. The
items are those of all pages; whether the walk has ended and where it goes on is told by the pages
since the last scope began, each by a rule of its own.
-/

namespace Docket

def Page.next? {α : Type} (p : Page α) : Option String :=
  if p.info.hasNextPage then p.info.endCursor else none

namespace Walk

variable {α : Type}

inductive Step (α : Type)
  | beginScope
  | absorb (page : Page α)

def Step.page? : Step α → Option (Page α)
  | .beginScope => none
  | .absorb page => some page

def perform (w : Walk α) : Step α → Walk α × Except Failure Unit
  | .beginScope => (w.beginScope, .ok ())
  | .absorb page => w.absorb page

def after (steps : List (Step α)) : Walk α := steps.foldl (fun w step => (w.perform step).1) empty

def pages (steps : List (Step α)) : List (Page α) := steps.filterMap Step.page?

/-- The pages since a scope was begun for the last time. -/
def scopePages (steps : List (Step α)) : List (Page α) :=
  pages (steps.rtakeWhile fun step => step.page?.isSome)

section Concat

variable (steps : List (Step α)) (step : Step α) (p : Page α)

theorem after_concat : after (steps ++ [step]) = ((after steps).perform step).1 := by
  rw [after, List.foldl_append]
  rfl

theorem pages_concat : pages (steps ++ [step]) = pages steps ++ step.page?.toList := by
  rw [pages, List.filterMap_append]
  cases step <;> rfl

theorem scopePages_beginScope : scopePages (steps ++ [.beginScope]) = [] := by
  rw [scopePages, List.rtakeWhile_concat_neg _ _ _ Bool.false_ne_true]
  rfl

theorem scopePages_absorb : scopePages (steps ++ [.absorb p]) = scopePages steps ++ [p] := by
  rw [scopePages, List.rtakeWhile_concat_pos _ _ _ rfl, pages_concat]
  rfl

end Concat

theorem absorb_cases (w : Walk α) (p : Page α) :
    (p.info.hasNextPage = false ∧ w.absorb p = (⟨w.items ++ p.items, w.cursor, true⟩, .ok ())) ∨
    (∃ cursor, p.info.hasNextPage = true ∧ p.info.endCursor = some cursor ∧
      w.absorb p = (⟨w.items ++ p.items, some cursor, w.isExhausted⟩, .ok ())) ∨
    (p.info.hasNextPage = true ∧ p.info.endCursor = none ∧
      w.absorb p = (⟨w.items ++ p.items, w.cursor, w.isExhausted⟩, .error .noEndCursor)) := by
  unfold absorb PageInfo.isLast
  cases hnext : p.info.hasNextPage with
  | false => exact .inl ⟨rfl, rfl⟩
  | true =>
    cases hcursor : p.info.endCursor with
    | some cursor => exact .inr (.inl ⟨cursor, rfl, rfl, rfl⟩)
    | none => exact .inr (.inr ⟨rfl, rfl, rfl⟩)

structure Accumulates (w : Walk α) (steps : List (Step α)) : Prop where
  items : w.items = (pages steps).flatMap Page.items
  isExhausted : w.isExhausted = true ↔ ∃ p ∈ scopePages steps, p.info.hasNextPage = false
  cursor : w.cursor = (scopePages steps).reverse.findSome? Page.next?

namespace Accumulates

variable {w : Walk α} {steps : List (Step α)}

theorem beginScope (h : w.Accumulates steps) :
    w.beginScope.Accumulates (steps ++ [.beginScope]) where
  items := by
    rw [pages_concat]
    exact h.items.trans (congrArg (List.flatMap Page.items) (List.append_nil _).symm)
  isExhausted := by
    rw [scopePages_beginScope]
    simp [Walk.beginScope]
  cursor := by
    rw [scopePages_beginScope]
    rfl

theorem absorb (h : w.Accumulates steps) (p : Page α) :
    (w.absorb p).1.Accumulates (steps ++ [.absorb p]) := by
  have hitems : w.items ++ p.items = (pages (steps ++ [.absorb p])).flatMap Page.items := by
    rw [pages_concat, List.flatMap_append, ← h.items]
    simp [Step.page?]
  have hended : (∃ q ∈ scopePages (steps ++ [.absorb p]), q.info.hasNextPage = false) ↔
      w.isExhausted = true ∨ p.info.hasNextPage = false := by
    rw [scopePages_absorb, h.isExhausted]
    simp only [List.mem_append, List.mem_singleton, or_and_right, exists_or, exists_eq_left]
  have hcursor : (scopePages (steps ++ [.absorb p])).reverse.findSome? Page.next? =
      p.next?.or w.cursor := by
    rw [scopePages_absorb, List.reverse_concat, List.findSome?_cons, h.cursor]
    cases p.next? <;> rfl
  rcases w.absorb_cases p with ⟨hnext, hw⟩ | ⟨cursor, hnext, hend, hw⟩ | ⟨hnext, hend, hw⟩
  · rw [hw]
    exact ⟨hitems, by simp [hended, hnext], by simp [hcursor, Page.next?, hnext]⟩
  · rw [hw]
    exact ⟨hitems, by simp [hended, hnext], by simp [hcursor, Page.next?, hnext, hend]⟩
  · rw [hw]
    exact ⟨hitems, by simp [hended, hnext], by simp [hcursor, Page.next?, hnext, hend]⟩

theorem perform (h : w.Accumulates steps) (step : Step α) :
    (w.perform step).1.Accumulates (steps ++ [step]) := by
  cases step with
  | beginScope => exact h.beginScope
  | absorb p => exact h.absorb p

end Accumulates

theorem accumulates_after (steps : List (Step α)) : (after steps).Accumulates steps := by
  -- by the last step: the walk it is made of has been used by those before it
  induction steps using List.reverseRecOn with
  | nil => exact ⟨rfl, by simp [after, empty, scopePages, pages], rfl⟩
  | append_singleton steps step ih =>
    rw [after_concat]
    exact ih.perform step

/-- After any steps a walk holds the items of all pages, has ended if one since the last scope began
was the last, and goes on where the latest of those with a cursor leads. A further page is at fault
if it promises more but has no cursor, and then changes nothing but the items; a further scope does
not change these. -/
theorem absorb_after (steps : List (Step α)) :
    (after steps).Accumulates steps ∧ (after steps).beginScope.items = (after steps).items ∧
      ∀ p, ((∃ e, ((after steps).absorb p).2 = .error e) ↔
          p.info.hasNextPage = true ∧ p.info.endCursor = none) ∧
        ∀ e, ((after steps).absorb p).2 = .error e →
          e = .malformed "page reports more results but no end cursor" ∧
            ((after steps).absorb p).1.cursor = (after steps).cursor ∧
            ((after steps).absorb p).1.isExhausted = (after steps).isExhausted := by
  refine ⟨accumulates_after steps, rfl, fun p => ?_⟩
  rcases (after steps).absorb_cases p with ⟨hnext, hw⟩ | ⟨cursor, hnext, hend, hw⟩ |
    ⟨hnext, hend, hw⟩
  · rw [hw, hnext]
    exact ⟨⟨nofun, nofun⟩, nofun⟩
  · rw [hw, hend]
    exact ⟨⟨nofun, nofun⟩, nofun⟩
  · rw [hw]
    refine ⟨iff_of_true ⟨_, rfl⟩ ⟨hnext, hend⟩, fun e he => ?_⟩
    cases he
    exact ⟨rfl, rfl, rfl⟩

def sampleSteps : List (Step Nat) :=
  [.absorb ⟨[1], ⟨some "a", true⟩⟩, .beginScope, .absorb ⟨[2], ⟨none, true⟩⟩,
    .absorb ⟨[3], ⟨some "b", false⟩⟩, .absorb ⟨[4], ⟨some "c", true⟩⟩]

theorem absorb_after_sample :
    after sampleSteps = ⟨[1, 2, 3, 4], some "c", true⟩ ∧
      ((after sampleSteps).absorb ⟨[5], ⟨none, true⟩⟩).2 = .error .noEndCursor ∧
      ((after sampleSteps).absorb ⟨[5], ⟨none, true⟩⟩).1.cursor = some "c" := by
  have hfault : ((after sampleSteps).absorb ⟨[5], ⟨none, true⟩⟩).2 = .error .noEndCursor := by rfl
  exact ⟨by rfl, hfault, (((absorb_after sampleSteps).2.2 _).2 _ hfault).2.1⟩

end Walk

end Docket
