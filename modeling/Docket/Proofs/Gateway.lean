import Docket.Proofs.Course
import Mathlib.Tactic.Common
/-!
Runs against a gateway, which gives its replies one at a time and may have each depend on all that
it was asked before.
-/

namespace Docket.Sidebar

variable {α : Type}

/-- What answers calls. A reply may depend on every call so far, the last of which it answers. -/
abbrev Gateway := List Call → Reply

namespace Gateway

/-- The replies that a program has been given after some rounds: one more in each round, for as
long as the program awaits one. -/
def replies (g : Gateway) (program : List Reply → Run α) : Nat → List Reply
  | 0 => []
  | n + 1 =>
    let given := g.replies program n
    match (program given).ending with
    | .awaiting => given ++ [g (program given).calls]
    | _ => given

theorem replies_succ_of_awaiting {g : Gateway} {program : List Reply → Run α} {n : Nat}
    (h : (program (g.replies program n)).ending = .awaiting) :
    g.replies program (n + 1) =
      g.replies program n ++ [g (program (g.replies program n)).calls] := by
  simp only [replies, h]

theorem replies_succ_of_ne {g : Gateway} {program : List Reply → Run α} {n : Nat}
    (h : (program (g.replies program n)).ending ≠ .awaiting) :
    g.replies program (n + 1) = g.replies program n := by
  rw [replies]
  split
  · exact absurd ‹_› h
  · rfl

theorem replies_of_le {g : Gateway} {program : List Reply → Run α} {n m : Nat}
    (h : (program (g.replies program n)).ending ≠ .awaiting) (hm : n ≤ m) :
    g.replies program m = g.replies program n := by
  induction hm with
  | refl => rfl
  | step _ ih => rw [replies_succ_of_ne (ih ▸ h), ih]

theorem take_calls_succ {program : List Reply → Run α} (hp : Causal program) {g : Gateway} {n : Nat}
    (h : (program (g.replies program n)).ending = .awaiting) {k : Nat}
    (hk : k ≤ (g.replies program n).length) :
    (program (g.replies program (n + 1))).calls.take (k + 1) =
      (program (g.replies program n)).calls.take (k + 1) := by
  rw [replies_succ_of_awaiting h]
  obtain ⟨hl, hc⟩ := hp.of_awaiting h [g (program (g.replies program n)).calls]
  obtain ⟨others, ho⟩ := hc
  rw [← ho, List.take_append_of_le_length (by omega)]

theorem length_replies_le {program : List Reply → Run α} (hp : Causal program) (g : Gateway)
    (n : Nat) : (g.replies program n).length ≤ (program (g.replies program n)).calls.length := by
  induction n with
  | zero => exact Nat.zero_le _
  | succ n ih =>
    by_cases h : (program (g.replies program n)).ending = .awaiting
    · rw [replies_succ_of_awaiting h]
      obtain ⟨hl, hc⟩ := hp.of_awaiting h [g (program (g.replies program n)).calls]
      have := hc.length_le
      simp only [List.length_append, List.length_singleton]
      omega
    · rw [replies_succ_of_ne h]
      exact ih

theorem length_calls_eq {program : List Reply → Run α} (hp : Causal program) {g : Gateway} {n : Nat}
    (h : (program (g.replies program n)).ending ≠ .awaiting) :
    (program (g.replies program n)).calls.length = (g.replies program n).length :=
  Nat.le_antisymm (hp.length_calls_le h) (length_replies_le hp g n)

theorem getElem?_replies (g : Gateway) {program : List Reply → Run α} (hp : Causal program)
    (n k : Nat) (hk : k < (g.replies program n).length) :
    (g.replies program n)[k]? = some (g ((program (g.replies program n)).calls.take (k + 1))) := by
  induction n with
  | zero => cases hk
  | succ n ih =>
    by_cases h : (program (g.replies program n)).ending = .awaiting
    · have hs := replies_succ_of_awaiting h
      have hl := (hp.of_awaiting h []).1
      rw [hs, List.length_append, List.length_singleton] at hk
      rw [take_calls_succ hp h (by omega), hs]
      by_cases he : k = (g.replies program n).length
      · rw [he, List.getElem?_concat_length, List.take_of_length_le (by omega)]
      · rw [List.getElem?_append_left (by omega), ih (by omega)]
    · rw [replies_succ_of_ne h] at hk ⊢
      exact ih hk

theorem replies_congr {program : List Reply → Run α} (hp : Causal program) {g g' : Gateway}
    {n : Nat}
    (hg : ∀ k < (g.replies program n).length,
      g' ((program (g.replies program n)).calls.take (k + 1)) =
        g ((program (g.replies program n)).calls.take (k + 1))) :
    g'.replies program n = g.replies program n := by
  induction n with
  | zero => rfl
  | succ n ih =>
    by_cases h : (program (g.replies program n)).ending = .awaiting
    · have hs := replies_succ_of_awaiting h
      have hl := (hp.of_awaiting h []).1
      rw [hs, List.length_append, List.length_singleton, ← hs] at hg
      have hk : ∀ k ≤ (g.replies program n).length,
          g' ((program (g.replies program n)).calls.take (k + 1)) =
            g ((program (g.replies program n)).calls.take (k + 1)) := by
        intro k hk
        have hgk := hg k (by omega)
        rwa [take_calls_succ hp h hk] at hgk
      have hn := ih fun k hk' => hk k (Nat.le_of_lt hk')
      have hlast := hk _ (Nat.le_refl _)
      rw [List.take_of_length_le (by omega)] at hlast
      rw [hs, replies_succ_of_awaiting (by rw [hn]; exact h), hn, hlast]
    · rw [replies_succ_of_ne h] at hg
      have hn := ih hg
      rw [replies_succ_of_ne h, replies_succ_of_ne (by rw [hn]; exact h), hn]

theorem length_replies_of_awaiting {g : Gateway} {program : List Reply → Run α} {n : Nat}
    (h : (program (g.replies program n)).ending = .awaiting) :
    (g.replies program n).length = n := by
  induction n with
  | zero => rfl
  | succ n ih =>
    by_cases hn : (program (g.replies program n)).ending = .awaiting
    · rw [replies_succ_of_awaiting hn, List.length_append, ih hn, List.length_singleton]
    · rw [replies_succ_of_ne hn] at h
      exact absurd h hn

end Gateway

end Docket.Sidebar
