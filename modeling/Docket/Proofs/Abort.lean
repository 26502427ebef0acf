import Docket.Proofs.Node
import Docket.Proofs.Plan
/-!
Fetches that have ended. One is done just when no reply is refused and no page is missing; any other
ends at the first reply that is refused or at the bound on pages, and what a gateway would have said
after that makes no difference.
-/

namespace Docket.Sidebar

namespace Plan

variable (p : Plan) (orgs : List Organization)

/-- Every reply is one that the streams pending before it can take in, and no page is asked for that
is above the bound. -/
structure Succeeds (replies : List Reply) : Prop where
  sound : ∀ leg ∈ legs (Scope.ofList orgs) replies, leg.pages.AreSound
  within : ∀ leg, currentLeg? (Scope.ofList orgs) replies = some leg →
    leg.excess? p.pageLimit = none

/-- What a fetch fails with: what is wrong with the last reply, all others being sound, or that the
bound on pages is reached. -/
inductive FailsWith (replies : List Reply) : Failure → Prop
  | refused {earlier : List Reply} {reply : Reply} {leg : Leg} {e : Failure} :
    replies = earlier ++ [reply] → (∀ leg ∈ legs (Scope.ofList orgs) earlier, leg.pages.AreSound) →
    currentLeg? (Scope.ofList orgs) earlier = some leg → reply.fault? leg.pages.pending = some e →
    FailsWith replies e
  | exceeded {leg : Leg} {e : Failure} :
    (∀ leg ∈ legs (Scope.ofList orgs) replies, leg.pages.AreSound) →
    currentLeg? (Scope.ofList orgs) replies = some leg → leg.excess? p.pageLimit = some e →
    FailsWith replies e

variable {p orgs}

theorem not_succeeds_of_refused {earlier : List Reply} {reply : Reply} {leg : Leg} {e : Failure}
    (hleg : currentLeg? (Scope.ofList orgs) earlier = some leg)
    (hf : reply.fault? leg.pages.pending = some e) : ¬p.Succeeds orgs (earlier ++ [reply]) := by
  intro hs
  have hsound := hs.sound _ (mem_legs_concat hleg reply)
  cases (Reply.fault?_eq_none_iff.2 hsound.fits_last).symm.trans hf

theorem fetchFrom_congr {g g' : Gateway} {n m : Nat}
    (h : (p.fetchFrom orgs g n).ending ≠ .awaiting) (hm : n ≤ m)
    (hg : ∀ k < (p.replies orgs g n).length,
      g' ((p.fetchFrom orgs g n).calls.take (k + 1)) =
        g ((p.fetchFrom orgs g n).calls.take (k + 1))) :
    p.fetchFrom orgs g' m = p.fetchFrom orgs g n := by
  have hn : g'.replies (p.fetch orgs) n = g.replies (p.fetch orgs) n :=
    Gateway.replies_congr (p.fetch_causal orgs) hg
  have hle : g'.replies (p.fetch orgs) m = g'.replies (p.fetch orgs) n := by
    refine Gateway.replies_of_le ?_ hm
    rw [hn]
    exact h
  rw [fetchFrom, fetchFrom, replies, replies, hle, hn]

/-- The first failure ends a fetch, and nothing that comes after it matters. -/
theorem fetchFrom_ended (p : Plan) (orgs : List Organization) (g : Gateway) (rounds : Nat)
    (h : (p.fetchFrom orgs g rounds).ending ≠ .awaiting) :
    ((∃ d, (p.fetchFrom orgs g rounds).ending = .done d []) ↔
      p.Succeeds orgs (p.replies orgs g rounds)) ∧
    (¬p.Succeeds orgs (p.replies orgs g rounds) →
      ∃ e, (p.fetchFrom orgs g rounds).ending = .failed e ∧
        p.FailsWith orgs (p.replies orgs g rounds) e) ∧
    (p.fetchFrom orgs g rounds).calls.length = (p.replies orgs g rounds).length ∧
    ∀ (g' : Gateway) (m : Nat), rounds ≤ m →
      (∀ k < (p.replies orgs g rounds).length,
        g' ((p.fetchFrom orgs g rounds).calls.take (k + 1)) =
          g ((p.fetchFrom orgs g rounds).calls.take (k + 1))) →
      p.fetchFrom orgs g' m = p.fetchFrom orgs g rounds := by
  have hlen : (p.fetchFrom orgs g rounds).calls.length = (p.replies orgs g rounds).length :=
    Gateway.length_calls_eq (p.fetch_causal orgs) h
  rw [← and_assoc]
  refine ⟨?_, hlen, fun g' m hm hg => fetchFrom_congr h hm hg⟩
  cases p.fetchFrom_stands orgs g rounds with
  | @through d hc hs he =>
    have hsucceeds : p.Succeeds orgs (p.replies orgs g rounds) := by
      refine ⟨hs, fun leg hleg => ?_⟩
      rw [hc.currentLeg?] at hleg
      cases hleg
    exact ⟨⟨fun _ => hsucceeds, fun _ => ⟨d, he⟩⟩, fun hn => absurd hsucceeds hn⟩
  | @exceeded leg e hleg hs hx he =>
    have hfails : ¬p.Succeeds orgs (p.replies orgs g rounds) := by
      intro hsucceeds
      rw [hsucceeds.within leg hleg] at hx
      cases hx
    refine ⟨⟨?_, fun hs => absurd hs hfails⟩, fun _ => ⟨e, he, .exceeded hs hleg hx⟩⟩
    rintro ⟨d, hd⟩
    rw [he] at hd
    cases hd
  | @refused earlier reply leg e hsplit hleg hs hx hf he =>
    have hfails : ¬p.Succeeds orgs (p.replies orgs g rounds) := by
      rw [hsplit]
      exact not_succeeds_of_refused hleg hf
    refine ⟨⟨?_, fun hs => absurd hs hfails⟩, fun _ => ⟨e, he, .refused hsplit hs hleg hf⟩⟩
    rintro ⟨d, hd⟩
    rw [he] at hd
    cases hd
  | awaiting _ _ _ he => exact absurd he h

end Plan

def failingGateway : Gateway := fun calls =>
  if calls.length = 1 then
    .ofPages fun s => match s with
      | .openItems => ⟨[.object (Stream.openItems.record (.numbered 1))], some "c", true⟩
      | _ => ⟨[], none, false⟩
  else .ok .null

theorem fetchFrom_ended_sample :
    ((samplePlan none).fetchFrom [] failingGateway 2).ending ≠ .awaiting ∧
    ¬(samplePlan none).Succeeds [] ((samplePlan none).replies [] failingGateway 2) ∧
    (∃ e, ((samplePlan none).fetchFrom [] failingGateway 2).ending = .failed e ∧
      (samplePlan none).FailsWith [] ((samplePlan none).replies [] failingGateway 2) e) ∧
    ((samplePlan none).fetchFrom [] failingGateway 5) =
      (samplePlan none).fetchFrom [] failingGateway 2 := by
  have he : ((samplePlan none).fetchFrom [] failingGateway 2).ending =
      .failed (.response (.unexpectedShape "" .object)) := by rfl
  have h : ((samplePlan none).fetchFrom [] failingGateway 2).ending ≠ .awaiting := by
    rw [he]
    intro hc
    cases hc
  obtain ⟨hiff, hfails, -, hsame⟩ := (samplePlan none).fetchFrom_ended [] failingGateway 2 h
  have hn : ¬(samplePlan none).Succeeds [] ((samplePlan none).replies [] failingGateway 2) := by
    rw [← hiff, he]
    rintro ⟨d, hd⟩
    cases hd
  exact ⟨h, hn, hfails hn, hsame failingGateway 5 (by decide) fun _ _ => rfl⟩

end Docket.Sidebar
