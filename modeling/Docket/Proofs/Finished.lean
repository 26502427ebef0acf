import Docket.Proofs.Node
import Docket.Proofs.Plan
/-!
Fetches that are done. What they found is what the replies had for each stream up to its last page
in each scope, whatever the gateway.
-/

namespace Docket.Sidebar

namespace Plan

def legsFrom (p : Plan) (orgs : List Organization) (g : Gateway) (rounds : Nat) : List Leg :=
  legs (Scope.ofList orgs) (p.replies orgs g rounds)

variable (p : Plan) (orgs : List Organization) (g : Gateway) (rounds : Nat)

/-- A fetch that is done has had all pages of all scopes, and it holds the items of each stream's
pages up to the last and no others. -/
theorem fetchFrom_done {d : Digest} {unread : List Reply}
    (h : (p.fetchFrom orgs g rounds).ending = .done d unread) :
    unread = [] ∧ (p.legsFrom orgs g rounds).map Leg.scope = Scope.ofList orgs ∧
      (p.legsFrom orgs g rounds).flatMap Leg.pages = p.replies orgs g rounds ∧
      (∀ leg ∈ p.legsFrom orgs g rounds, leg.pages.AreWhole) ∧
      (p.fetchFrom orgs g rounds).calls.map Call.filters = (p.legsFrom orgs g rounds).flatMap
        (fun leg => List.replicate leg.pages.length (leg.scope.filters p.user)) ∧
      d.openAuthored.map .ok = ((p.legsFrom orgs g rounds).flatMap
        fun leg => leg.pages.nodes "openItems").map PullRequest.ofEntry ∧
      d.reviewRequested.map .ok = ((p.legsFrom orgs g rounds).flatMap
        fun leg => leg.pages.nodes "reviewRequested").map PullRequest.ofEntry ∧
      d.assigned.map .ok = ((p.legsFrom orgs g rounds).flatMap
        fun leg => leg.pages.nodes "assignments").map Issue.ofEntry ∧
      d.length =
        ((p.legsFrom orgs g rounds).flatMap fun leg => leg.pages.nodes "openItems").length +
        ((p.legsFrom orgs g rounds).flatMap fun leg => leg.pages.nodes "reviewRequested").length +
        ((p.legsFrom orgs g rounds).flatMap fun leg => leg.pages.nodes "assignments").length := by
  cases p.fetchFrom_stands orgs g rounds with
  | through hc hs he hn hf hi =>
    rw [he] at h
    cases h
    have ho := hi .openItems
    have hr := hi .reviewRequested
    have ha := hi .assignments
    have hlo := congrArg List.length ho
    have hlr := congrArg List.length hr
    have hla := congrArg List.length ha
    rw [List.length_map, List.length_map] at hlo hlr hla
    refine ⟨rfl, hc.scope, hc.pages, hc.areWhole, hf, ho, hr, ha, ?_⟩
    rw [Nat.add_assoc, Nat.add_comm]
    exact congrArg₂ _ (congrArg₂ _ hlr hla) hlo
  | exceeded _ _ _ he => rw [he] at h; cases h
  | refused _ _ _ _ _ he => rw [he] at h; cases h
  | awaiting _ _ _ he => rw [he] at h; cases h

end Plan

/-- A gateway that goes on having nodes for a stream that has ended. -/
def sampleGateway : Gateway := fun calls => .ofPages fun s =>
  match s, calls.length with
  | .openItems, 1 => ⟨[.object (Stream.openItems.record (.numbered 1)), .null], some "c", true⟩
  | .reviewRequested, n =>
    ⟨[.object (Stream.reviewRequested.record (.numbered n))], none, false⟩
  | _, _ => ⟨[], none, false⟩

theorem fetchFrom_done_sample :
    ((samplePlan none).fetchFrom sampleOrgs sampleGateway 3).ending =
      .done ⟨[.numbered 1, .numbered 3], [], [.numbered 1]⟩ [] ∧
    [.ok (.numbered 1), .ok (.numbered 3)] =
      (((samplePlan none).legsFrom sampleOrgs sampleGateway 3).flatMap
        fun leg => leg.pages.nodes "reviewRequested").map PullRequest.ofEntry := by
  have h : ((samplePlan none).fetchFrom sampleOrgs sampleGateway 3).ending =
      .done ⟨[.numbered 1, .numbered 3], [], [.numbered 1]⟩ [] := by rfl
  obtain ⟨-, -, -, -, -, -, hr, -⟩ :=
    (samplePlan none).fetchFrom_done sampleOrgs sampleGateway 3 h
  exact ⟨h, hr⟩

end Docket.Sidebar
