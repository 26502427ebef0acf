import Docket.Proofs.Plan
/-!
What a fetch asks for. All its calls are of one text, and what a call binds to the variables follows
from the scope that the fetch is in and the pages it has had there.
-/

namespace Docket.Sidebar

open Query (Document VariableName)

/-- Every call of a fetch is of the same text, asks with the filters of the current scope and goes
on from the cursor that each stream is at. -/
theorem Plan.fetchFrom_calls (p : Plan) (orgs : List Organization) (g : Gateway) (rounds : Nat) :
    (∀ k < (p.replies orgs g rounds).length, (p.replies orgs g rounds)[k]? =
      some (g ((p.fetchFrom orgs g rounds).calls.take (k + 1)))) ∧
    ∃ d text, document p.pageSize.size = .ok d ∧ d.variableNames = variableNames ∧
      ∀ (k : Nat) (call : Call), (p.fetchFrom orgs g rounds).calls[k]? = some call →
        call.document = d ∧ Entries.keys call.bindings.entries = variableNames ∧
        call.document.render call.bindings = .ok text ∧
        ∃ leg, currentLeg? (Scope.ofList orgs) ((p.replies orgs g rounds).take k) = some leg ∧
          ∀ s : Stream,
            call.bindings.get? s.queryVariable = some (.text (s.filter p.user leg.scope)) ∧
            call.bindings.get? s.cursorVariable =
              some (.optionalText (leg.pages.cursor s.key)) ∧
            (leg.pages ≠ [] → leg.pages.hasEnded s.key = false →
              (leg.pages.cursor s.key).isSome = true) := by
  obtain ⟨t, ht, hd, hv, hcalls⟩ := p.fetch_calls orgs (p.replies orgs g rounds)
  refine ⟨p.getElem?_replies orgs g rounds, t.document,
    t.document.header declarations ++ " " ++ t.document.selections.render, hd, hv, ?_⟩
  intro k call hk
  obtain ⟨leg, hleg, hs, rfl⟩ := hcalls k call hk
  refine ⟨rfl, t.keys_callAfter leg, Session.render_callAfter hv leg, leg, hleg, fun s => ?_⟩
  rw [t.get?_queryVariable, t.get?_cursorVariable, ht]
  exact ⟨rfl, rfl, fun hne he => hs.isSome_cursor hne he⟩

end Docket.Sidebar
