import Docket.Proofs.Gateway
import Docket.Proofs.Outcome
/-!
Runs of a plan against a gateway. The query compiles for every page size that a plan may have, so a
run is a session's from its first call on.
-/

namespace Docket.Sidebar

open Query (Document VariableName)

def variableNames : List VariableName :=
  [Stream.assignments.cursorVariable, Stream.assignments.queryVariable,
    Stream.openItems.cursorVariable, Stream.openItems.queryVariable,
    Stream.reviewRequested.cursorVariable, Stream.reviewRequested.queryVariable]

def declarations : List String :=
  ["$assigneeCursor: String", "$assigneeQuery: String!", "$openCursor: String",
    "$openQuery: String!", "$reviewCursor: String", "$reviewQuery: String!"]

theorem map_variableNames_document (n : Nat) :
    (document (n + 1)).map Document.variableNames = .ok variableNames := by rfl

theorem PageSize.exists_document (size : PageSize) :
    ∃ d, document size.size = .ok d ∧ d.variableNames = variableNames := by
  obtain ⟨n, hn⟩ := Nat.exists_eq_succ_of_ne_zero (Nat.ne_of_gt size.pos)
  have h := map_variableNames_document n
  rw [← Nat.succ_eq_add_one, ← hn] at h
  cases hd : document size.size with
  | error e => rw [hd] at h; cases h
  | ok d =>
    rw [hd] at h
    exact ⟨d, rfl, Except.ok.inj h⟩

namespace Session

theorem keys_callAfter (t : Session) (leg : Leg) :
    Entries.keys (t.callAfter leg).bindings.entries = variableNames := by rfl

theorem declare_callAfter (t : Session) (leg : Leg) :
    variableNames.mapM (Document.declare (t.callAfter leg).bindings) = .ok declarations := by rfl

theorem render_callAfter {t : Session} (h : t.document.variableNames = variableNames)
    (leg : Leg) : t.document.render (t.callAfter leg).bindings =
      .ok (t.document.header declarations ++ " " ++ t.document.selections.render) := by
  rw [Document.render, h, t.declare_callAfter]
  rfl

theorem get?_queryVariable (t : Session) (leg : Leg) (s : Stream) :
    (t.callAfter leg).bindings.get? s.queryVariable = some (.text (s.filter t.user leg.scope)) := by
  cases s <;> rfl

theorem get?_cursorVariable (t : Session) (leg : Leg) (s : Stream) :
    (t.callAfter leg).bindings.get? s.cursorVariable =
      some (.optionalText (leg.pages.cursor s.key)) := by
  cases s <;> rfl

end Session

def Call.Sends (c : Call) (d : Document) (text : String) : Prop :=
  c.document = d ∧ d.render c.bindings = .ok text

def Digest.get (d : Digest) : (s : Stream) → List s.Item
  | .openItems => d.openAuthored
  | .reviewRequested => d.reviewRequested
  | .assignments => d.assigned

theorem Collection.get_toDigest (c : Collection) (s : Stream) :
    c.toDigest.get s = (c.get s).items := by
  cases s <;> rfl

namespace Plan

theorem exists_session (p : Plan) : ∃ d, document p.pageSize.size = .ok d ∧
    d.variableNames = variableNames ∧ p.session = .ok ⟨d, p.user, p.pageLimit⟩ := by
  obtain ⟨d, hd, hv⟩ := p.pageSize.exists_document
  exact ⟨d, hd, hv, by simp only [session, hd, bind, Except.bind]⟩

theorem fetch_eq (p : Plan) (orgs : List Organization) (replies : List Reply) :
    ∃ d, document p.pageSize.size = .ok d ∧ d.variableNames = variableNames ∧
      p.fetch orgs replies =
        (Session.fetchScopes ⟨d, p.user, p.pageLimit⟩ (Scope.ofList orgs) .empty replies).map
          Collection.toDigest := by
  obtain ⟨d, hd, hv, hs⟩ := p.exists_session
  exact ⟨d, hd, hv, by simp only [fetch, hs]⟩

theorem fetch_outcome (p : Plan) (orgs : List Organization) (replies : List Reply) :
    ∃ taken rest, replies = taken ++ rest ∧
      (∀ leg ∈ legs (Scope.ofList orgs) taken, leg.pages.AreSound) ∧
      ((Complete (Scope.ofList orgs) taken ∧ ∃ d,
          (p.fetch orgs replies).ending = .done d rest ∧
          (p.fetch orgs replies).calls.length = taken.length ∧
          (p.fetch orgs replies).calls.map Call.filters = (legs (Scope.ofList orgs) taken).flatMap
            (fun leg => List.replicate leg.pages.length (leg.scope.filters p.user)) ∧
          ∀ s, (d.get s).map Except.ok = ((legs (Scope.ofList orgs) taken).flatMap
            fun leg => leg.pages.nodes s.key).map s.readItem) ∨
        ∃ leg, currentLeg? (Scope.ofList orgs) taken = some leg ∧
          leg.Halts p.pageLimit taken.length rest (p.fetch orgs replies)) := by
  obtain ⟨d, -, -, hf⟩ := p.fetch_eq orgs replies
  rw [hf]
  obtain ⟨taken, rest, h, hs, ⟨hc, c, he, hl, hfs, hi⟩ | ⟨leg, hc, hh⟩⟩ :=
    Session.fetchScopes_outcome ⟨d, p.user, p.pageLimit⟩ (Scope.ofList orgs) .empty replies
  · refine ⟨taken, rest, h, hs, .inl ⟨hc, c.toDigest, ?_, ?_, ?_, ?_⟩⟩
    · rw [Run.map, Run.bind_of_done he]
      rfl
    · rw [Run.calls_map, hl]
    · rw [Run.calls_map, hfs]
    · intro s
      rw [Collection.get_toDigest, hi s]
      cases s <;> rfl
  · exact ⟨taken, rest, h, hs, .inr ⟨leg, hc, hh.bind _⟩⟩

theorem fetch_calls (p : Plan) (orgs : List Organization) (replies : List Reply) :
    ∃ t : Session, t.user = p.user ∧ document p.pageSize.size = .ok t.document ∧
      t.document.variableNames = variableNames ∧ ∀ (k : Nat) (call : Call),
        (p.fetch orgs replies).calls[k]? = some call →
          ∃ leg, currentLeg? (Scope.ofList orgs) (replies.take k) = some leg ∧
            leg.pages.AreSound ∧ call = t.callAfter leg := by
  obtain ⟨d, hd, hv, hf⟩ := p.fetch_eq orgs replies
  refine ⟨⟨d, p.user, p.pageLimit⟩, rfl, hd, hv, fun k call hk => ?_⟩
  rw [hf, Run.calls_map] at hk
  exact Session.fetchScopes_calls _ _ _ _ hk

theorem fetch_sends (p : Plan) (orgs : List Organization) (replies : List Reply) :
    ∃ d text, document p.pageSize.size = .ok d ∧
      ∀ c ∈ (p.fetch orgs replies).calls, c.Sends d text := by
  obtain ⟨t, -, hd, hv, hcalls⟩ := p.fetch_calls orgs replies
  refine ⟨t.document, t.document.header declarations ++ " " ++ t.document.selections.render, hd,
    fun c hc => ?_⟩
  obtain ⟨k, hk⟩ := List.mem_iff_getElem?.1 hc
  obtain ⟨leg, -, -, rfl⟩ := hcalls k c hk
  exact ⟨rfl, Session.render_callAfter hv leg⟩

theorem length_calls_le_of_error (p : Plan) (orgs : List Organization) {replies : List Reply}
    {k : Nat} {e : Failure} (hk : replies[k]? = some (.error e)) :
    (p.fetch orgs replies).calls.length ≤ k + 1 := by
  obtain ⟨taken, rest, rfl, hs, hend⟩ := p.fetch_outcome orgs replies
  have hpages : (legs (Scope.ofList orgs) taken).flatMap Leg.pages = taken := by
    rcases hend with ⟨hc, -⟩ | ⟨leg, hleg, -⟩
    · exact hc.pages
    · exact flatMap_legs_of_currentLeg? hleg
  have hle : taken.length ≤ k := by
    by_contra hlt
    rw [List.getElem?_append_left (by omega)] at hk
    have hmem : Except.error e ∈ (legs (Scope.ofList orgs) taken).flatMap Leg.pages := by
      rw [hpages]
      exact List.mem_iff_getElem?.2 ⟨k, hk⟩
    obtain ⟨leg, hleg, hpage⟩ := List.mem_flatMap.1 hmem
    obtain ⟨value, hvalue⟩ := (hs leg hleg).exists_eq_ok hpage
    cases hvalue
  rcases hend with ⟨-, d, -, hl, -⟩ | ⟨leg, -, hh⟩
  · omega
  · have hcalls := hh.length_calls_le
    omega

def replies (p : Plan) (orgs : List Organization) (g : Gateway) (rounds : Nat) : List Reply :=
  g.replies (p.fetch orgs) rounds

def fetchFrom (p : Plan) (orgs : List Organization) (g : Gateway) (rounds : Nat) : Run Digest :=
  p.fetch orgs (p.replies orgs g rounds)

/-- Where a fetch stands after the replies it was given: through all scopes, out of pages, refused
by the last reply, or awaiting the next. -/
inductive Stands (p : Plan) (orgs : List Organization) (replies : List Reply) (r : Run Digest) :
    Prop
  | through {d : Digest} : Complete (Scope.ofList orgs) replies →
    (∀ leg ∈ legs (Scope.ofList orgs) replies, leg.pages.AreSound) →
    r.ending = .done d [] → r.calls.length = replies.length →
    r.calls.map Call.filters = (legs (Scope.ofList orgs) replies).flatMap
      (fun leg => List.replicate leg.pages.length (leg.scope.filters p.user)) →
    (∀ s, (d.get s).map Except.ok = ((legs (Scope.ofList orgs) replies).flatMap
      fun leg => leg.pages.nodes s.key).map s.readItem) → Stands p orgs replies r
  | exceeded {leg : Leg} {e : Failure} : currentLeg? (Scope.ofList orgs) replies = some leg →
    (∀ leg ∈ legs (Scope.ofList orgs) replies, leg.pages.AreSound) →
    leg.excess? p.pageLimit = some e → r.ending = .failed e → r.calls.length = replies.length →
    Stands p orgs replies r
  | refused {earlier : List Reply} {reply : Reply} {leg : Leg} {e : Failure} :
    replies = earlier ++ [reply] → currentLeg? (Scope.ofList orgs) earlier = some leg →
    (∀ leg ∈ legs (Scope.ofList orgs) earlier, leg.pages.AreSound) →
    leg.excess? p.pageLimit = none → reply.fault? leg.pages.pending = some e →
    r.ending = .failed e → r.calls.length = replies.length → Stands p orgs replies r
  | awaiting {leg : Leg} : currentLeg? (Scope.ofList orgs) replies = some leg →
    (∀ leg ∈ legs (Scope.ofList orgs) replies, leg.pages.AreSound) →
    leg.excess? p.pageLimit = none → r.ending = .awaiting →
    r.calls.length = replies.length + 1 → Stands p orgs replies r

theorem fetchFrom_stands (p : Plan) (orgs : List Organization) (g : Gateway) (rounds : Nat) :
    p.Stands orgs (p.replies orgs g rounds) (p.fetchFrom orgs g rounds) := by
  have hle : (p.replies orgs g rounds).length ≤ (p.fetchFrom orgs g rounds).calls.length :=
    Gateway.length_replies_le (p.fetch_causal orgs) g rounds
  obtain ⟨taken, rest, hgiven, hs, ⟨hc, d, he, hl, hf, hi⟩ | ⟨leg, hleg, hh⟩⟩ :=
    p.fetch_outcome orgs (p.replies orgs g rounds)
  · rw [hgiven, fetchFrom, hl, List.length_append] at hle
    obtain rfl : rest = [] := List.eq_nil_of_length_eq_zero (by omega)
    rw [List.append_nil] at hgiven
    rw [hgiven]
    exact .through hc hs he hl hf hi
  · rw [← fetchFrom] at hh
    generalize p.fetchFrom orgs g rounds = r at hh hle
    rw [hgiven, List.length_append] at hle
    rw [hgiven]
    cases hh with
    | exceeded he hr hl =>
      obtain rfl : rest = [] := List.eq_nil_of_length_eq_zero (by omega)
      rw [List.append_nil]
      exact .exceeded hleg hs he hr hl
    | @refused reply rest _ _ he hf hr hl =>
      rw [List.length_cons] at hle
      obtain rfl : rest = [] := List.eq_nil_of_length_eq_zero (by omega)
      exact .refused rfl hleg hs he hf hr (by rw [hl, List.length_append, List.length_singleton])
    | awaiting he hr hl =>
      rw [List.append_nil]
      exact .awaiting hleg hs he hr hl

theorem getElem?_replies (p : Plan) (orgs : List Organization) (g : Gateway) (rounds k : Nat)
    (hk : k < (p.replies orgs g rounds).length) :
    (p.replies orgs g rounds)[k]? = some (g ((p.fetchFrom orgs g rounds).calls.take (k + 1))) :=
  g.getElem?_replies (p.fetch_causal orgs) rounds k hk

end Plan

def samplePlan (limit : Option PageLimit) : Plan := ⟨⟨"ann", by decide⟩, .full, limit⟩

def sampleOrgs : List Organization := [⟨"north", by decide⟩, ⟨"south", by decide⟩]

end Docket.Sidebar
