import Docket.Proofs.Node
import Docket.Proofs.Plan
/-!
A fetch from a server. Where every walk over the server's pages ends, the fetch ends too, with the
items of the walks and with as many calls for each scope as its longest walk has pages.
-/

namespace Docket.Sidebar

open Result (Value Record)

def longest (walk : (s : Stream) → List (List s.Item)) : Nat :=
  Stream.largest fun s => (walk s).length

namespace Server

def answer? (srv : Server) (call : Call) (s : Stream) : Option ServerPage :=
  match call.bindings.get? s.queryVariable, call.bindings.get? s.cursorVariable with
  | some (.text filter), some (.optionalText cursor) => some (srv s filter cursor)
  | _, _ => none

def Serves (srv : Server) (g : Gateway) : Prop :=
  ∀ (past : List Call) (call : Call) (s : Stream) (page : ServerPage),
    srv.answer? call s = some page → (g (past ++ [call])).Shows s page

def gateway (srv : Server) : Gateway := fun calls =>
  .ofPages fun s => (calls.getLast?.bind fun call => srv.answer? call s).getD ⟨[], none, false⟩

theorem serves_gateway (srv : Server) : srv.Serves srv.gateway := by
  intro past call s page h
  have hpage := Reply.shows_ofPages (fun s => (srv.answer? call s).getD ⟨[], none, false⟩) s
  rw [h, Option.getD_some] at hpage
  simpa only [gateway, List.getLast?_concat, Option.bind_some] using hpage

theorem answer?_callAfter (srv : Server) (t : Session) (leg : Leg) (s : Stream) :
    srv.answer? (t.callAfter leg) s =
      some (srv s (s.filter t.user leg.scope) (leg.pages.cursor s.key)) := by
  rw [answer?, t.get?_queryVariable, t.get?_cursorVariable]

variable {srv : Server}

theorem pending_eq_nil_iff_longest_le {filter : Stream → String}
    {walk : (s : Stream) → List (List s.Item)} {pages : Pages}
    (h : ∀ s, srv.Along s (filter s) (walk s) pages) :
    pages.pending = [] ↔ longest walk ≤ pages.length := by
  rw [Pages.pending_eq_nil_iff, longest, Stream.largest_le_iff]
  exact forall_congr' fun s => (h s).hasEnded_iff

theorem Serves.shows {g : Gateway} (hg : srv.Serves g) (p : Plan) (orgs : List Organization)
    (rounds : Nat) {k : Nat} {reply : Reply} (hk : (p.replies orgs g rounds)[k]? = some reply) :
    ∃ leg, currentLeg? (Scope.ofList orgs) ((p.replies orgs g rounds).take k) = some leg ∧
      ∀ s, reply.Shows s (srv s (s.filter p.user leg.scope) (leg.pages.cursor s.key)) := by
  have hlt := (List.getElem?_eq_some_iff.1 hk).1
  have hle : (p.replies orgs g rounds).length ≤ (p.fetchFrom orgs g rounds).calls.length :=
    Gateway.length_replies_le (p.fetch_causal orgs) g rounds
  have hkc : k < (p.fetchFrom orgs g rounds).calls.length := by omega
  obtain ⟨t, ht, -, -, hcalls⟩ := p.fetch_calls orgs (p.replies orgs g rounds)
  obtain ⟨leg, hleg, -, hcall⟩ := hcalls k _ (List.getElem?_eq_getElem hkc)
  change (p.fetchFrom orgs g rounds).calls[k] = t.callAfter leg at hcall
  refine ⟨leg, hleg, fun s => ?_⟩
  have hreply := p.getElem?_replies orgs g rounds k hlt
  rw [hk, List.take_succ_eq_append_getElem hkc, hcall] at hreply
  rw [Option.some.inj hreply, ← ht]
  exact hg _ _ _ _ (srv.answer?_callAfter t leg s)

theorem Serves.paged {g : Gateway} (hg : srv.Serves g) (p : Plan) (orgs : List Organization)
    (rounds : Nat) {earlier more : List Reply} (h : p.replies orgs g rounds = earlier ++ more)
    {leg : Leg} (hleg : leg ∈ legs (Scope.ofList orgs) earlier) (s : Stream) :
    srv.Paged s (s.filter p.user leg.scope) leg.pages := by
  intro k reply hk
  refine forall_pages_of_forall_replies (P := fun leg reply => ∀ s, reply.Shows s
    (srv s (s.filter p.user leg.scope) (leg.pages.cursor s.key))) ?_ hleg hk s
  intro j r hj
  have hlt := (List.getElem?_eq_some_iff.1 hj).1
  have hr : (p.replies orgs g rounds)[j]? = some r := by
    rw [h, List.getElem?_append_left hlt, hj]
  have hshows := hg.shows p orgs rounds hr
  rwa [h, List.take_append_of_le_length (Nat.le_of_lt hlt)] at hshows

section Fetch

variable {p : Plan} {orgs : List Organization} {g : Gateway} {rounds : Nat}
  {walk : Scope → (s : Stream) → List (List s.Item)} {earlier more : List Reply} {leg : Leg}
  (hg : srv.Serves g)
  (hw : ∀ scope ∈ Scope.ofList orgs, ∀ s : Stream,
    srv.Walks s (s.filter p.user scope) none (walk scope s))
include hg hw

theorem Serves.along (h : p.replies orgs g rounds = earlier ++ more)
    (hleg : leg ∈ legs (Scope.ofList orgs) earlier) (s : Stream) :
    srv.Along s (s.filter p.user leg.scope) (walk leg.scope s) leg.pages :=
  (hg.paged p orgs rounds h hleg s).along (hw _ (scope_mem_of_mem_legs hleg) s)

theorem Serves.length_lt_longest (h : p.replies orgs g rounds = earlier ++ more)
    (hleg : leg ∈ legs (Scope.ofList orgs) earlier) (hp : leg.pages.pending ≠ []) :
    leg.pages.length < longest (walk leg.scope) := by
  rw [← Nat.not_le]
  exact mt (pending_eq_nil_iff_longest_le (hg.along hw h hleg)).2 hp

theorem Serves.length_eq_longest (h : p.replies orgs g rounds = earlier ++ more)
    (hleg : leg ∈ legs (Scope.ofList orgs) earlier) (hwhole : leg.pages.AreWhole) :
    leg.pages.length = longest (walk leg.scope) := by
  have hwalks := hw _ (scope_mem_of_mem_legs hleg)
  have hpaged := hg.paged p orgs rounds h hleg
  obtain ⟨pages, reply, heq, he, hp⟩ := hwhole
  have hle := (pending_eq_nil_iff_longest_le (hg.along hw h hleg)).1 hp
  rw [heq] at hpaged
  have hlt := mt (pending_eq_nil_iff_longest_le fun s => (hpaged s).of_concat.along (hwalks s)).2 he
  rw [heq, List.length_append, List.length_singleton] at hle ⊢
  omega

theorem Serves.fits {reply : Reply} (h : p.replies orgs g rounds = earlier ++ [reply])
    (hleg : currentLeg? (Scope.ofList orgs) earlier = some leg) :
    reply.Fits leg.pages.pending := by
  have hr : (p.replies orgs g rounds)[earlier.length]? = some reply := by
    rw [h, List.getElem?_concat_length]
  obtain ⟨leg', hleg', hshows⟩ := hg.shows p orgs rounds hr
  rw [h, List.take_left, hleg] at hleg'
  cases hleg'
  obtain ⟨o, _, _, rfl, -⟩ := hshows .openItems
  refine ⟨o, rfl, fun s hs => ?_⟩
  have halong := hg.along hw h (mem_legs_of_currentLeg? hleg).1 s
  obtain ⟨o', ho, hf⟩ := halong.fits (Pages.mem_pending.1 hs) (hshows s)
  cases ho
  exact hf

theorem Serves.items_eq (hc : Complete (Scope.ofList orgs) (p.replies orgs g rounds)) {s : Stream}
    {items : List s.Item}
    (hi : items.map Except.ok = ((legs (Scope.ofList orgs) (p.replies orgs g rounds)).flatMap
      fun leg => leg.pages.nodes s.key).map s.readItem) :
    items = (Scope.ofList orgs).flatMap fun scope => (walk scope s).flatten := by
  have hleg : ∀ leg ∈ legs (Scope.ofList orgs) (p.replies orgs g rounds),
      (leg.pages.nodes s.key).map s.readItem = (walk leg.scope s).flatten.map .ok := by
    intro leg hmem
    obtain ⟨_, _, _, _, hp⟩ := hc.areWhole leg hmem
    have halong := hg.along hw (List.append_nil _).symm hmem s
    exact halong.nodes_of_hasEnded (Pages.pending_eq_nil_iff.1 hp s)
  rw [List.map_flatMap, hc.flatMap_eq (g := fun scope => (walk scope s).flatten.map .ok) hleg,
    ← List.map_flatMap] at hi
  exact (List.map_inj_right fun _ _ h => Except.ok.inj h).1 hi

end Fetch

end Server

theorem Plan.exists_fetchFrom_of_walks (p : Plan) (orgs : List Organization) {srv : Server}
    {g : Gateway} (hg : srv.Serves g) (walk : Scope → (s : Stream) → List (List s.Item))
    (hw : ∀ scope ∈ Scope.ofList orgs, ∀ s : Stream,
      srv.Walks s (s.filter p.user scope) none (walk scope s))
    (hl : ∀ limit, p.pageLimit = some limit → ∀ scope ∈ Scope.ofList orgs, ∀ s : Stream,
      (walk scope s).length ≤ limit.pages) :
    ∃ rounds d, (p.fetchFrom orgs g rounds).ending = .done d [] ∧
      d.openAuthored = (Scope.ofList orgs).flatMap (fun scope => (walk scope .openItems).flatten) ∧
      d.reviewRequested =
        (Scope.ofList orgs).flatMap (fun scope => (walk scope .reviewRequested).flatten) ∧
      d.assigned = (Scope.ofList orgs).flatMap (fun scope => (walk scope .assignments).flatten) ∧
      (p.fetchFrom orgs g rounds).calls.map Call.filters = (Scope.ofList orgs).flatMap
        fun scope => List.replicate (longest (walk scope)) (scope.filters p.user) := by
  -- in as many rounds as the scopes have pages a run that still waits would have had one too many
  let rounds := pageCount (fun scope => longest (walk scope)) (Scope.ofList orgs)
  have hall := (List.append_nil (p.replies orgs g rounds)).symm
  refine ⟨rounds, ?_⟩
  cases p.fetchFrom_stands orgs g rounds with
  | @through d hc hs he hn hf hi =>
    refine ⟨d, he, hg.items_eq hw hc (hi .openItems), hg.items_eq hw hc (hi .reviewRequested),
      hg.items_eq hw hc (hi .assignments), ?_⟩
    rw [hf]
    refine hc.flatMap_eq fun leg hmem => ?_
    rw [hg.length_eq_longest hw hall hmem (hc.areWhole leg hmem)]
  | @exceeded leg e hleg hs hx he hn =>
    exfalso
    obtain ⟨hmem, hp⟩ := mem_legs_of_currentLeg? hleg
    have hlt := hg.length_lt_longest hw hall hmem hp
    obtain ⟨limit, hlimit, hle⟩ := Leg.exists_limit_of_excess? hx
    have hlongest := Stream.largest_le_iff.2 (hl limit hlimit _ (scope_mem_of_mem_legs hmem))
    exact Nat.not_lt.2 hle (Nat.lt_of_lt_of_le hlt hlongest)
  | @refused earlier reply leg e hsplit hleg hs hx hf he hn =>
    rw [Reply.fault?_eq_none_iff.2 (hg.fits hw hsplit hleg)] at hf
    cases hf
  | @awaiting leg hleg hs hx he hn =>
    exfalso
    have hlength : (p.replies orgs g rounds).length = rounds :=
      Gateway.length_replies_of_awaiting he
    have hlt : (p.replies orgs g rounds).length < rounds :=
      length_lt_of_currentLeg?
        (fun leg hmem hwhole => Nat.le_of_eq (hg.length_eq_longest hw hall hmem hwhole))
        (fun leg hmem hp => hg.length_lt_longest hw hall hmem hp) hleg
    omega

def sampleItems : (s : Stream) → String → List (List s.Item)
  | .openItems, "org:north is:open is:pr author:ann archived:false" =>
    [[.numbered 1, .numbered 2], [.numbered 3]]
  | .openItems, _ => [[.numbered 4]]
  | .reviewRequested, _ => [[]]
  | .assignments, _ => [[.numbered 5]]

theorem exists_fetchFrom_sample :
    ∃ rounds d, ((samplePlan (some ⟨2, by decide⟩)).fetchFrom sampleOrgs
        (Server.ofItems sampleItems).gateway rounds).ending = .done d [] ∧
      d = ⟨[], [.numbered 5, .numbered 5],
        [.numbered 1, .numbered 2, .numbered 3, .numbered 4]⟩ ∧
      ((samplePlan (some ⟨2, by decide⟩)).fetchFrom sampleOrgs
        (Server.ofItems sampleItems).gateway rounds).calls.length = 3 := by
  have hscopes : ∀ scope ∈ Scope.ofList sampleOrgs, ∀ s : Stream,
      sampleItems s (s.filter ⟨"ann", by decide⟩ scope) ≠ [] ∧
        (sampleItems s (s.filter ⟨"ann", by decide⟩ scope)).length ≤ 2 := by
    simp only [sampleOrgs, Scope.ofList, List.map, List.forall_mem_cons]
    refine ⟨fun s => ?_, fun s => ?_, fun _ h => absurd h List.not_mem_nil⟩
    · cases s <;> decide
    · cases s <;> decide
  obtain ⟨rounds, d, he, ho, hr, ha, hf⟩ :=
    Plan.exists_fetchFrom_of_walks (samplePlan (some ⟨2, by decide⟩)) sampleOrgs
      (Server.serves_gateway (Server.ofItems sampleItems))
      (fun scope s => sampleItems s (s.filter ⟨"ann", by decide⟩ scope))
      (fun scope h s => Server.walks_ofItems sampleItems (hscopes scope h s).1)
      (fun limit hl scope h s => by cases hl; exact (hscopes scope h s).2)
  have hlen := congrArg List.length hf
  rw [List.length_map] at hlen
  refine ⟨rounds, d, he, ?_, hlen.trans (by decide)⟩
  obtain ⟨review, assigned, authored⟩ := d
  simp only at ho hr ha
  rw [ho, hr, ha]
  decide

end Docket.Sidebar
