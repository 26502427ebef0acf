import Docket.Proofs.Server
import Docket.Proofs.Stage
import Mathlib.Algebra.Order.BigOperators.Group.List
import Mathlib.Algebra.Order.Ring.Nat
/-!
The bound on pages. A scope asks for no more pages than the bound allows, so that every fetch under
a bound comes to an end; it fails for the bound just where a scope has had all its pages and a
stream wants more, and a fetch that is done is the same under any looser bound.
-/

namespace Docket.Sidebar

def LooserThan (limit' limit : Option PageLimit) : Prop :=
  ∀ m, limit' = some m → ∃ n, limit = some n ∧ n.pages ≤ m.pages

namespace Session

variable {t : Session} {limit : PageLimit}

theorem lt_of_exceeded? (hl : t.pageLimit = some limit) {scope : Scope} {pages : Nat}
    {c : Collection} (h : t.exceeded? scope pages c = none) : pages < limit.pages := by
  rw [exceeded?, Option.map_eq_none_iff, hl, Option.filter_some] at h
  by_cases hle : limit.pages ≤ pages
  · simp [hle] at h
  · exact Nat.lt_of_not_le hle

theorem Course.length_calls_le (hl : t.pageLimit = some limit) {scope : Scope} {pages : Nat}
    {state : ScopeState} {c : Collection} {replies : List Reply} {r : Run Collection}
    (h : t.Course scope pages state c replies r) (hle : pages ≤ limit.pages) :
    pages + r.calls.length ≤ limit.pages := by
  induction h with
  | exceeded _ => exact hle
  | awaiting he => exact lt_of_exceeded? hl he
  | refused he _ => exact lt_of_exceeded? hl he
  | finished he _ _ => exact lt_of_exceeded? hl he
  | @advanced pages _ _ _ _ _ r he _ _ _ ih =>
    have hrest := ih (lt_of_exceeded? hl he)
    show pages + (r.calls.length + 1) ≤ limit.pages
    omega

theorem length_calls_stage_le (hl : t.pageLimit = some limit) (scope : Scope) (c : Collection)
    (replies : List Reply) : (t.stage scope c replies).run.calls.length ≤ limit.pages := by
  have hcourse := t.fetchScope_course scope 0 .initial c.beginScope replies
  have hle := hcourse.length_calls_le hl (Nat.zero_le _)
  rwa [Nat.zero_add] at hle

variable {limit' : Option PageLimit} (hloose : LooserThan limit' t.pageLimit)
include hloose

theorem exceeded?_of_looser {scope : Scope} {pages : Nat} {c : Collection}
    (h : t.exceeded? scope pages c = none) :
    exceeded? { t with pageLimit := limit' } scope pages c = none := by
  rw [exceeded?, Option.map_eq_none_iff, Option.filter_eq_none_iff]
  intro m hm
  obtain ⟨n, hn, hle⟩ := hloose m hm
  have hlt := lt_of_exceeded? hn h
  rw [decide_eq_true_eq]
  omega

theorem Course.fetchScope_eq {scope : Scope} {pages : Nat} {state : ScopeState} {c : Collection}
    {replies : List Reply} {r : Run Collection} (h : t.Course scope pages state c replies r)
    (hr : ∀ e, r.ending ≠ .failed e) :
    fetchScope { t with pageLimit := limit' } scope pages state c replies = r := by
  induction h with
  | exceeded _ => exact absurd rfl (hr _)
  | refused _ _ => exact absurd rfl (hr _)
  | awaiting he =>
    rw [fetchScope.eq_def, exceeded?_of_looser hloose he]
    rfl
  | finished he hd hs =>
    rw [fetchScope, exceeded?_of_looser hloose he]
    simp only [hd, hs, if_true]
    rfl
  | advanced he hd hs _ ih =>
    rw [fetchScope, exceeded?_of_looser hloose he]
    simp only [hd, hs, if_false]
    rw [ih hr]
    rfl

theorem fetchScopes_eq (scopes : List Scope) (c : Collection) (replies : List Reply)
    (h : ∀ e, (t.fetchScopes scopes c replies).ending ≠ .failed e) :
    fetchScopes { t with pageLimit := limit' } scopes c replies =
      t.fetchScopes scopes c replies := by
  induction scopes generalizing c replies with
  | nil => rfl
  | cons scope rest ih =>
    rw [fetchScopes] at h
    rw [fetchScopes, fetchScopes]
    have hcourse := t.fetchScope_course scope 0 .initial c.beginScope replies
    generalize t.fetchScope scope 0 .initial c.beginScope replies = r at h hcourse
    have hr : ∀ e, r.ending ≠ .failed e := by
      intro e he
      exact h e (by simp [Run.bind, he])
    rw [hcourse.fetchScope_eq hloose hr]
    cases he : r.ending with
    | done d unread =>
      rw [Run.bind_of_done he] at h
      rw [Run.bind_of_done he, Run.bind_of_done he, ih d unread h]
    | failed e => exact absurd he (hr e)
    | awaiting => simp only [Run.bind, he]

end Session

/-- Two programs that differ only where the first one fails are given the same replies, up to that
failure. -/
theorem Gateway.replies_eq_of_not_failed {α : Type} {program program' : List Reply → Run α}
    (h : ∀ rs, (∀ e, (program rs).ending ≠ .failed e) → program' rs = program rs) (g : Gateway)
    {n : Nat} (hn : ∀ e, (program (g.replies program n)).ending ≠ .failed e) :
    g.replies program' n = g.replies program n := by
  induction n with
  | zero => rfl
  | succ n ih =>
    by_cases ha : (program (g.replies program n)).ending = .awaiting
    · have hopen : ∀ e, (program (g.replies program n)).ending ≠ .failed e := by
        intro e he
        cases ha.symm.trans he
      have hsame := ih hopen
      have hrun := h _ hopen
      rw [replies_succ_of_awaiting ha, replies_succ_of_awaiting (by rw [hsame, hrun, ha]), hsame,
        hrun]
    · have hs := replies_succ_of_ne ha
      rw [hs] at hn
      have hsame := ih hn
      rw [hs, replies_succ_of_ne (by rw [hsame, h _ hn]; exact ha), hsame]

theorem Plan.fetch_eq_of_looser {p : Plan} {limit' : Option PageLimit}
    (hloose : LooserThan limit' p.pageLimit) (orgs : List Organization) (replies : List Reply)
    (h : ∀ e, (p.fetch orgs replies).ending ≠ .failed e) :
    fetch { p with pageLimit := limit' } orgs replies = p.fetch orgs replies := by
  obtain ⟨d, hd, -, hs⟩ := p.exists_session
  have hs' : session { p with pageLimit := limit' } = .ok ⟨d, p.user, limit'⟩ := by
    simp only [session, hd, bind, Except.bind]
  simp only [fetch, hs, hs'] at h ⊢
  have hopen : ∀ e, (Session.fetchScopes ⟨d, p.user, p.pageLimit⟩ (Scope.ofList orgs) .empty
      replies).ending ≠ .failed e := by
    intro e he
    exact h e ((Run.map_failed_iff _ _ _).2 he)
  have heq := Session.fetchScopes_eq (t := ⟨d, p.user, p.pageLimit⟩) hloose _ _ _ hopen
  rw [← heq]

theorem Pages.AreSound.exists_object {pages : Pages} (h : pages.AreSound) {reply : Reply}
    (hr : reply ∈ pages) : ∃ o, reply = .ok (.object o) := by
  obtain ⟨k, hk⟩ := List.mem_iff_getElem?.1 hr
  obtain ⟨o, ho, -⟩ := h k reply hk
  exact ⟨o, ho⟩

theorem Reply.eq_error_of_fault? {pending : List Stream} {reply : Reply} {s : Stream}
    {scope : String} {pages : Nat} (h : reply.fault? pending = some (.pageLimit s scope pages)) :
    reply = .error (.pageLimit s scope pages) := by
  rcases reply with e | value
  · cases h
    rfl
  · cases value with
    | object o =>
      obtain ⟨stream, -, hf⟩ := List.exists_of_findSome?_eq_some h
      unfold Stream.fault? at hf
      split at hf
      · cases hf
      · split at hf <;> cases hf
    | _ => cases h

/-- The scope has had all the pages it may, each as it should be, and a stream is the first that
wants more. -/
structure Stage.Exceeds (stage : Stage) (limit : PageLimit) (s : Stream) : Prop where
  areSound : stage.leg.pages.AreSound
  length_eq : stage.leg.pages.length = limit.pages
  head?_pending : stage.leg.pages.pending.head? = some s

theorem Leg.excess?_eq {leg : Leg} {limit : PageLimit} {s : Stream}
    (hs : leg.pages.pending.head? = some s) (hl : limit.pages ≤ leg.pages.length) :
    leg.excess? (some limit) = some (.pageLimit s leg.scope.label limit.pages) := by
  rw [excess?, Option.filter_some, decide_eq_true hl, hs]
  rfl

namespace Plan

variable {p : Plan} {limit : PageLimit} (hl : p.pageLimit = some limit) (orgs : List Organization)
  (g : Gateway) (rounds : Nat)
include hl

theorem length_calls_le_of_mem_stages {stage : Stage} (h : stage ∈ p.stages orgs g rounds) :
    stage.run.calls.length ≤ limit.pages := by
  obtain ⟨t, c, given, -, ht, heq⟩ := p.exists_eq_stage orgs g rounds h
  rw [heq]
  exact Session.length_calls_stage_le (ht.trans hl) _ c given

theorem length_calls_fetchFrom_le :
    (p.fetchFrom orgs g rounds).calls.length ≤ limit.pages * max 1 orgs.length := by
  have hscopes : (Scope.ofList orgs).length = max 1 orgs.length := by
    cases orgs with
    | nil => rfl
    | cons org rest =>
      show ((org :: rest).map some).length = _
      rw [List.length_map, List.length_cons]
      omega
  have hstages : (p.stages orgs g rounds).length ≤ max 1 orgs.length := by
    have hle := (p.scopes_stages orgs g rounds).length_le
    rwa [List.length_map, hscopes] at hle
  have hsum : ((p.stages orgs g rounds).map fun stage => stage.run.calls.length).sum ≤
      ((p.stages orgs g rounds).map fun stage => stage.run.calls.length).length • limit.pages := by
    refine List.sum_le_card_nsmul _ _ fun n hn => ?_
    obtain ⟨stage, hmem, rfl⟩ := List.mem_map.1 hn
    exact p.length_calls_le_of_mem_stages hl orgs g rounds hmem
  rw [p.calls_fetchFrom, List.length_flatMap]
  rw [List.length_map, Nat.nsmul_eq_mul, Nat.mul_comm] at hsum
  exact hsum.trans (Nat.mul_le_mul_left _ hstages)

theorem fetchFrom_pageLimit_iff (s : Stream) (scope : String) (pages : Nat) :
    ((p.fetchFrom orgs g rounds).ending = .failed (.pageLimit s scope pages) ∧
        .error (.pageLimit s scope pages) ∉ p.replies orgs g rounds) ↔
      ∃ stage ∈ p.stages orgs g rounds, stage.Exceeds limit s ∧
        stage.leg.scope.label = scope ∧ limit.pages = pages := by
  constructor
  · rintro ⟨he, hnot⟩
    obtain ⟨stage, hmem, he⟩ := (p.fetchFrom_failed_iff orgs g rounds _).1 he
    have hle := p.length_calls_le_of_mem_stages hl orgs g rounds hmem
    cases p.stands_of_mem orgs g rounds hmem with
    | through _ _ hd _ => cases hd.symm.trans he
    | @exceeded leg r e hs hp hx hf hn =>
      obtain ⟨s', hs'⟩ := Option.ne_none_iff_exists'.1 (mt List.head?_eq_none_iff.1 hp)
      obtain ⟨n, hn', hlen⟩ := Leg.exists_limit_of_excess? hx
      cases hl.symm.trans hn'
      rw [hl, Leg.excess?_eq hs' hlen] at hx
      cases hx
      cases hf.symm.trans he
      exact ⟨_, hmem, ⟨hs, Nat.le_antisymm (hn ▸ hle) hlen, hs'⟩, rfl, rfl⟩
    | @refused leg reply r e hs hfault hf hn =>
      cases hf.symm.trans he
      rw [← p.pages_stages] at hnot
      refine absurd (List.mem_flatMap.2 ⟨_, hmem, ?_⟩) hnot
      rw [← Reply.eq_error_of_fault? hfault]
      exact List.mem_append_right _ (List.mem_singleton_self _)
    | awaiting _ _ _ hw _ => cases hw.symm.trans he
  · rintro ⟨stage, hmem, ⟨hs, hlen, hhead⟩, rfl, rfl⟩
    have hx := Leg.excess?_eq hhead (Nat.le_of_eq hlen.symm)
    have hne : stage.leg.pages.pending ≠ [] := by
      intro hp
      rw [hp] at hhead
      cases hhead
    have hfailed : stage.run.ending =
        .failed (.pageLimit s stage.leg.scope.label limit.pages) := by
      cases p.stands_of_mem orgs g rounds hmem with
      | through _ hw _ _ =>
        obtain ⟨_, _, _, _, hp⟩ := hw
        exact absurd hp hne
      | exceeded _ _ hx' hf _ =>
        rw [hl] at hx'
        cases hx.symm.trans hx'
        exact hf
      | refused _ hfault _ _ => cases (Reply.fault?_eq_none_iff.2 hs.fits_last).symm.trans hfault
      | awaiting _ _ hn _ _ =>
        rw [hl] at hn
        cases hx.symm.trans hn
    refine ⟨(p.fetchFrom_failed_iff orgs g rounds _).2 ⟨stage, hmem, hfailed⟩, fun hreply => ?_⟩
    -- every reply is to a sound stage: to this one or to one that got through its scope
    rw [← p.pages_stages, List.mem_flatMap] at hreply
    obtain ⟨other, hother, hreply⟩ := hreply
    have hsound : other.leg.pages.AreSound := by
      by_cases hd : ∃ d unread, other.run.ending = .done d unread
      · obtain ⟨d, unread, hd⟩ := hd
        exact ((p.stands_of_mem orgs g rounds hother).of_done hd).1
      · have heq : other = stage := by
          refine p.eq_of_not_done orgs g rounds hother hmem (fun d u h => hd ⟨d, u, h⟩) ?_
          intro d u h
          cases hfailed.symm.trans h
        rwa [heq]
    obtain ⟨o, ho⟩ := hsound.exists_object hreply
    cases ho

/-- Under a bound a scope has at most as many calls as the bound has pages, and a fetch, which has
the calls of its scopes one after another, comes to an end. It fails for the bound just where a
scope has had that many sound pages and a stream wants more, and it names the first such stream; a
scope that ends in time gets through, and a fetch that is done is the same under every looser
bound. -/
theorem fetchFrom_within :
    (p.fetchFrom orgs g rounds).calls =
      (p.stages orgs g rounds).flatMap (fun stage => stage.run.calls) ∧
    (p.stages orgs g rounds).map (fun stage => stage.leg.scope) <+: Scope.ofList orgs ∧
    (∀ stage ∈ p.stages orgs g rounds, stage.run.calls.length ≤ limit.pages) ∧
    (p.fetchFrom orgs g rounds).calls.length ≤ limit.pages * max 1 orgs.length ∧
    (limit.pages * max 1 orgs.length ≤ rounds → (p.fetchFrom orgs g rounds).ending ≠ .awaiting) ∧
    (∀ (s : Stream) (scope : String) (pages : Nat),
      ((p.fetchFrom orgs g rounds).ending = .failed (.pageLimit s scope pages) ∧
          .error (.pageLimit s scope pages) ∉ p.replies orgs g rounds) ↔
        ∃ stage ∈ p.stages orgs g rounds, stage.Exceeds limit s ∧
          stage.leg.scope.label = scope ∧ limit.pages = pages) ∧
    (∀ stage ∈ p.stages orgs g rounds, stage.leg.pages.AreSound → stage.leg.pages.pending = [] →
      ∃ d unread, stage.run.ending = .done d unread) ∧
    (∀ d unread, (p.fetchFrom orgs g rounds).ending = .done d unread →
      ∀ limit' : Option PageLimit, (∀ m, limit' = some m → limit.pages ≤ m.pages) →
        fetchFrom { p with pageLimit := limit' } orgs g rounds = p.fetchFrom orgs g rounds) := by
  have hcalls := p.length_calls_fetchFrom_le hl orgs g rounds
  refine ⟨p.calls_fetchFrom orgs g rounds, p.scopes_stages orgs g rounds,
    fun stage => p.length_calls_le_of_mem_stages hl orgs g rounds, hcalls, ?_,
    p.fetchFrom_pageLimit_iff hl orgs g rounds, ?_, ?_⟩
  · intro hrounds ha
    have hreplies : (p.replies orgs g rounds).length = rounds :=
      Gateway.length_replies_of_awaiting ha
    have hlen : (p.fetchFrom orgs g rounds).calls.length = (p.replies orgs g rounds).length + 1 :=
      ((p.fetch_causal orgs).of_awaiting ha []).1
    omega
  · intro stage hmem hs hp
    cases p.stands_of_mem orgs g rounds hmem with
    | through _ _ hd _ => exact ⟨_, _, hd⟩
    | exceeded _ hne _ _ _ => exact absurd hp hne
    | refused _ hfault _ _ => cases (Reply.fault?_eq_none_iff.2 hs.fits_last).symm.trans hfault
    | awaiting _ hne _ _ _ => exact absurd hp hne
  · intro d unread hd limit' hle
    have hloose : LooserThan limit' p.pageLimit := fun m hm => ⟨limit, hl, hle m hm⟩
    have hopen : ∀ e, (p.fetchFrom orgs g rounds).ending ≠ .failed e := by
      intro e he
      cases hd.symm.trans he
    have hreplies : replies { p with pageLimit := limit' } orgs g rounds =
        p.replies orgs g rounds :=
      Gateway.replies_eq_of_not_failed (fetch_eq_of_looser hloose orgs) g hopen
    rw [fetchFrom, hreplies]
    exact fetch_eq_of_looser hloose orgs _ hopen

end Plan

def staggeredGateway : Gateway := fun calls => .ofPages fun s =>
  match s with
  | .openItems => ⟨[], none, false⟩
  | .reviewRequested => ⟨[], some "c", calls.length < 3⟩
  | .assignments => ⟨[], some "c", calls.length < 2⟩

theorem fetchFrom_within_sample :
    (samplePlan (some ⟨2, by decide⟩)).pageLimit = some ⟨2, by decide⟩ ∧
    (samplePlan (some ⟨3, by decide⟩)).pageLimit = some ⟨3, by decide⟩ ∧
    (∃ stage ∈ (samplePlan (some ⟨2, by decide⟩)).stages [] staggeredGateway 2,
      stage.Exceeds ⟨2, by decide⟩ .reviewRequested ∧ stage.leg.scope.label = "all" ∧ 2 = 2) ∧
    (samplePlan none).fetchFrom [] staggeredGateway 3 =
      (samplePlan (some ⟨3, by decide⟩)).fetchFrom [] staggeredGateway 3 := by
  have hfailed : ((samplePlan (some ⟨2, by decide⟩)).fetchFrom [] staggeredGateway 2).ending =
      .failed (.pageLimit .reviewRequested "all" 2) := by rfl
  have hok :
      ((samplePlan (some ⟨2, by decide⟩)).replies [] staggeredGateway 2).all (·.isOk) = true := by
    rfl
  have hdone : ((samplePlan (some ⟨3, by decide⟩)).fetchFrom [] staggeredGateway 3).ending =
      .done ⟨[], [], []⟩ [] := by rfl
  obtain ⟨-, -, -, -, -, hiff, -⟩ :=
    Plan.fetchFrom_within (p := samplePlan (some ⟨2, by decide⟩)) rfl [] staggeredGateway 2
  obtain ⟨-, -, -, -, -, -, -, hsame⟩ :=
    Plan.fetchFrom_within (p := samplePlan (some ⟨3, by decide⟩)) rfl [] staggeredGateway 3
  refine ⟨rfl, rfl, (hiff _ _ _).1 ⟨hfailed, fun hmem => ?_⟩, hsame _ _ hdone none nofun⟩
  cases List.all_eq_true.1 hok _ hmem

end Docket.Sidebar
