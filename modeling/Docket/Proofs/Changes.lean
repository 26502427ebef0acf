import Docket.Proofs.Stage
/-!
The changes of state that a run records. How those of a scope go is settled by two pages, the first
on which a stream ends and the one on which the last does; a scope that is cut short has recorded a
beginning of such a course.
-/

namespace Docket.Sidebar

namespace Scope

/-- After a page some streams have ended and others have not, and the next page is asked for. -/
def partings (scope : Scope) : Nat → List Change
  | 0 => []
  | n + 1 => ⟨scope, .fetching, .partiallyExhausted⟩ ::
      ⟨scope, .partiallyExhausted, .fetching⟩ :: partings scope n

/-- The changes of a scope in which that happens a number of times. -/
def history (scope : Scope) (n : Nat) : List Change :=
  ⟨scope, .initial, .fetching⟩ :: partings scope n ++ [⟨scope, .fetching, .fullyExhausted⟩]

theorem mem_partings {scope : Scope} {n : Nat} {change : Change}
    (h : change ∈ partings scope n) : change.scope = scope ∧ change.before ≠ .fullyExhausted ∧
      change.after ≠ .fullyExhausted := by
  induction n with
  | zero => cases h
  | succ n ih =>
    simp only [partings, List.mem_cons] at h
    rcases h with rfl | rfl | h
    · simp
    · simp
    · exact ih h

theorem dropLast_history (scope : Scope) (n : Nat) :
    (history scope n).dropLast = ⟨scope, .initial, .fetching⟩ :: partings scope n :=
  List.dropLast_concat

theorem mem_dropLast_history {scope : Scope} {n : Nat} {change : Change}
    (h : change ∈ (history scope n).dropLast) : change.scope = scope ∧
      change.before ≠ .fullyExhausted ∧ change.after ≠ .fullyExhausted := by
  rw [dropLast_history, List.mem_cons] at h
  rcases h with rfl | h
  · simp
  · exact mem_partings h

theorem mem_history {scope : Scope} {n : Nat} {change : Change} (h : change ∈ history scope n) :
    change.scope = scope ∧ change.before ≠ .fullyExhausted := by
  rw [history, ← dropLast_history, List.mem_append, List.mem_singleton] at h
  rcases h with h | rfl
  · obtain ⟨hs, hb, -⟩ := mem_dropLast_history h
    exact ⟨hs, hb⟩
  · simp

theorem count_after_dropLast_history {scope : Scope} {n : Nat} {changes : List Change}
    (h : changes <+: (history scope n).dropLast) :
    (changes.map Change.after).count .fullyExhausted = 0 := by
  rw [List.count_eq_zero, List.mem_map]
  rintro ⟨change, hmem, ha⟩
  exact (mem_dropLast_history (h.subset hmem)).2.2 ha

theorem count_after_history (scope : Scope) (n : Nat) :
    ((history scope n).map Change.after).count .fullyExhausted = 1 := by
  have hzero := count_after_dropLast_history (List.prefix_refl (history scope n).dropLast)
  rw [dropLast_history] at hzero
  rw [history, List.map_append, List.count_append, hzero]
  rfl

end Scope

namespace Pages

def first (pages : Pages) : Nat :=
  pages.findIdx (fun r => Stream.all.any fun s => r.ends s.key) + 1

theorem first_le_last (pages : Pages) (s : Stream) : pages.first ≤ pages.last s.key := by
  refine Nat.succ_le_succ (List.findIdx_le_findIdx fun r _ hr => ?_)
  exact List.any_eq_true.2 ⟨s, Stream.mem_all s, hr⟩

theorem first_le_length_iff (pages : Pages) :
    pages.first ≤ pages.length ↔ ∃ s : Stream, pages.hasEnded s.key = true := by
  rw [first, Nat.add_one_le_iff, List.findIdx_lt_length]
  simp only [hasEnded, List.any_eq_true]
  constructor
  · rintro ⟨r, hr, s, -, hs⟩
    exact ⟨s, r, hr, hs⟩
  · rintro ⟨s, r, hr, hs⟩
    exact ⟨r, hr, s, Stream.mem_all s, hs⟩

theorem first_append_of_le {pages : Pages} (h : pages.first ≤ pages.length) (more : List Reply) :
    first (pages ++ more) = pages.first := by
  rw [first, Nat.add_one_le_iff] at h
  rw [first, List.findIdx_append, if_pos h, first]

theorem lt_first_append {pages : Pages} (h : pages.length < pages.first) (more : List Reply) :
    pages.length < first (pages ++ more) := by
  rw [first] at h ⊢
  rw [List.findIdx_append, if_neg (by omega)]
  omega

theorem AreWhole.total_eq {pages : Pages} (h : pages.AreWhole) : pages.total = pages.length := by
  have ht := h.total_append []
  rwa [List.append_nil] at ht

theorem first_le_total (pages : Pages) : pages.first ≤ pages.total := by
  have hfirst := pages.first_le_last .openItems
  have hlast := Stream.largest_le_iff.1 (Nat.le_refl pages.total) .openItems
  omega

end Pages

theorem Reached.state_eq {start c : Collection} {pages : Pages} (h : Reached start pages c)
    (hp : pages.pending ≠ []) :
    c.state = if pages.first ≤ pages.length then .partiallyExhausted else .fetching := by
  have hany : (Stream.all.any fun s => (c.get s).isExhausted) = true ↔
      pages.first ≤ pages.length := by
    rw [Pages.first_le_length_iff, List.any_eq_true]
    constructor
    · rintro ⟨s, -, hs⟩
      exact ⟨s, (h.isExhausted s).symm.trans hs⟩
    · rintro ⟨s, hs⟩
      exact ⟨s, Stream.mem_all s, (h.isExhausted s).trans hs⟩
  have hfirst : c.firstPending?.isNone = false := by
    rw [Collection.firstPending?_eq, h.pending_eq, Option.isNone_eq_false_iff, List.isSome_head?]
    simpa using hp
  rw [Collection.state, hfirst, if_neg Bool.false_ne_true]
  simp only [hany]

theorem Collection.isExhausted_receive {c d : Collection} {reply : Reply}
    (h : c.receive reply = .ok d) {s : Stream} (hs : (c.get s).isExhausted = true) :
    (d.get s).isExhausted = true := by
  obtain ⟨r, -, ha⟩ := receive_ok h
  rcases absorb_ok ha s with ⟨-, hw⟩ | ⟨hn, -⟩
  · rw [hw, hs]
  · rw [hs] at hn
    cases hn

namespace Session.Course

variable {t : Session} {scope : Scope} {n : Nat} {state : ScopeState} {start c : Collection}
  {replies : List Reply} {r : Run Collection} {earlier : Pages}

theorem changes_of_done (h : t.Course scope n state c replies r) (hc : Reached start earlier c)
    (hp : earlier.pending ≠ []) {d : Collection} {unread : List Reply}
    (hr : r.ending = .done d unread) :
    ∃ pages : Pages, pages = earlier ++ replies.take r.calls.length ∧
      earlier.length < pages.length ∧
      r.changes = scope.changes state .fetching ++
        (scope.partings (pages.length - max pages.first (earlier.length + 1)) ++
          [⟨scope, .fetching, .fullyExhausted⟩]) := by
  induction h generalizing earlier with
  | exceeded _ => cases hr
  | awaiting _ => cases hr
  | refused _ _ => cases hr
  | @finished _ _ c d reply rest _ hd hs =>
    refine ⟨earlier ++ [reply], rfl, by simp, ?_⟩
    have hnone : (earlier ++ [reply]).length - max (Pages.first (earlier ++ [reply]))
        (earlier.length + 1) = 0 := by
      rw [List.length_append, List.length_singleton]
      omega
    rw [hnone, hs]
    rfl
  | @advanced _ state c d reply rest r _ hd hs _ ih =>
    have hd' := hc.receive hd
    rw [ne_eq, hd'.state_eq_iff] at hs
    obtain ⟨pages, hpages, hlt, hchanges⟩ := ih hd' hs hr
    have htake : pages = earlier ++ (reply :: rest).take (r.calls.length + 1) := by
      rw [hpages, List.append_assoc, List.singleton_append, List.take_succ_cons]
    rw [List.length_append, List.length_singleton] at hlt
    refine ⟨pages, htake, by omega, ?_⟩
    show scope.changes state .fetching ++ (scope.changes .fetching d.state ++ r.changes) = _
    rw [hchanges, List.append_cancel_left_eq, hd'.state_eq hs, List.length_append,
      List.length_singleton]
    by_cases hf : Pages.first (earlier ++ [reply]) ≤ (earlier ++ [reply]).length
    · -- a stream has ended by now, so this page is one of those that are counted
      have hfirst : pages.first = Pages.first (earlier ++ [reply]) := by
        rw [hpages, Pages.first_append_of_le hf]
      rw [List.length_append, List.length_singleton] at hf
      obtain ⟨k, hk⟩ : ∃ k, pages.length - max pages.first (earlier.length + 1) = k + 1 :=
        Nat.exists_eq_succ_of_ne_zero (by omega)
      have hrest : pages.length - max pages.first (earlier.length + 1 + 1) = k := by omega
      rw [if_pos hf, hk, hrest]
      rfl
    · have hfirst := Pages.lt_first_append (Nat.lt_of_not_le hf) (rest.take r.calls.length)
      rw [← hpages, List.length_append, List.length_singleton] at hfirst
      rw [List.length_append, List.length_singleton] at hf
      have hmax : max pages.first (earlier.length + 1 + 1) = max pages.first (earlier.length + 1) :=
        by omega
      rw [if_neg hf, hmax]
      rfl

theorem exists_changes_prefix_history (h : t.Course scope n state c replies r)
    (hc : Reached start earlier c) (hr : ∀ d unread, r.ending ≠ .done d unread) :
    ∃ k, r.changes <+: scope.changes state .fetching ++ scope.partings k := by
  induction h generalizing earlier with
  | exceeded _ => exact ⟨0, List.nil_prefix⟩
  | awaiting _ => exact ⟨0, List.prefix_rfl⟩
  | refused _ _ => exact ⟨0, List.prefix_rfl⟩
  | finished _ _ _ => exact absurd rfl (hr _ _)
  | @advanced _ state c d reply rest r _ hd hs _ ih =>
    have hd' := hc.receive hd
    rw [ne_eq, hd'.state_eq_iff] at hs
    obtain ⟨k, hk⟩ := ih hd' hr
    rw [hd'.state_eq hs] at hk
    show ∃ k, scope.changes state .fetching ++ (scope.changes .fetching d.state ++ r.changes) <+: _
    rw [hd'.state_eq hs]
    by_cases hf : Pages.first (earlier ++ [reply]) ≤ (earlier ++ [reply]).length
    · rw [if_pos hf] at hk ⊢
      refine ⟨k + 1, ?_⟩
      rw [List.prefix_append_right_inj]
      exact (List.prefix_append_right_inj [⟨scope, .fetching, .partiallyExhausted⟩]).2 hk
    · rw [if_neg hf] at hk ⊢
      refine ⟨k, ?_⟩
      rw [List.prefix_append_right_inj]
      exact hk

end Session.Course

theorem Session.changes_stage_of_done {t : Session} {scope : Scope} {c d : Collection}
    {given unread : List Reply} {stage : Stage} (hs : stage = t.stage scope c given)
    (h : stage.run.ending = .done d unread) :
    stage.run.changes = scope.history (stage.leg.pages.total - stage.leg.pages.first) := by
  obtain ⟨-, hw, -⟩ := (hs ▸ t.stage_stands scope c given).of_done h
  subst hs
  obtain ⟨pages, hpages, -, hchanges⟩ :=
    (t.fetchScope_course scope 0 .initial c.beginScope given).changes_of_done (.beginScope c)
      (by decide) h
  obtain rfl : pages = (t.stage scope c given).leg.pages := hpages
  have hmax : max (t.stage scope c given).leg.pages.first 1 =
      (t.stage scope c given).leg.pages.first := Nat.max_eq_left (Nat.succ_pos _)
  rw [List.length_nil, Nat.zero_add, hmax, ← hw.total_eq] at hchanges
  exact hchanges

theorem Session.exists_changes_stage_prefix_history {t : Session} {scope : Scope} {c : Collection}
    {given : List Reply} {stage : Stage} (hs : stage = t.stage scope c given)
    (h : ∀ d unread, stage.run.ending ≠ .done d unread) :
    ∃ k, stage.run.changes <+: (scope.history k).dropLast := by
  subst hs
  obtain ⟨k, hk⟩ :=
    (t.fetchScope_course scope 0 .initial c.beginScope given).exists_changes_prefix_history
      (.beginScope c) h
  refine ⟨k, ?_⟩
  rw [Scope.dropLast_history]
  exact hk

/-- A fetch records the changes of its scopes one after another. A scope that is through has asked
for just the pages up to the one on which its last stream ends, and it was partially exhausted once
for each of them from the first on which a stream ends; any other has recorded a beginning of such a
course, short of its end. -/
theorem Plan.fetchFrom_changes (p : Plan) (orgs : List Organization) (g : Gateway)
    (rounds : Nat) :
    (p.fetchFrom orgs g rounds).calls =
      (p.stages orgs g rounds).flatMap (fun stage => stage.run.calls) ∧
    (p.fetchFrom orgs g rounds).changes =
      (p.stages orgs g rounds).flatMap (fun stage => stage.run.changes) ∧
    (p.stages orgs g rounds).map (fun stage => stage.leg.scope) <+: Scope.ofList orgs ∧
    (p.stages orgs g rounds).flatMap (fun stage => stage.leg.pages) = p.replies orgs g rounds ∧
    (∀ stage ∈ p.stages orgs g rounds,
      ((∃ d unread, stage.run.ending = .done d unread) →
        stage.leg.pages.first ≤ stage.leg.pages.total ∧
        stage.run.calls.length = stage.leg.pages.total ∧
        stage.run.changes =
          stage.leg.scope.history (stage.leg.pages.total - stage.leg.pages.first) ∧
        (stage.run.changes.map Change.after).count .fullyExhausted = 1) ∧
      ((∀ d unread, stage.run.ending ≠ .done d unread) →
        (∃ k, stage.run.changes <+: (stage.leg.scope.history k).dropLast) ∧
        (stage.run.changes.map Change.after).count .fullyExhausted = 0) ∧
      ∀ change ∈ stage.run.changes,
        change.scope = stage.leg.scope ∧ change.before ≠ .fullyExhausted) ∧
    ∀ (c d : Collection) (reply : Reply) (s : Stream), c.receive reply = .ok d →
      (c.get s).isExhausted = true → (d.get s).isExhausted = true := by
  refine ⟨p.calls_fetchFrom orgs g rounds, p.changes_fetchFrom orgs g rounds,
    p.scopes_stages orgs g rounds, p.pages_stages orgs g rounds, fun stage hmem => ?_,
    fun c d reply s h => Collection.isExhausted_receive h⟩
  obtain ⟨t, c, given, -, -, heq⟩ := p.exists_eq_stage orgs g rounds hmem
  by_cases hdone : ∃ d unread, stage.run.ending = .done d unread
  · obtain ⟨d, unread, hd⟩ := hdone
    obtain ⟨-, hw, hl⟩ := (p.stands_of_mem orgs g rounds hmem).of_done hd
    have hchanges := Session.changes_stage_of_done heq hd
    refine ⟨fun _ => ⟨stage.leg.pages.first_le_total, hl.trans hw.total_eq.symm, hchanges, ?_⟩,
      fun hnot => absurd hd (hnot d unread), ?_⟩
    · rw [hchanges]
      exact Scope.count_after_history _ _
    · rw [hchanges]
      exact fun change => Scope.mem_history
  · have hnot : ∀ d unread, stage.run.ending ≠ .done d unread :=
      fun d unread hd => hdone ⟨d, unread, hd⟩
    obtain ⟨k, hk⟩ := Session.exists_changes_stage_prefix_history heq hnot
    refine ⟨fun h => absurd h hdone, fun _ => ⟨⟨k, hk⟩, Scope.count_after_dropLast_history hk⟩, ?_⟩
    intro change hmem
    obtain ⟨hs, hb, -⟩ := Scope.mem_dropLast_history (hk.subset hmem)
    exact ⟨hs, hb⟩

end Docket.Sidebar
