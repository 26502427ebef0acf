import Docket.Proofs.Plan
/-!
The stages of a run, one for each scope that it comes to. A stage is the run over its scope alone,
with the replies to its calls; a whole run makes the calls and the changes of its stages one after
another, and it fails where one of them does.
-/

namespace Docket.Sidebar

structure Stage where
  leg : Leg
  run : Run Collection

namespace Session

def stage (t : Session) (scope : Scope) (c : Collection) (replies : List Reply) : Stage :=
  let r := t.fetchScope scope 0 .initial c.beginScope replies
  ⟨⟨scope, replies.take r.calls.length⟩, r⟩

def stages (t : Session) : List Scope → Collection → List Reply → List Stage
  | [], _, _ => []
  | scope :: rest, c, replies =>
    let stage := t.stage scope c replies
    stage :: match stage.run.ending with
      | .done d unread => t.stages rest d unread
      | _ => []

end Session

inductive Stage.Stands (limit : Option PageLimit) : Stage → Prop
  | through {leg : Leg} {r : Run Collection} {d : Collection} {unread : List Reply} :
    leg.pages.AreSound → leg.pages.AreWhole → r.ending = .done d unread →
    r.calls.length = leg.pages.length → Stands limit ⟨leg, r⟩
  | exceeded {leg : Leg} {r : Run Collection} {e : Failure} :
    leg.pages.AreSound → leg.pages.pending ≠ [] → leg.excess? limit = some e →
    r.ending = .failed e → r.calls.length = leg.pages.length → Stands limit ⟨leg, r⟩
  | refused {leg : Leg} {reply : Reply} {r : Run Collection} {e : Failure} :
    leg.pages.AreSound → reply.fault? leg.pages.pending = some e → r.ending = .failed e →
    r.calls.length = leg.pages.length + 1 → Stands limit ⟨⟨leg.scope, leg.pages ++ [reply]⟩, r⟩
  | awaiting {leg : Leg} {r : Run Collection} :
    leg.pages.AreSound → leg.pages.pending ≠ [] → leg.excess? limit = none →
    r.ending = .awaiting → r.calls.length = leg.pages.length + 1 → Stands limit ⟨leg, r⟩

theorem Session.stage_stands (t : Session) (scope : Scope) (c : Collection)
    (replies : List Reply) : (t.stage scope c replies).Stands t.pageLimit := by
  obtain ⟨pages, unread, rfl, hs, hend⟩ := t.fetchScope_outcome scope c replies
  unfold stage
  generalize t.fetchScope scope 0 .initial c.beginScope (pages ++ unread) = r at hend
  rcases hend with ⟨hw, d, -, he, hl⟩ | ⟨hp, hh⟩
  · dsimp only
    rw [hl, List.take_left]
    exact .through hs hw he hl
  · cases hh with
    | exceeded hx he hl =>
      dsimp only
      rw [hl, List.take_left]
      exact .exceeded hs hp hx he hl
    | @refused reply rest _ _ hx hf he hl =>
      have htake : (pages ++ reply :: rest).take (pages.length + 1) = pages ++ [reply] := by
        rw [List.take_length_add_append, List.take_succ_cons, List.take_zero]
      dsimp only
      rw [hl, htake]
      exact .refused hs hf he hl
    | awaiting hx he hl =>
      dsimp only
      rw [hl, List.append_nil, List.take_of_length_le (Nat.le_succ _)]
      exact .awaiting hs hp hx he hl

theorem Session.stage_of_done {t : Session} {scope : Scope} {c d : Collection}
    {replies unread : List Reply} (h : (t.stage scope c replies).run.ending = .done d unread) :
    replies = (t.stage scope c replies).leg.pages ++ unread := by
  obtain ⟨pages, rest, rfl, -, hend⟩ := t.fetchScope_outcome scope c replies
  simp only [stage] at h ⊢
  generalize t.fetchScope scope 0 .initial c.beginScope (pages ++ rest) = r at h hend
  rcases hend with ⟨-, d', -, he, hl⟩ | ⟨-, hh⟩
  · rw [he] at h
    cases h
    rw [hl, List.take_left]
  · cases hh with
    | exceeded _ he => rw [he] at h; cases h
    | refused _ _ he => rw [he] at h; cases h
    | awaiting _ he => rw [he] at h; cases h

theorem Stage.Stands.of_done {limit : Option PageLimit} {stage : Stage} {d : Collection}
    {unread : List Reply} (h : stage.Stands limit) (he : stage.run.ending = .done d unread) :
    stage.leg.pages.AreSound ∧ stage.leg.pages.AreWhole ∧
      stage.run.calls.length = stage.leg.pages.length := by
  cases h with
  | through hs hw _ hl => exact ⟨hs, hw, hl⟩
  | exceeded _ _ _ hf => cases hf.symm.trans he
  | refused _ _ hf => cases hf.symm.trans he
  | awaiting _ _ _ hf => cases hf.symm.trans he

namespace Session

variable (t : Session)

theorem flatMap_stages {β : Type} {part : Run Collection → List β}
    (hdone : ∀ c unread, part (.done c unread) = [])
    (hbind : ∀ (r : Run Collection) (f : Collection → List Reply → Run Collection),
      part (r.bind f) = part r ++ match r.ending with
        | .done c unread => part (f c unread)
        | _ => [])
    (scopes : List Scope) (c : Collection) (replies : List Reply) :
    part (t.fetchScopes scopes c replies) =
      (t.stages scopes c replies).flatMap fun stage => part stage.run := by
  induction scopes generalizing c replies with
  | nil => exact hdone c replies
  | cons scope rest ih =>
    rw [fetchScopes, stages, List.flatMap_cons, hbind, stage]
    cases (t.fetchScope scope 0 .initial c.beginScope replies).ending with
    | done d unread => exact congrArg _ (ih d unread)
    | failed e => rfl
    | awaiting => rfl

theorem calls_fetchScopes (scopes : List Scope) (c : Collection) (replies : List Reply) :
    (t.fetchScopes scopes c replies).calls =
      (t.stages scopes c replies).flatMap fun stage => stage.run.calls := by
  refine t.flatMap_stages (fun _ _ => rfl) (fun r f => ?_) scopes c replies
  cases he : r.ending <;> simp [Run.bind, Run.after, he]

theorem changes_fetchScopes (scopes : List Scope) (c : Collection) (replies : List Reply) :
    (t.fetchScopes scopes c replies).changes =
      (t.stages scopes c replies).flatMap fun stage => stage.run.changes := by
  refine t.flatMap_stages (fun _ _ => rfl) (fun r f => ?_) scopes c replies
  cases he : r.ending <;> simp [Run.bind, Run.after, he]

theorem fetchScopes_failed_iff (scopes : List Scope) (c : Collection) (replies : List Reply)
    (e : Failure) : (t.fetchScopes scopes c replies).ending = .failed e ↔
      ∃ stage ∈ t.stages scopes c replies, stage.run.ending = .failed e := by
  induction scopes generalizing c replies with
  | nil => simp [fetchScopes, stages, Run.done]
  | cons scope rest ih =>
    rw [fetchScopes, stages, stage]
    generalize t.fetchScope scope 0 .initial c.beginScope replies = r
    cases he : r.ending <;> simp [Run.bind, Run.after, he, ih]

theorem scopes_stages_prefix (scopes : List Scope) (c : Collection) (replies : List Reply) :
    (t.stages scopes c replies).map (fun stage => stage.leg.scope) <+: scopes := by
  induction scopes generalizing c replies with
  | nil => exact List.prefix_refl _
  | cons scope rest ih =>
    rw [stages, List.map_cons, stage, List.prefix_cons_inj]
    split
    · exact ih _ _
    · exact List.nil_prefix

theorem pages_stages (scopes : List Scope) (c : Collection) (replies : List Reply) :
    (t.stages scopes c replies).flatMap (fun stage => stage.leg.pages) =
      replies.take (t.fetchScopes scopes c replies).calls.length := by
  rw [calls_fetchScopes]
  induction scopes generalizing c replies with
  | nil => rfl
  | cons scope rest ih =>
    rw [stages]
    cases he : (t.stage scope c replies).run.ending with
    | done d unread =>
      have hread := stage_of_done he
      obtain ⟨-, -, hl⟩ := (t.stage_stands scope c replies).of_done he
      generalize t.stage scope c replies = stage at hread hl
      rw [List.flatMap_cons, List.flatMap_cons, ih, List.length_append, hread, hl,
        List.take_length_add_append]
    | _ => simp [stage]

theorem exists_eq_stage {scopes : List Scope} {c : Collection} {replies : List Reply}
    {stage : Stage} (h : stage ∈ t.stages scopes c replies) :
    ∃ d given, stage = t.stage stage.leg.scope d given := by
  induction scopes generalizing c replies with
  | nil => cases h
  | cons scope rest ih =>
    rw [stages, List.mem_cons] at h
    rcases h with rfl | h
    · exact ⟨c, replies, rfl⟩
    · split at h
      · exact ih h
      · cases h

/-- Only the last stage of a run can be one that does not get through its scope. -/
theorem eq_of_not_done {scopes : List Scope} {c : Collection} {replies : List Reply} {a b : Stage}
    (ha : a ∈ t.stages scopes c replies) (hb : b ∈ t.stages scopes c replies)
    (hna : ∀ d unread, a.run.ending ≠ .done d unread)
    (hnb : ∀ d unread, b.run.ending ≠ .done d unread) : a = b := by
  induction scopes generalizing c replies with
  | nil => cases ha
  | cons scope rest ih =>
    rw [stages, List.mem_cons] at ha hb
    cases he : (t.stage scope c replies).run.ending with
    | done d unread =>
      have hne : ∀ {x : Stage}, (∀ d unread, x.run.ending ≠ .done d unread) →
          x ≠ t.stage scope c replies := by
        rintro x hx rfl
        exact hx d unread he
      rw [he] at ha hb
      exact ih (ha.resolve_left (hne hna)) (hb.resolve_left (hne hnb))
    | _ =>
      rw [he] at ha hb
      rw [ha.resolve_right List.not_mem_nil, hb.resolve_right List.not_mem_nil]

end Session

theorem Run.changes_map {α β : Type} (f : α → β) (r : Run α) : (r.map f).changes = r.changes := by
  cases h : r.ending <;> simp [Run.map, Run.bind, Run.after, Run.done, h]

theorem Run.map_failed_iff {α β : Type} (f : α → β) (r : Run α) (e : Failure) :
    (r.map f).ending = .failed e ↔ r.ending = .failed e := by
  cases h : r.ending <;> simp [Run.map, Run.bind, Run.after, Run.done, h]

namespace Plan

def stages (p : Plan) (orgs : List Organization) (g : Gateway) (rounds : Nat) : List Stage :=
  match p.session with
  | .error _ => []
  | .ok t => t.stages (Scope.ofList orgs) .empty (p.replies orgs g rounds)

variable (p : Plan) (orgs : List Organization) (g : Gateway) (rounds : Nat)

theorem exists_stages : ∃ t : Session, t.user = p.user ∧ t.pageLimit = p.pageLimit ∧
    p.stages orgs g rounds = t.stages (Scope.ofList orgs) .empty (p.replies orgs g rounds) ∧
    p.fetchFrom orgs g rounds =
      (t.fetchScopes (Scope.ofList orgs) .empty (p.replies orgs g rounds)).map
        Collection.toDigest := by
  obtain ⟨d, -, -, hs⟩ := p.exists_session
  refine ⟨⟨d, p.user, p.pageLimit⟩, rfl, rfl, ?_, ?_⟩
  · simp only [stages, hs]
  · simp only [fetchFrom, fetch, hs]

theorem calls_fetchFrom : (p.fetchFrom orgs g rounds).calls =
    (p.stages orgs g rounds).flatMap fun stage => stage.run.calls := by
  obtain ⟨t, -, -, hs, hf⟩ := p.exists_stages orgs g rounds
  rw [hs, hf, Run.calls_map, t.calls_fetchScopes]

theorem changes_fetchFrom : (p.fetchFrom orgs g rounds).changes =
    (p.stages orgs g rounds).flatMap fun stage => stage.run.changes := by
  obtain ⟨t, -, -, hs, hf⟩ := p.exists_stages orgs g rounds
  rw [hs, hf, Run.changes_map, t.changes_fetchScopes]

theorem scopes_stages :
    (p.stages orgs g rounds).map (fun stage => stage.leg.scope) <+: Scope.ofList orgs := by
  obtain ⟨t, -, -, hs, -⟩ := p.exists_stages orgs g rounds
  rw [hs]
  exact t.scopes_stages_prefix _ _ _

theorem pages_stages :
    (p.stages orgs g rounds).flatMap (fun stage => stage.leg.pages) = p.replies orgs g rounds := by
  have hle : (p.replies orgs g rounds).length ≤ (p.fetchFrom orgs g rounds).calls.length :=
    Gateway.length_replies_le (p.fetch_causal orgs) g rounds
  obtain ⟨t, -, -, hs, hf⟩ := p.exists_stages orgs g rounds
  rw [hf, Run.calls_map] at hle
  rw [hs, t.pages_stages, List.take_of_length_le hle]

theorem fetchFrom_failed_iff (e : Failure) : (p.fetchFrom orgs g rounds).ending = .failed e ↔
    ∃ stage ∈ p.stages orgs g rounds, stage.run.ending = .failed e := by
  obtain ⟨t, -, -, hs, hf⟩ := p.exists_stages orgs g rounds
  rw [hs, hf, Run.map_failed_iff, t.fetchScopes_failed_iff]

theorem exists_eq_stage {stage : Stage} (h : stage ∈ p.stages orgs g rounds) :
    ∃ (t : Session) (c : Collection) (given : List Reply), t.user = p.user ∧
      t.pageLimit = p.pageLimit ∧ stage = t.stage stage.leg.scope c given := by
  obtain ⟨t, hu, hl, hs, -⟩ := p.exists_stages orgs g rounds
  rw [hs] at h
  obtain ⟨c, given, heq⟩ := t.exists_eq_stage h
  exact ⟨t, c, given, hu, hl, heq⟩

theorem eq_of_not_done {a b : Stage} (ha : a ∈ p.stages orgs g rounds)
    (hb : b ∈ p.stages orgs g rounds) (hna : ∀ d unread, a.run.ending ≠ .done d unread)
    (hnb : ∀ d unread, b.run.ending ≠ .done d unread) : a = b := by
  obtain ⟨t, -, -, hs, -⟩ := p.exists_stages orgs g rounds
  rw [hs] at ha hb
  exact t.eq_of_not_done ha hb hna hnb

theorem stands_of_mem {stage : Stage} (h : stage ∈ p.stages orgs g rounds) :
    stage.Stands p.pageLimit := by
  obtain ⟨t, c, given, -, hl, heq⟩ := p.exists_eq_stage orgs g rounds h
  rw [heq, ← hl]
  exact t.stage_stands _ c given

end Plan

end Docket.Sidebar
