import Docket.Sidebar.Fetch
/-!
The course of a run. A scope is fetched page after page, and each page ends the run, ends the scope
or leads to the next. A run looks at its replies one by one: more of them change nothing in what it
did with the first.
-/

namespace Docket.Sidebar

variable {α β : Type}

inductive Run.Continues (more : List Reply) (n : Nat) : Run α → Run α → Prop
  | done {calls : List Call} {changes : List Change} {a : α} {unread : List Reply} :
    calls.length + unread.length = n →
    Continues more n ⟨calls, changes, .done a unread⟩ ⟨calls, changes, .done a (unread ++ more)⟩
  | failed {calls : List Call} {changes : List Change} {e : Failure} : calls.length ≤ n →
    Continues more n ⟨calls, changes, .failed e⟩ ⟨calls, changes, .failed e⟩
  | awaiting {calls : List Call} {changes : List Change} {r : Run α} : calls.length = n + 1 →
    calls <+: r.calls → changes <+: r.changes → Continues more n ⟨calls, changes, .awaiting⟩ r

def Causal (program : List Reply → Run α) : Prop :=
  ∀ rs more, Run.Continues more rs.length (program rs) (program (rs ++ more))

namespace Run

theorem Continues.after {more : List Reply} {n : Nat} {r r' : Run α} (h : Continues more n r r')
    (calls : List Call) (changes : List Change) :
    Continues more (n + calls.length) (r.after calls changes) (r'.after calls changes) := by
  cases h with
  | done hl => exact .done (by simp only [List.length_append]; omega)
  | failed hl => exact .failed (by simp only [List.length_append]; omega)
  | awaiting hl hc hh =>
    refine .awaiting (by simp only [List.length_append]; omega) ?_ ?_
    · exact (List.prefix_append_right_inj calls).2 hc
    · exact (List.prefix_append_right_inj changes).2 hh

theorem calls_prefix_bind (r : Run α) (f : α → List Reply → Run β) :
    r.calls <+: (r.bind f).calls := by
  cases h : r.ending <;> simp [Run.bind, h, Run.after]

theorem changes_prefix_bind (r : Run α) (f : α → List Reply → Run β) :
    r.changes <+: (r.bind f).changes := by
  cases h : r.ending <;> simp [Run.bind, h, Run.after]

end Run

theorem Causal.bind {program : List Reply → Run α} {f : α → List Reply → Run β}
    (h : Causal program) (hf : ∀ a, Causal (f a)) : Causal fun rs => (program rs).bind f := by
  intro rs more
  have hr := h rs more
  show Run.Continues more rs.length ((program rs).bind f) ((program (rs ++ more)).bind f)
  generalize program rs = r, program (rs ++ more) = r', rs.length = n at hr
  cases hr with
  | @done calls changes a unread hl =>
    have hc := (hf a unread more).after calls changes
    rwa [Nat.add_comm, hl] at hc
  | failed hl => exact .failed hl
  | awaiting hl hc hh =>
    exact .awaiting hl (hc.trans (Run.calls_prefix_bind _ f))
      (hh.trans (Run.changes_prefix_bind _ f))

theorem Causal.done (a : α) : Causal (Run.done a) := fun _ _ => .done (Nat.zero_add _)

namespace Session

inductive Course (t : Session) (scope : Scope) :
    Nat → ScopeState → Collection → List Reply → Run Collection → Prop
  | exceeded {pages : Nat} {state : ScopeState} {c : Collection} {replies : List Reply}
    {e : Failure} : t.exceeded? scope pages c = some e →
    Course t scope pages state c replies (.failed e)
  | awaiting {pages : Nat} {state : ScopeState} {c : Collection} :
    t.exceeded? scope pages c = none →
    Course t scope pages state c []
      (Run.after [t.call scope c] (scope.changes state .fetching) .awaiting)
  | refused {pages : Nat} {state : ScopeState} {c : Collection} {reply : Reply}
    {rest : List Reply} {e : Failure} : t.exceeded? scope pages c = none →
    c.receive reply = .error e →
    Course t scope pages state c (reply :: rest)
      (Run.after [t.call scope c] (scope.changes state .fetching) (.failed e))
  | finished {pages : Nat} {state : ScopeState} {c d : Collection} {reply : Reply}
    {rest : List Reply} : t.exceeded? scope pages c = none →
    c.receive reply = .ok d → d.state = .fullyExhausted →
    Course t scope pages state c (reply :: rest)
      (Run.after [t.call scope c] (scope.changes state .fetching)
        (Run.after [] (scope.changes .fetching d.state) (.done d rest)))
  | advanced {pages : Nat} {state : ScopeState} {c d : Collection} {reply : Reply}
    {rest : List Reply} {r : Run Collection} : t.exceeded? scope pages c = none →
    c.receive reply = .ok d → d.state ≠ .fullyExhausted →
    Course t scope (pages + 1) d.state d rest r →
    Course t scope pages state c (reply :: rest)
      (Run.after [t.call scope c] (scope.changes state .fetching)
        (Run.after [] (scope.changes .fetching d.state) r))

theorem fetchScope_course (t : Session) (scope : Scope) (pages : Nat) (state : ScopeState)
    (c : Collection) (replies : List Reply) :
    t.Course scope pages state c replies (t.fetchScope scope pages state c replies) := by
  induction replies generalizing pages state c with
  | nil =>
    rw [fetchScope]
    cases h : t.exceeded? scope pages c with
    | some e => exact .exceeded h
    | none => exact .awaiting h
  | cons reply rest ih =>
    rw [fetchScope]
    cases h : t.exceeded? scope pages c with
    | some e => exact .exceeded h
    | none =>
      cases hr : c.receive reply with
      | error e => exact .refused h hr
      | ok d =>
        dsimp only
        split
        · exact .finished h hr ‹_›
        · exact .advanced h hr ‹_› (ih _ _ _)

theorem Course.continues {t : Session} {scope : Scope} {pages : Nat} {state : ScopeState}
    {c : Collection} {replies : List Reply} {r : Run Collection}
    (h : t.Course scope pages state c replies r) (more : List Reply) :
    Run.Continues more replies.length r (t.fetchScope scope pages state c (replies ++ more)) := by
  induction h with
  | exceeded h =>
    rw [fetchScope.eq_def]
    simp only [h]
    exact .failed (Nat.zero_le _)
  | awaiting h =>
    rw [fetchScope.eq_def]
    simp only [h]
    exact .awaiting rfl (List.prefix_append _ _) (by simp [Run.after, Run.awaiting])
  | refused h hr =>
    simp only [List.cons_append, fetchScope, h, hr]
    exact .failed (Nat.le_add_left _ _)
  | finished h hr hd =>
    simp only [List.cons_append, fetchScope, h, hr, hd, if_true]
    exact .done (Nat.add_comm _ _)
  | advanced h hr hd _ ih =>
    simp only [List.cons_append, fetchScope, h, hr, hd, if_false]
    exact (ih.after [] _).after [_] _

theorem fetchScope_causal (t : Session) (scope : Scope) (pages : Nat) (state : ScopeState)
    (c : Collection) : Causal (t.fetchScope scope pages state c) :=
  fun rs more => (t.fetchScope_course scope pages state c rs).continues more

theorem fetchScopes_causal (t : Session) (scopes : List Scope) (c : Collection) :
    Causal (t.fetchScopes scopes c) := by
  induction scopes generalizing c with
  | nil => exact .done c
  | cons scope rest ih => exact (t.fetchScope_causal scope 0 .initial c.beginScope).bind ih

end Session

theorem Plan.fetch_causal (p : Plan) (orgs : List Organization) : Causal (p.fetch orgs) := by
  unfold Plan.fetch
  cases p.session with
  | error e => exact fun _ _ => .failed (Nat.zero_le _)
  | ok t => exact (t.fetchScopes_causal _ _).bind fun c => .done c.toDigest

theorem Causal.of_awaiting {program : List Reply → Run α} (hp : Causal program) {rs : List Reply}
    (h : (program rs).ending = .awaiting) (more : List Reply) :
    (program rs).calls.length = rs.length + 1 ∧
      (program rs).calls <+: (program (rs ++ more)).calls := by
  have hc := hp rs more
  generalize program rs = r, program (rs ++ more) = r' at hc h ⊢
  cases hc with
  | done => cases h
  | failed => cases h
  | awaiting hl hp _ => exact ⟨hl, hp⟩

theorem Causal.length_calls_le {program : List Reply → Run α} (hp : Causal program)
    {rs : List Reply} (h : (program rs).ending ≠ .awaiting) :
    (program rs).calls.length ≤ rs.length := by
  have hc := hp rs []
  generalize program rs = r, program (rs ++ []) = r' at hc h ⊢
  cases hc with
  | done hl => exact hl ▸ Nat.le_add_right _ _
  | failed hl => exact hl
  | awaiting => exact absurd rfl h

end Docket.Sidebar
