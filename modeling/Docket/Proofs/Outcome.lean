import Docket.Proofs.Course
import Docket.Proofs.Legs
/-!
What a run comes to. It gets through all its legs, or it halts in one of them; how it halts and what
it asks for next depend on the pages of that leg alone.
-/

namespace Docket.Sidebar

theorem Run.bind_of_done {α β : Type} {r : Run α} {a : α} {unread : List Reply}
    (h : r.ending = .done a unread) (f : α → List Reply → Run β) :
    r.bind f = (f a unread).after r.calls r.changes := by
  simp [Run.bind, h]

theorem Run.calls_map {α β : Type} (f : α → β) (r : Run α) : (r.map f).calls = r.calls := by
  cases h : r.ending <;> simp [Run.map, Run.bind, Run.after, Run.done, h]

def Leg.excess? (limit : Option PageLimit) (leg : Leg) : Option Failure :=
  (limit.filter fun l => l.pages ≤ leg.pages.length).map fun l =>
    .pageLimit (leg.pages.pending.head?.getD .openItems) leg.scope.label l.pages

theorem Leg.exists_limit_of_excess? {limit : Option PageLimit} {leg : Leg} {e : Failure}
    (h : leg.excess? limit = some e) : ∃ l, limit = some l ∧ l.pages ≤ leg.pages.length := by
  obtain ⟨l, hl, -⟩ := Option.map_eq_some_iff.1 h
  obtain ⟨hl, hle⟩ := Option.filter_eq_some_iff.1 hl
  exact ⟨l, hl, of_decide_eq_true hle⟩

/-- How a run halts in a leg that is not whole, `n` replies in and with the rest unread. -/
inductive Leg.Halts {α : Type} (limit : Option PageLimit) (leg : Leg) (n : Nat) :
    List Reply → Run α → Prop
  | exceeded {rest : List Reply} {r : Run α} {e : Failure} : leg.excess? limit = some e →
    r.ending = .failed e → r.calls.length = n → Halts limit leg n rest r
  | refused {reply : Reply} {rest : List Reply} {r : Run α} {e : Failure} :
    leg.excess? limit = none → reply.fault? leg.pages.pending = some e →
    r.ending = .failed e → r.calls.length = n + 1 → Halts limit leg n (reply :: rest) r
  | awaiting {r : Run α} : leg.excess? limit = none → r.ending = .awaiting →
    r.calls.length = n + 1 → Halts limit leg n [] r

namespace Leg.Halts

variable {α β : Type} {limit : Option PageLimit} {leg : Leg} {n : Nat} {rest : List Reply}
  {r : Run α}

theorem length_calls_le (h : leg.Halts limit n rest r) : r.calls.length ≤ n + 1 := by
  cases h with
  | exceeded _ _ hc => omega
  | refused _ _ _ hc => omega
  | awaiting _ _ hc => omega

theorem bind (h : leg.Halts limit n rest r) (f : α → List Reply → Run β) :
    leg.Halts limit n rest (r.bind f) := by
  cases h with
  | exceeded he hr hc => exact .exceeded he (by simp [Run.bind, hr]) (by simp [Run.bind, hr, hc])
  | refused he hf hr hc =>
    exact .refused he hf (by simp [Run.bind, hr]) (by simp [Run.bind, hr, hc])
  | awaiting he hr hc => exact .awaiting he (by simp [Run.bind, hr]) (by simp [Run.bind, hr, hc])

theorem calls_bind (h : leg.Halts limit n rest r) (f : α → List Reply → Run β) :
    (r.bind f).calls = r.calls := by
  cases h <;> simp [Run.bind, *]

theorem after (h : leg.Halts limit n rest r) (calls : List Call) (changes : List Change) :
    leg.Halts limit (calls.length + n) rest (r.after calls changes) := by
  cases h with
  | exceeded he hr hc => exact .exceeded he hr (by simp [Run.after, hc])
  | refused he hf hr hc => exact .refused he hf hr (by simp [Run.after, hc, Nat.add_assoc])
  | awaiting he hr hc => exact .awaiting he hr (by simp [Run.after, hc, Nat.add_assoc])

end Leg.Halts

namespace Reached

variable {start c : Collection} {pages : Pages}

theorem state_eq_iff (h : Reached start pages c) :
    c.state = .fullyExhausted ↔ pages.pending = [] := by
  rw [← h.pending_eq, Collection.state, Collection.firstPending?_eq]
  cases c.pending with
  | nil => simp
  | cons s rest =>
    simp only [List.head?_cons, Option.isNone_some, Bool.false_eq_true, if_false]
    split <;> simp

theorem fits {d : Collection} {reply : Reply} (h : Reached start pages c)
    (hr : c.receive reply = .ok d) : reply.Fits pages.pending := by
  rw [← Reply.fault?_eq_none_iff, ← h.pending_eq, Option.eq_none_iff_forall_ne_some]
  intro e he
  cases hr.symm.trans (Collection.receive_error_iff.2 he)

theorem exceeded?_eq (h : Reached start pages c) (t : Session) (scope : Scope) :
    t.exceeded? scope pages.length c = Leg.excess? t.pageLimit ⟨scope, pages⟩ := by
  rw [Session.exceeded?, Leg.excess?, Collection.firstPending?_eq, h.pending_eq]

end Reached

theorem Session.Course.outcome {t : Session} {scope : Scope} {n : Nat} {state : ScopeState}
    {start c : Collection} {replies : List Reply} {r : Run Collection} {earlier : Pages}
    (h : t.Course scope n state c replies r) (hn : n = earlier.length)
    (hc : Reached start earlier c) (hp : earlier.pending ≠ []) (hs : earlier.AreSound) :
    ∃ taken rest, replies = taken ++ rest ∧ Pages.AreSound (earlier ++ taken) ∧
      ((Pages.AreWhole (earlier ++ taken) ∧ ∃ d, Reached start (earlier ++ taken) d ∧
          r.ending = .done d rest ∧ r.calls.length = taken.length) ∨
        (Pages.pending (earlier ++ taken) ≠ [] ∧
          Leg.Halts t.pageLimit ⟨scope, earlier ++ taken⟩ taken.length rest r)) := by
  -- on the course; what carries over is that the collection is what the earlier pages made of it
  induction h generalizing earlier with
  | exceeded he =>
    rw [hn, hc.exceeded?_eq] at he
    refine ⟨[], _, rfl, ?_, .inr ?_⟩ <;> rw [List.append_nil]
    · exact hs
    · exact ⟨hp, .exceeded he rfl rfl⟩
  | awaiting he =>
    rw [hn, hc.exceeded?_eq] at he
    refine ⟨[], _, rfl, ?_, .inr ?_⟩ <;> rw [List.append_nil]
    · exact hs
    · exact ⟨hp, .awaiting he rfl rfl⟩
  | refused he hr =>
    rw [hn, hc.exceeded?_eq] at he
    rw [Collection.receive_error_iff, hc.pending_eq] at hr
    refine ⟨[], _, rfl, ?_, .inr ?_⟩ <;> rw [List.append_nil]
    · exact hs
    · exact ⟨hp, .refused he hr rfl rfl⟩
  | finished he hr hd =>
    have hd' := hc.receive hr
    rw [hd'.state_eq_iff] at hd
    have hf := hc.fits hr
    exact ⟨[_], _, rfl, hs.concat hf, .inl ⟨⟨_, _, rfl, hp, hd⟩, _, hd', rfl, rfl⟩⟩
  | @advanced pages state c d reply rest r he hr hd _ ih =>
    have hd' := hc.receive hr
    rw [ne_eq, hd'.state_eq_iff] at hd
    have hf := hc.fits hr
    obtain ⟨taken, left, rfl, hsound, hend⟩ := ih (by simp [hn]) hd' hd (hs.concat hf)
    rw [List.append_assoc, List.singleton_append] at hsound hend
    refine ⟨reply :: taken, left, rfl, hsound, ?_⟩
    rcases hend with ⟨hw, e, he, hr, hl⟩ | ⟨hp, hh⟩
    · exact .inl ⟨hw, e, he, hr, by simp [Run.after, hl]⟩
    · have := (hh.after [] (scope.changes .fetching d.state)).after [t.call scope c]
        (scope.changes state .fetching)
      simp only [List.length_nil, List.length_singleton] at this
      exact .inr ⟨hp, by simpa [Nat.add_comm] using this⟩

def Session.callAfter (t : Session) (leg : Leg) : Call :=
  ⟨t.document, Stream.all.foldl (fun b s => b.set s.cursorVariable
    (.optionalText (leg.pages.cursor s.key))) (t.filterBindings leg.scope)⟩

def Call.filters (call : Call) : List (Option Query.VariableValue) :=
  Stream.all.map fun s => call.bindings.get? s.queryVariable

def Scope.filters (scope : Scope) (user : Username) : List (Option Query.VariableValue) :=
  Stream.all.map fun s => some (.text (s.filter user scope))

theorem Session.filters_callAfter (t : Session) (leg : Leg) :
    (t.callAfter leg).filters = leg.scope.filters t.user := by rfl

theorem Reached.call_eq {start c : Collection} {pages : Pages} (h : Reached start pages c)
    (t : Session) (scope : Scope) : t.call scope c = t.callAfter ⟨scope, pages⟩ := by
  simp only [Session.call, Session.callAfter, Session.bindings, h.cursor]

theorem Session.Course.calls {t : Session} {scope : Scope} {n : Nat} {state : ScopeState}
    {start c : Collection} {replies : List Reply} {r : Run Collection} {earlier : Pages}
    (h : t.Course scope n state c replies r) (hc : Reached start earlier c)
    (hp : earlier.pending ≠ []) (hs : earlier.AreSound) {k : Nat} {call : Call}
    (hk : r.calls[k]? = some call) :
    call = t.callAfter ⟨scope, earlier ++ replies.take k⟩ ∧
      Pages.pending (earlier ++ replies.take k) ≠ [] ∧
      Pages.AreSound (earlier ++ replies.take k) := by
  induction h generalizing earlier k with
  | exceeded he => cases hk
  | advanced he hr hd _ ih =>
    have hd' := hc.receive hr
    rw [ne_eq, hd'.state_eq_iff] at hd
    cases k with
    | zero =>
      cases hk
      rw [List.take_zero, List.append_nil]
      exact ⟨hc.call_eq t scope, hp, hs⟩
    | succ k =>
      have := ih hd' hd (hs.concat (hc.fits hr)) hk
      rwa [List.append_assoc, List.singleton_append] at this
  | _ =>
    cases k with
    | zero =>
      cases hk
      rw [List.take_zero, List.append_nil]
      exact ⟨hc.call_eq t scope, hp, hs⟩
    | succ k => cases hk

namespace Session

theorem fetchScope_outcome (t : Session) (scope : Scope) (c : Collection) (replies : List Reply) :
    ∃ taken rest, replies = taken ++ rest ∧ Pages.AreSound taken ∧
      ((Pages.AreWhole taken ∧ ∃ d, Reached c taken d ∧
          (t.fetchScope scope 0 .initial c.beginScope replies).ending = .done d rest ∧
          (t.fetchScope scope 0 .initial c.beginScope replies).calls.length = taken.length) ∨
        (Pages.pending taken ≠ [] ∧ Leg.Halts t.pageLimit ⟨scope, taken⟩ taken.length rest
          (t.fetchScope scope 0 .initial c.beginScope replies))) :=
  (t.fetchScope_course scope 0 .initial c.beginScope replies).outcome rfl (.beginScope c)
    (by decide) .nil

theorem fetchScope_filters (t : Session) (scope : Scope) (c : Collection) (replies : List Reply) :
    (t.fetchScope scope 0 .initial c.beginScope replies).calls.map Call.filters =
      List.replicate (t.fetchScope scope 0 .initial c.beginScope replies).calls.length
        (scope.filters t.user) := by
  have hcourse := t.fetchScope_course scope 0 .initial c.beginScope replies
  rw [List.eq_replicate_iff, List.length_map]
  refine ⟨rfl, fun fs hfs => ?_⟩
  obtain ⟨call, hmem, rfl⟩ := List.mem_map.1 hfs
  obtain ⟨k, hk⟩ := List.mem_iff_getElem?.1 hmem
  rw [(hcourse.calls (.beginScope c) (by decide) .nil hk).1, t.filters_callAfter]

/-- What a session comes to: it gets through all scopes, or it halts in one of them. -/
theorem fetchScopes_outcome (t : Session) (scopes : List Scope) (c : Collection)
    (replies : List Reply) :
    ∃ taken rest, replies = taken ++ rest ∧ (∀ leg ∈ legs scopes taken, leg.pages.AreSound) ∧
      ((Complete scopes taken ∧ ∃ d,
          (t.fetchScopes scopes c replies).ending = .done d rest ∧
          (t.fetchScopes scopes c replies).calls.length = taken.length ∧
          (t.fetchScopes scopes c replies).calls.map Call.filters = (legs scopes taken).flatMap
            (fun leg => List.replicate leg.pages.length (leg.scope.filters t.user)) ∧
          ∀ s, (d.get s).items.map Except.ok = (c.get s).items.map Except.ok ++
            ((legs scopes taken).flatMap fun leg => leg.pages.nodes s.key).map s.readItem) ∨
        ∃ leg, currentLeg? scopes taken = some leg ∧
          leg.Halts t.pageLimit taken.length rest (t.fetchScopes scopes c replies)) := by
  induction scopes generalizing c replies with
  | nil =>
    refine ⟨[], replies, rfl, fun _ h => (List.not_mem_nil h).elim,
      .inl ⟨.nil, c, rfl, rfl, rfl, ?_⟩⟩
    exact fun s => (List.append_nil _).symm
  | cons scope rest ih =>
    obtain ⟨pages, unread, rfl, hs, ⟨hw, d, hd, he, hl⟩ | ⟨hp, hh⟩⟩ :=
      t.fetchScope_outcome scope c replies
    · obtain ⟨taken, left, rfl, hsound, hend⟩ := ih d unread
      refine ⟨pages ++ taken, left, (List.append_assoc ..).symm, ?_, ?_⟩
      · rw [legs_cons_append _ _ hw]
        exact List.forall_mem_cons.2 ⟨hs, hsound⟩
      · have hfilters := t.fetchScope_filters scope c (pages ++ (taken ++ left))
        rw [fetchScopes]
        generalize t.fetchScope scope 0 .initial c.beginScope (pages ++ (taken ++ left)) = r
          at he hl hfilters
        rw [Run.bind_of_done he, List.length_append, ← hl]
        rcases hend with ⟨hn, e, he, hc, hf, hi⟩ | ⟨leg, hleg, hh⟩
        · have hlegs := legs_cons_append scope rest hw taken
          refine .inl ⟨.cons hw hn, e, he, ?_, ?_, fun s => ?_⟩
          · rw [Run.after, List.length_append, hc]
          · rw [Run.after, List.map_append, hfilters, hf, hlegs, List.flatMap_cons, hl]
          · rw [hi s, hd.items s, hlegs, List.flatMap_cons, List.map_append, List.append_assoc]
        · exact .inr ⟨leg, by rw [currentLeg?_cons_append _ _ hw, hleg], hh.after _ _⟩
    · refine ⟨pages, unread, rfl, ?_,
        .inr ⟨_, currentLeg?_cons_of_pending scope rest hp, hh.bind _⟩⟩
      rw [legs, if_neg hp]
      exact List.forall_mem_singleton.2 hs

theorem fetchScopes_calls (t : Session) (scopes : List Scope) (c : Collection)
    (replies : List Reply) {k : Nat} {call : Call}
    (hk : (t.fetchScopes scopes c replies).calls[k]? = some call) :
    ∃ leg, currentLeg? scopes (replies.take k) = some leg ∧ leg.pages.AreSound ∧
      call = t.callAfter leg := by
  induction scopes generalizing c replies k with
  | nil => cases hk
  | cons scope rest ih =>
    have hcourse := t.fetchScope_course scope 0 .initial c.beginScope replies
    have hfirst : ∀ {k},
        (t.fetchScope scope 0 .initial c.beginScope replies).calls[k]? = some call →
        ∃ leg, currentLeg? (scope :: rest) (replies.take k) = some leg ∧ leg.pages.AreSound ∧
          call = t.callAfter leg := by
      intro k hk
      obtain ⟨hcall, hp, hs⟩ := hcourse.calls (.beginScope c) (by decide) .nil hk
      exact ⟨_, currentLeg?_cons_of_pending scope rest hp, hs, hcall⟩
    obtain ⟨pages, unread, rfl, -, ⟨hw, d, hd, he, hl⟩ | ⟨hp, hh⟩⟩ :=
      t.fetchScope_outcome scope c replies
    · rw [fetchScopes, Run.bind_of_done he, Run.after] at hk
      by_cases hlt : k < pages.length
      · rw [List.getElem?_append_left (hl ▸ hlt)] at hk
        exact hfirst hk
      · rw [List.getElem?_append_right (by omega), hl] at hk
        obtain ⟨leg, hleg, hcall⟩ := ih d unread hk
        refine ⟨leg, ?_, hcall⟩
        rwa [List.take_append, List.take_of_length_le (by omega), currentLeg?_cons_append _ _ hw]
    · have hcalls := hh.calls_bind (t.fetchScopes rest)
      rw [fetchScopes, hcalls] at hk
      exact hfirst hk

end Session

end Docket.Sidebar
