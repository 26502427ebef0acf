import Docket.Proofs.Node
import Docket.Proofs.Plan
/-!
Two fetches side by side. A stream that has ended in a scope is not read any more, so replies that
differ only in what they hold for such streams lead to the same calls, the same changes of state and
the same result.
-/

namespace Docket.Sidebar

open Result (Value Record Response)

def Reply.AgreesOn (pending : List Stream) (a b : Reply) : Prop :=
  a = b ∨ ∃ o o' : Record, a = .ok (.object o) ∧ b = .ok (.object o') ∧
    ∀ s ∈ pending, o.get? s.key = o'.get? s.key

namespace Collection

variable {r r' : Response} {c : Collection}

theorem readPage_congr {s : Stream}
    (h : Entries.get? s.key r.entries = Entries.get? s.key r'.entries) :
    readPage r s = readPage r' s := by
  have hobject : r.object s.key = r'.object s.key := by
    simp only [Response.object, Response.get, h]
  simp only [readPage, hobject]

theorem absorbStream_congr {s : Stream} (h : (c.get s).isExhausted = false →
    Entries.get? s.key r.entries = Entries.get? s.key r'.entries) :
    absorbStream r c s = absorbStream r' c s := by
  unfold absorbStream
  by_cases he : (c.get s).isExhausted = true
  · simp only [he, if_true]
  · rw [readPage_congr (h (Bool.eq_false_iff.2 he))]

theorem foldlM_absorbStream_congr {ss : List Stream} (hn : ss.Nodup)
    (h : ∀ s ∈ ss, (c.get s).isExhausted = false →
      Entries.get? s.key r.entries = Entries.get? s.key r'.entries) :
    ss.foldlM (absorbStream r) c = ss.foldlM (absorbStream r') c := by
  induction ss generalizing c with
  | nil => rfl
  | cons s ss ih =>
    obtain ⟨hs, hn⟩ := List.nodup_cons.1 hn
    have hstep := absorbStream_congr (h s List.mem_cons_self)
    rw [List.foldlM_cons, List.foldlM_cons, ← hstep]
    cases hd : absorbStream r c s with
    | error e => rfl
    | ok d =>
      -- the first stream changed its own walk only, so the others are as pending as before
      have hkeep := (absorbStream_ok hd).2
      apply ih hn
      intro u hu he
      have hus : u ≠ s := fun hus => hs (hus ▸ hu)
      rw [hkeep u hus] at he
      exact h u (List.mem_cons_of_mem _ hu) he

theorem receive_congr {a b : Reply} (h : a.AgreesOn c.pending b) : c.receive a = c.receive b := by
  rcases h with rfl | ⟨o, o', rfl, rfl, h⟩
  · rfl
  · show c.absorb o.toResponse = c.absorb o'.toResponse
    apply foldlM_absorbStream_congr Stream.nodup_all
    intro s hs he
    have hmem : s ∈ c.pending := List.mem_filter.2 ⟨hs, by simp [he]⟩
    rw [o.get?_toResponse, o'.get?_toResponse, h s hmem]

end Collection

/-- Replies to two runs over the same scopes, call by call the same on the streams that are pending
in the first. -/
structure Twins (scopes : List Scope) (rs rs' : List Reply) : Prop where
  length : rs.length = rs'.length
  agree : ∀ (k : Nat) (a b : Reply), rs[k]? = some a → rs'[k]? = some b →
    ∀ leg, currentLeg? scopes (rs.take k) = some leg → a.AgreesOn leg.pages.pending b

namespace Twins

variable {scope : Scope} {rest : List Scope} {pages pages' : Pages} {rs rs' : List Reply}

theorem next {a : Reply} (hl : pages.length = pages'.length) (hp : pages.pending ≠ [])
    (h : Twins (scope :: rest) (pages ++ a :: rs) (pages' ++ rs')) :
    ∃ b more, rs' = b :: more ∧ a.AgreesOn pages.pending b ∧
      Twins (scope :: rest) (pages ++ [a] ++ rs) (pages' ++ [b] ++ more) := by
  cases rs' with
  | nil =>
    have hlen := h.length
    simp only [List.length_append, List.length_cons, List.length_nil] at hlen
    omega
  | cons b more =>
    have ha : (pages ++ a :: rs)[pages.length]? = some a := by simp
    have hb : (pages' ++ b :: more)[pages.length]? = some b := by simp [hl]
    have hleg : currentLeg? (scope :: rest) ((pages ++ a :: rs).take pages.length) =
        some ⟨scope, pages⟩ := by
      rw [List.take_left]
      exact currentLeg?_cons_of_pending scope rest hp
    have hagree := h.agree pages.length a b ha hb _ hleg
    rw [List.append_cons, List.append_cons pages'] at h
    exact ⟨b, more, rfl, hagree, h⟩

theorem tail (hl : pages.length = pages'.length) (hw : pages.AreWhole)
    (h : Twins (scope :: rest) (pages ++ rs) (pages' ++ rs')) : Twins rest rs rs' where
  length := by
    have hlen := h.length
    simp only [List.length_append] at hlen
    omega
  agree k a b ha hb leg hleg := by
    have ha' : (pages ++ rs)[pages.length + k]? = some a := by
      rw [List.getElem?_append_right (Nat.le_add_right _ _), Nat.add_sub_cancel_left, ha]
    have hb' : (pages' ++ rs')[pages.length + k]? = some b := by
      rw [hl, List.getElem?_append_right (Nat.le_add_right _ _), Nat.add_sub_cancel_left, hb]
    refine h.agree (pages.length + k) a b ha' hb' leg ?_
    rw [List.take_length_add_append, currentLeg?_cons_append _ _ hw, hleg]

end Twins

inductive Run.Alike {α : Type} (R : List Reply → List Reply → Prop) : Run α → Run α → Prop
  | done {calls : List Call} {changes : List Change} {a : α} {unread unread' : List Reply} :
    R unread unread' → Alike R ⟨calls, changes, .done a unread⟩ ⟨calls, changes, .done a unread'⟩
  | failed {calls : List Call} {changes : List Change} {e : Failure} :
    Alike R ⟨calls, changes, .failed e⟩ ⟨calls, changes, .failed e⟩
  | awaiting {calls : List Call} {changes : List Change} :
    Alike R ⟨calls, changes, .awaiting⟩ ⟨calls, changes, .awaiting⟩

namespace Run.Alike

variable {α β : Type} {R S : List Reply → List Reply → Prop} {r r' : Run α}

theorem after (h : Alike R r r') (calls : List Call) (changes : List Change) :
    Alike R (r.after calls changes) (r'.after calls changes) := by
  cases h with
  | done hR => exact .done hR
  | failed => exact .failed
  | awaiting => exact .awaiting

theorem bind (h : Alike R r r') {f : α → List Reply → Run β}
    (hf : ∀ a rs rs', R rs rs' → Alike S (f a rs) (f a rs')) : Alike S (r.bind f) (r'.bind f) := by
  cases h with
  | done hR => exact (hf _ _ _ hR).after _ _
  | failed => exact .failed
  | awaiting => exact .awaiting

theorem ending_eq_awaiting_iff (h : Alike R r r') :
    r.ending = .awaiting ↔ r'.ending = .awaiting := by
  cases h <;> simp

end Run.Alike

theorem Reached.receive_congr {start c : Collection} {pages : Pages} {a b : Reply}
    (hc : Reached start pages c) (h : a.AgreesOn pages.pending b) : c.receive a = c.receive b := by
  rw [← hc.pending_eq] at h
  exact Collection.receive_congr h

theorem Session.Course.alike {t : Session} {scope : Scope} {rest : List Scope} {n : Nat}
    {state : ScopeState} {start c : Collection} {rs rs' : List Reply} {r : Run Collection}
    {pages q : Pages} (h : t.Course scope n state c rs r) (hc : Reached start pages c)
    (hp : pages.pending ≠ []) (hl : pages.length = q.length)
    (ht : Twins (scope :: rest) (pages ++ rs) (q ++ rs')) :
    Run.Alike (Twins rest) r (t.fetchScope scope n state c rs') := by
  induction h generalizing pages q rs' with
  | exceeded he =>
    rw [fetchScope.eq_def]
    simp only [he]
    exact .failed
  | awaiting he =>
    have hlen := ht.length
    simp only [List.length_append, List.length_nil] at hlen
    obtain rfl : rs' = [] := List.eq_nil_of_length_eq_zero (by omega)
    rw [fetchScope.eq_def]
    simp only [he]
    exact .awaiting
  | refused he hr =>
    obtain ⟨b, more, rfl, hb, -⟩ := ht.next hl hp
    rw [hc.receive_congr hb] at hr
    rw [fetchScope]
    simp only [he, hr]
    exact .failed
  | finished he hr hd =>
    obtain ⟨b, more, rfl, hb, hnext⟩ := ht.next hl hp
    have hd' := hc.receive hr
    -- the scope is whole with this page, so what is left of the replies serves the scopes after it
    have hw : Pages.AreWhole (pages ++ [_]) := ⟨_, _, rfl, hp, hd'.state_eq_iff.1 hd⟩
    have htail := hnext.tail (by simp [hl]) hw
    rw [hc.receive_congr hb] at hr
    rw [fetchScope]
    simp only [he, hr, hd, if_true]
    exact .done htail
  | advanced he hr hd _ ih =>
    obtain ⟨b, more, rfl, hb, hnext⟩ := ht.next hl hp
    have hd' := hc.receive hr
    have hp' := mt hd'.state_eq_iff.2 hd
    have hrest := ih hd' hp' (by simp [hl]) hnext
    rw [hc.receive_congr hb] at hr
    rw [fetchScope]
    simp only [he, hr, hd, if_false]
    exact (hrest.after _ _).after _ _

theorem Session.fetchScopes_alike (t : Session) (scopes : List Scope) (c : Collection)
    {rs rs' : List Reply} (h : Twins scopes rs rs') :
    Run.Alike (Twins []) (t.fetchScopes scopes c rs) (t.fetchScopes scopes c rs') := by
  induction scopes generalizing c rs rs' with
  | nil => exact .done h
  | cons scope rest ih =>
    have hcourse := t.fetchScope_course scope 0 .initial c.beginScope rs
    have hscope := hcourse.alike (q := []) (.beginScope c) (by decide) rfl h
    exact hscope.bind fun d _ _ hrest => ih d hrest

namespace Plan

variable (p : Plan) (orgs : List Organization)

theorem fetch_alike {rs rs' : List Reply} (h : Twins (Scope.ofList orgs) rs rs') :
    Run.Alike (Twins []) (p.fetch orgs rs) (p.fetch orgs rs') := by
  unfold fetch
  cases p.session with
  | error e => exact .failed
  | ok t => exact (t.fetchScopes_alike _ .empty h).bind fun c _ _ hrest => .done hrest

theorem replies_prefix (g : Gateway) {n m : Nat} (h : n ≤ m) :
    p.replies orgs g n <+: p.replies orgs g m := by
  induction h with
  | refl => exact List.prefix_refl _
  | @step m _ ih =>
    by_cases ha : (p.fetchFrom orgs g m).ending = .awaiting
    · have hm : p.replies orgs g (m + 1) = p.replies orgs g m ++ _ :=
        Gateway.replies_succ_of_awaiting ha
      rw [hm]
      exact ih.trans (List.prefix_append _ _)
    · have hm : p.replies orgs g (m + 1) = p.replies orgs g m := Gateway.replies_succ_of_ne ha
      rwa [hm]

theorem fetchFrom_unread {g : Gateway} {rounds : Nat} {d : Digest} {unread : List Reply}
    (h : (p.fetchFrom orgs g rounds).ending = .done d unread) : unread = [] := by
  cases p.fetchFrom_stands orgs g rounds with
  | through _ _ he =>
    rw [he] at h
    cases h
    rfl
  | exceeded _ _ _ he => rw [he] at h; cases h
  | refused _ _ _ _ _ he => rw [he] at h; cases h
  | awaiting _ _ _ he => rw [he] at h; cases h

variable {p orgs}

theorem twins_replies {g g' : Gateway} {rounds : Nat}
    (h : ∀ (k : Nat) (a b : Reply), (p.replies orgs g rounds)[k]? = some a →
      (p.replies orgs g' rounds)[k]? = some b → ∀ leg,
        currentLeg? (Scope.ofList orgs) ((p.replies orgs g rounds).take k) = some leg →
          a.AgreesOn leg.pages.pending b) {n : Nat} (hn : n ≤ rounds) :
    Twins (Scope.ofList orgs) (p.replies orgs g n) (p.replies orgs g' n) := by
  -- that the replies agree is given; what the rounds show is that there are as many of them
  induction n with
  | zero => exact ⟨rfl, fun k a b ha => by cases ha⟩
  | succ n ih =>
    have htwins := ih (Nat.le_of_succ_le hn)
    have hending := (p.fetch_alike orgs htwins).ending_eq_awaiting_iff
    refine ⟨?_, fun k a b ha hb leg hleg => ?_⟩
    · by_cases ha : (p.fetchFrom orgs g n).ending = .awaiting
      · have hs : p.replies orgs g (n + 1) = p.replies orgs g n ++ [_] :=
          Gateway.replies_succ_of_awaiting ha
        have hs' : p.replies orgs g' (n + 1) = p.replies orgs g' n ++ [_] :=
          Gateway.replies_succ_of_awaiting (hending.1 ha)
        rw [hs, hs', List.length_append, List.length_append, htwins.length]
        rfl
      · have hs : p.replies orgs g (n + 1) = p.replies orgs g n :=
          Gateway.replies_succ_of_ne ha
        have hs' : p.replies orgs g' (n + 1) = p.replies orgs g' n :=
          Gateway.replies_succ_of_ne (mt hending.2 ha)
        rw [hs, hs', htwins.length]
    · obtain ⟨later, hg⟩ := p.replies_prefix orgs g hn
      obtain ⟨later', hg'⟩ := p.replies_prefix orgs g' hn
      have hka := (List.getElem?_eq_some_iff.1 ha).1
      have hkb := (List.getElem?_eq_some_iff.1 hb).1
      refine h k a b ?_ ?_ leg ?_
      · rw [← hg, List.getElem?_append_left hka, ha]
      · rw [← hg', List.getElem?_append_left hkb, hb]
      · rw [← hg, List.take_append_of_le_length (Nat.le_of_lt hka), hleg]

/-- Fetches whose replies agree, call by call, on the streams that are pending in the first of them
are one and the same fetch. -/
theorem fetchFrom_eq_of_agreesOn {g g' : Gateway} {rounds : Nat}
    (h : ∀ (k : Nat) (a b : Reply), (p.replies orgs g rounds)[k]? = some a →
      (p.replies orgs g' rounds)[k]? = some b → ∀ leg,
        currentLeg? (Scope.ofList orgs) ((p.replies orgs g rounds).take k) = some leg →
          a.AgreesOn leg.pages.pending b) :
    p.fetchFrom orgs g' rounds = p.fetchFrom orgs g rounds := by
  have hunread := @fetchFrom_unread p orgs g rounds
  have hunread' := @fetchFrom_unread p orgs g' rounds
  have halike : Run.Alike (Twins []) (p.fetchFrom orgs g rounds) (p.fetchFrom orgs g' rounds) :=
    p.fetch_alike orgs (twins_replies h (Nat.le_refl _))
  generalize p.fetchFrom orgs g rounds = r, p.fetchFrom orgs g' rounds = r' at *
  cases halike with
  | done =>
    rw [hunread rfl, hunread' rfl]
  | failed => rfl
  | awaiting => rfl

end Plan

def openingReply : Reply := .ofPages fun s =>
  match s with
  | .reviewRequested =>
    ⟨[.object (Stream.reviewRequested.record (.numbered 1))], some "c", true⟩
  | _ => ⟨[], none, false⟩

def closingReply : Reply := .ofPages fun _ => ⟨[], none, false⟩

/-- The last page of the one stream, with a text where another has its search and with no entry at
all for the third. -/
def spoiltReply : Reply :=
  .ok (.object ⟨none, [("openItems", .string "gone"),
    ("reviewRequested", .object (ServerPage.search ⟨[], none, false⟩))]⟩)

theorem fetchFrom_eq_sample :
    ((samplePlan none).fetchFrom [] (fun calls => if calls.length = 1 then openingReply else
      spoiltReply) 2).ending = .done ⟨[.numbered 1], [], []⟩ [] ∧
    (samplePlan none).fetchFrom [] (fun calls => if calls.length = 1 then openingReply else
      spoiltReply) 2 = (samplePlan none).fetchFrom [] (fun calls =>
        if calls.length = 1 then openingReply else closingReply) 2 := by
  have hs : (samplePlan none).replies [] (fun calls => if calls.length = 1 then openingReply else
      closingReply) 2 = [openingReply, closingReply] := by rfl
  have hs' : (samplePlan none).replies [] (fun calls => if calls.length = 1 then openingReply else
      spoiltReply) 2 = [openingReply, spoiltReply] := by rfl
  refine ⟨by rfl, Plan.fetchFrom_eq_of_agreesOn fun k a b ha hb leg hleg => ?_⟩
  rw [hs] at ha hleg
  rw [hs'] at hb
  match k with
  | 0 =>
    cases ha
    cases hb
    exact .inl rfl
  | 1 =>
    cases ha
    cases hb
    cases hleg
    refine .inr ⟨_, _, rfl, rfl, fun s hmem => ?_⟩
    have hpending : Pages.pending [openingReply] = [.reviewRequested] := by decide
    obtain rfl := List.mem_singleton.1 (hpending ▸ hmem)
    rfl
  | k + 2 => cases ha

end Docket.Sidebar
