import Docket.Proofs.Pages
import Mathlib.Data.List.Induction
/-!
The legs of a run: the scopes it has come to and the pages that each has had. Which leg a run is in
can be told from the replies alone.
-/

namespace Docket.Sidebar

namespace Pages

/-- The number of the page on which the last stream ends. -/
def total (pages : Pages) : Nat := Stream.largest fun s => pages.last s.key

theorem mem_pending {pages : Pages} {s : Stream} :
    s ∈ pages.pending ↔ pages.hasEnded s.key = false := by
  simp [pending, Stream.mem_all]

theorem pending_eq_nil_iff {pages : Pages} :
    pages.pending = [] ↔ ∀ s : Stream, pages.hasEnded s.key = true := by
  simp [List.eq_nil_iff_forall_not_mem, mem_pending]

theorem pending_append_eq_nil {pages : Pages} (h : pages.pending = []) (more : List Reply) :
    pending (pages ++ more) = [] := by
  rw [pending_eq_nil_iff] at h ⊢
  intro s
  rw [hasEnded, List.any_append, ← hasEnded, h s, Bool.true_or]

def AreWhole (pages : Pages) : Prop :=
  ∃ earlier reply, pages = earlier ++ [reply] ∧ pending earlier ≠ [] ∧ pages.pending = []

theorem AreWhole.pending_append {pages : Pages} (h : pages.AreWhole) (more : List Reply) :
    pending (pages ++ more) = [] := by
  obtain ⟨_, _, _, _, hp⟩ := h
  exact pending_append_eq_nil hp more

theorem AreWhole.total_append {pages : Pages} (h : pages.AreWhole) (more : List Reply) :
    total (pages ++ more) = pages.length := by
  obtain ⟨earlier, reply, rfl, he, hp⟩ := h
  rw [pending_eq_nil_iff] at hp
  have hl : ∀ s : Stream,
      last (earlier ++ [reply] ++ more) s.key = last (earlier ++ [reply]) s.key :=
    fun s => last_append_of_hasEnded (hp s) more
  apply Nat.le_antisymm
  · refine Stream.largest_le_iff.2 fun s => ?_
    rw [hl s, last_le_length_iff]
    exact hp s
  · obtain ⟨s, hs⟩ := List.exists_mem_of_ne_nil _ he
    have hlast := last_concat_of_not_hasEnded (mem_pending.1 hs) reply
    have htotal := Stream.largest_le_iff.1 (Nat.le_refl (total (earlier ++ [reply] ++ more))) s
    rw [hl s, hlast] at htotal
    rw [List.length_append, List.length_singleton]
    split at htotal <;> omega

theorem AreWhole.pending_take {pages : Pages} (h : pages.AreWhole) {k : Nat}
    (hk : k < pages.length) : pending (pages.take k) ≠ [] := by
  obtain ⟨earlier, reply, rfl, he, -⟩ := h
  rw [List.length_append, List.length_singleton] at hk
  rw [List.take_append_of_le_length (by omega)]
  intro hp
  have hall := pending_append_eq_nil hp (earlier.drop k)
  rw [List.take_append_drop] at hall
  exact he hall

theorem whole_or_pending (replies : List Reply) :
    (∃ pages more, replies = pages ++ more ∧ AreWhole pages) ∨ pending replies ≠ [] := by
  -- from the end, since it is the latest page on which the last stream may end
  induction replies using List.reverseRecOn with
  | nil => exact .inr (by decide)
  | append_singleton earlier reply ih =>
    rcases ih with ⟨pages, more, rfl, hw⟩ | hp
    · exact .inl ⟨pages, more ++ [reply], List.append_assoc .., hw⟩
    · by_cases hall : pending (earlier ++ [reply]) = []
      · exact .inl ⟨_, [], (List.append_nil _).symm, earlier, reply, rfl, hp, hall⟩
      · exact .inr hall

end Pages

structure Leg where
  scope : Scope
  pages : Pages

/-- The replies of a run, told apart by scope: each scope has the pages up to the one on which its
last stream ends. -/
def legs : List Scope → List Reply → List Leg
  | [], _ => []
  | scope :: rest, replies =>
    if Pages.pending replies = [] then
      ⟨scope, replies.take (Pages.total replies)⟩ :: legs rest (replies.drop (Pages.total replies))
    else [⟨scope, replies⟩]

def currentLeg? : List Scope → List Reply → Option Leg
  | [], _ => none
  | scope :: rest, replies =>
    if Pages.pending replies = [] then currentLeg? rest (replies.drop (Pages.total replies))
    else some ⟨scope, replies⟩

theorem legs_cons_append (scope : Scope) (rest : List Scope) {pages : Pages} (h : pages.AreWhole)
    (more : List Reply) :
    legs (scope :: rest) (pages ++ more) = ⟨scope, pages⟩ :: legs rest more := by
  rw [legs, if_pos (h.pending_append more), h.total_append, List.take_left, List.drop_left]

theorem currentLeg?_cons_append (scope : Scope) (rest : List Scope) {pages : Pages}
    (h : pages.AreWhole) (more : List Reply) :
    currentLeg? (scope :: rest) (pages ++ more) = currentLeg? rest more := by
  rw [currentLeg?, if_pos (h.pending_append more), h.total_append, List.drop_left]

theorem currentLeg?_cons_of_pending (scope : Scope) (rest : List Scope) {pages : Pages}
    (h : pages.pending ≠ []) : currentLeg? (scope :: rest) pages = some ⟨scope, pages⟩ := by
  rw [currentLeg?, if_neg h]

theorem legs_cons_of_pending (scope : Scope) (rest : List Scope) {pages : Pages}
    (h : pages.pending ≠ []) : legs (scope :: rest) pages = [⟨scope, pages⟩] := by
  rw [legs, if_neg h]

theorem mem_legs_of_currentLeg? {scopes : List Scope} {replies : List Reply} {leg : Leg}
    (h : currentLeg? scopes replies = some leg) :
    leg ∈ legs scopes replies ∧ leg.pages.pending ≠ [] := by
  induction scopes generalizing replies with
  | nil => cases h
  | cons scope rest ih =>
    rcases Pages.whole_or_pending replies with ⟨pages, more, rfl, hw⟩ | hp
    · rw [currentLeg?_cons_append _ _ hw] at h
      rw [legs_cons_append _ _ hw]
      obtain ⟨hmem, hp⟩ := ih h
      exact ⟨List.mem_cons_of_mem _ hmem, hp⟩
    · rw [currentLeg?_cons_of_pending _ _ hp] at h
      cases h
      rw [legs_cons_of_pending _ _ hp]
      exact ⟨List.mem_singleton_self _, hp⟩

theorem scope_mem_of_mem_legs {scopes : List Scope} {replies : List Reply} {leg : Leg}
    (h : leg ∈ legs scopes replies) : leg.scope ∈ scopes := by
  induction scopes generalizing replies with
  | nil => cases h
  | cons scope rest ih =>
    rcases Pages.whole_or_pending replies with ⟨pages, more, rfl, hw⟩ | hp
    · rw [legs_cons_append _ _ hw] at h
      rcases List.mem_cons.1 h with rfl | h
      · exact List.mem_cons_self
      · exact List.mem_cons_of_mem _ (ih h)
    · rw [legs_cons_of_pending _ _ hp] at h
      obtain rfl := List.mem_singleton.1 h
      exact List.mem_cons_self

theorem mem_legs_concat {scopes : List Scope} {replies : List Reply} {leg : Leg}
    (h : currentLeg? scopes replies = some leg) (reply : Reply) :
    ⟨leg.scope, leg.pages ++ [reply]⟩ ∈ legs scopes (replies ++ [reply]) := by
  induction scopes generalizing replies with
  | nil => cases h
  | cons scope rest ih =>
    rcases Pages.whole_or_pending replies with ⟨pages, more, rfl, hw⟩ | hp
    · rw [currentLeg?_cons_append _ _ hw] at h
      rw [List.append_assoc, legs_cons_append _ _ hw]
      exact List.mem_cons_of_mem _ (ih h)
    · rw [currentLeg?_cons_of_pending _ _ hp] at h
      cases h
      by_cases hall : Pages.pending (replies ++ [reply]) = []
      · have hl := legs_cons_append scope rest ⟨replies, reply, rfl, hp, hall⟩ []
        rw [List.append_nil] at hl
        rw [hl]
        exact List.mem_cons_self
      · rw [legs_cons_of_pending _ _ hall]
        exact List.mem_singleton_self _

theorem flatMap_legs_of_currentLeg? {scopes : List Scope} {replies : List Reply} {leg : Leg}
    (h : currentLeg? scopes replies = some leg) :
    (legs scopes replies).flatMap Leg.pages = replies := by
  induction scopes generalizing replies with
  | nil => cases h
  | cons scope rest ih =>
    rcases Pages.whole_or_pending replies with ⟨pages, more, rfl, hw⟩ | hp
    · rw [currentLeg?_cons_append _ _ hw] at h
      rw [legs_cons_append _ _ hw, List.flatMap_cons, ih h]
    · rw [legs_cons_of_pending _ _ hp, List.flatMap_singleton]

theorem forall_pages_of_forall_replies {P : Leg → Reply → Prop} {scopes : List Scope}
    {replies : List Reply}
    (h : ∀ (k : Nat) (reply : Reply), replies[k]? = some reply →
      ∃ leg, currentLeg? scopes (replies.take k) = some leg ∧ P leg reply)
    {leg : Leg} (hleg : leg ∈ legs scopes replies) {k : Nat} {reply : Reply}
    (hk : leg.pages[k]? = some reply) : P ⟨leg.scope, leg.pages.take k⟩ reply := by
  induction scopes generalizing replies with
  | nil => cases hleg
  | cons scope rest ih =>
    rcases Pages.whole_or_pending replies with ⟨pages, more, rfl, hw⟩ | hp
    · rw [legs_cons_append _ _ hw] at hleg
      rcases List.mem_cons.1 hleg with rfl | hleg
      · have hlt := (List.getElem?_eq_some_iff.1 hk).1
        obtain ⟨leg, hc, hP⟩ := h k reply (by rw [List.getElem?_append_left hlt, hk])
        rw [List.take_append_of_le_length (Nat.le_of_lt hlt),
          currentLeg?_cons_of_pending _ _ (hw.pending_take hlt)] at hc
        cases hc
        exact hP
      · refine ih (fun j r hj => ?_) hleg
        have hr := h (pages.length + j) r
        rw [List.getElem?_append_right (Nat.le_add_right _ _), Nat.add_sub_cancel_left,
          List.take_length_add_append, currentLeg?_cons_append _ _ hw] at hr
        exact hr hj
    · rw [legs_cons_of_pending _ _ hp] at hleg
      obtain rfl := List.mem_singleton.1 hleg
      have hlt := (List.getElem?_eq_some_iff.1 hk).1
      have htake : Pages.pending (replies.take k) ≠ [] := by
        intro hall
        have := Pages.pending_append_eq_nil hall (replies.drop k)
        rw [List.take_append_drop] at this
        exact hp this
      obtain ⟨leg, hc, hP⟩ := h k reply hk
      rw [currentLeg?_cons_of_pending _ _ htake] at hc
      cases hc
      exact hP

def pageCount (size : Scope → Nat) (scopes : List Scope) : Nat :=
  scopes.foldr (fun scope n => size scope + n) 0

theorem length_lt_of_currentLeg? {size : Scope → Nat} {scopes : List Scope} {replies : List Reply}
    (hw : ∀ leg ∈ legs scopes replies, leg.pages.AreWhole → leg.pages.length ≤ size leg.scope)
    (hp : ∀ leg ∈ legs scopes replies, leg.pages.pending ≠ [] → leg.pages.length < size leg.scope)
    {leg : Leg} (h : currentLeg? scopes replies = some leg) :
    replies.length < pageCount size scopes := by
  induction scopes generalizing replies with
  | nil => cases h
  | cons scope rest ih =>
    rw [pageCount, List.foldr_cons, ← pageCount]
    rcases Pages.whole_or_pending replies with ⟨pages, more, rfl, hwhole⟩ | hpending
    · rw [legs_cons_append _ _ hwhole] at hw hp
      rw [currentLeg?_cons_append _ _ hwhole] at h
      have hfirst := hw _ List.mem_cons_self hwhole
      have hrest := ih (fun leg hleg => hw leg (List.mem_cons_of_mem _ hleg))
        (fun leg hleg => hp leg (List.mem_cons_of_mem _ hleg)) h
      rw [List.length_append]
      exact Nat.add_lt_add_of_le_of_lt hfirst hrest
    · rw [legs_cons_of_pending _ _ hpending] at hp
      exact Nat.lt_add_right _ (hp _ (List.mem_singleton_self _) hpending)

structure Complete (scopes : List Scope) (replies : List Reply) : Prop where
  currentLeg? : currentLeg? scopes replies = none
  scope : (legs scopes replies).map Leg.scope = scopes
  pages : (legs scopes replies).flatMap Leg.pages = replies
  areWhole : ∀ leg ∈ legs scopes replies, leg.pages.AreWhole

namespace Complete

theorem nil : Complete [] [] := ⟨rfl, rfl, rfl, fun _ h => (List.not_mem_nil h).elim⟩

theorem cons {scope : Scope} {rest : List Scope} {pages : Pages} {replies : List Reply}
    (hw : pages.AreWhole) (h : Complete rest replies) :
    Complete (scope :: rest) (pages ++ replies) := by
  have hl := legs_cons_append scope rest hw replies
  refine ⟨?_, ?_, ?_, ?_⟩
  · rw [currentLeg?_cons_append _ _ hw, h.currentLeg?]
  · rw [hl, List.map_cons, h.scope]
  · rw [hl, List.flatMap_cons, h.pages]
  · rw [hl]
    exact List.forall_mem_cons.2 ⟨hw, h.areWhole⟩

theorem flatMap_eq {α : Type} {scopes : List Scope} {replies : List Reply}
    (h : Complete scopes replies) {f : Leg → List α} {g : Scope → List α}
    (hfg : ∀ leg ∈ legs scopes replies, f leg = g leg.scope) :
    (legs scopes replies).flatMap f = scopes.flatMap g := by
  have hmap : (legs scopes replies).map f = scopes.map g := by
    rw [List.map_congr_left hfg, ← h.scope, List.map_map, h.scope]
    rfl
  rw [List.flatMap_def, hmap, ← List.flatMap_def]

end Complete

def Pages.AreSound (pages : Pages) : Prop :=
  ∀ (k : Nat) (reply : Reply), pages[k]? = some reply → reply.Fits (pending (pages.take k))

theorem Pages.AreSound.nil : Pages.AreSound [] := fun _ _ h => by cases h

theorem Pages.AreSound.concat {pages : Pages} {reply : Reply} (h : pages.AreSound)
    (hr : reply.Fits pages.pending) : AreSound (pages ++ [reply]) := by
  intro k r hk
  by_cases hlt : k < pages.length
  · rw [List.getElem?_append_left hlt] at hk
    rw [List.take_append_of_le_length (Nat.le_of_lt hlt)]
    exact h k r hk
  · have hle := (List.getElem?_eq_some_iff.1 hk).1
    rw [List.length_append, List.length_singleton] at hle
    obtain rfl : k = pages.length := by omega
    rw [List.getElem?_concat_length] at hk
    cases hk
    rw [List.take_left]
    exact hr

theorem Pages.AreSound.fits_last {pages : Pages} {reply : Reply}
    (h : AreSound (pages ++ [reply])) : reply.Fits pages.pending := by
  have hfits := h pages.length reply List.getElem?_concat_length
  rwa [List.take_left] at hfits

theorem Pages.AreSound.exists_eq_ok {pages : Pages} (h : pages.AreSound) {reply : Reply}
    (hr : reply ∈ pages) : ∃ value, reply = .ok value := by
  obtain ⟨k, hk⟩ := List.mem_iff_getElem?.1 hr
  obtain ⟨o, ho, -⟩ := h k reply hk
  exact ⟨_, ho⟩

theorem Pages.AreSound.isSome_cursor {pages : Pages} (h : pages.AreSound) (hne : pages ≠ [])
    {s : Stream} (hs : pages.hasEnded s.key = false) : (pages.cursor s.key).isSome = true := by
  obtain rfl | ⟨earlier, reply, rfl⟩ := List.eq_nil_or_concat pages
  · exact absurd rfl hne
  rw [List.concat_eq_append] at h hs ⊢
  rw [hasEnded_concat, Bool.or_eq_false_iff] at hs
  rw [cursor_concat, hs.1, hs.2, Bool.or_false, if_neg Bool.false_ne_true]
  refine (Reply.ends_or_isSome_endCursor? h.fits_last (mem_pending.2 hs.1)).resolve_left ?_
  rw [hs.2]
  exact Bool.false_ne_true

end Docket.Sidebar
