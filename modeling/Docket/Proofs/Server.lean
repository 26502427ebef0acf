import Docket.Proofs.Outcome
/-!
A server that has a page for every cursor, and the walks over its pages. A run that is shown the
pages it asks for is in each stream as far along the stream's own walk as it has had pages.
-/

namespace Docket.Sidebar

open Result (Value Record Response)

structure ServerPage where
  nodes : List Value
  endCursor : Option String
  hasNextPage : Bool

abbrev Server := Stream → String → Option String → ServerPage

def Reply.Shows (reply : Reply) (s : Stream) (page : ServerPage) : Prop :=
  ∃ o search info : Record, reply = .ok (.object o) ∧ o.get? s.key = some (.object search) ∧
    search.get? "pageInfo" = some (.object info) ∧
    info.get? "endCursor" = some (page.endCursor.elim .null .string) ∧
    info.get? "hasNextPage" = some (.bool page.hasNextPage) ∧
    search.get? "nodes" = some (.list page.nodes)

def ServerPage.info (page : ServerPage) : Record :=
  ⟨none, [("endCursor", page.endCursor.elim .null .string),
    ("hasNextPage", .bool page.hasNextPage)]⟩

def ServerPage.search (page : ServerPage) : Record :=
  ⟨none, [("pageInfo", .object page.info), ("nodes", .list page.nodes)]⟩

def Reply.ofPages (page : Stream → ServerPage) : Reply :=
  .ok (.object ⟨none, Stream.all.map fun s => (s.key, .object (page s).search)⟩)

theorem Reply.shows_ofPages (page : Stream → ServerPage) (s : Stream) :
    (Reply.ofPages page).Shows s (page s) := by
  refine ⟨_, (page s).search, (page s).info, rfl, ?_, rfl, rfl, rfl, rfl⟩
  cases s <;> rfl

def Stream.Reads (s : Stream) (nodes : List Value) (items : List s.Item) : Prop :=
  ∃ records : List Record, nodes.filter (fun v => !v.isNull) = records.map .object ∧
    records.map (fun r => s.readItem r.toResponse) = items.map .ok

namespace Reply.Shows

variable {reply : Reply} {s : Stream} {page : ServerPage} {items : List s.Item}

theorem readPage (h : reply.Shows s page) (hr : s.Reads page.nodes items) :
    ∃ o, reply = .ok (.object o) ∧ Collection.readPage o.toResponse s =
      .ok ⟨items, ⟨page.endCursor, page.hasNextPage⟩⟩ := by
  obtain ⟨o, search, info, rfl, hs, hi, hc, hm, hn⟩ := h
  obtain ⟨records, hf, hit⟩ := hr
  have hget : ∀ (r : Record) (key : String),
      Entries.get? key r.toResponse.entries = (r.get? key).map Value.toEntry := by
    intro r key
    cases r
    exact Result.get?_toFields key _
  have hobjects : (page.nodes.map Value.toEntry).filter (fun e => !e.isNull) =
      (records.map Record.toResponse).map .object := by
    rw [List.filter_map, List.map_map]
    simp only [Function.comp_def, Result.isNull_toEntry, hf, List.map_map]
    rfl
  refine ⟨o, rfl, Collection.readPage_eq_ok_iff.2
    ⟨search.toResponse, info.toResponse, records.map Record.toResponse, ?_, ?_, ?_, ?_, ?_, ?_⟩⟩
  · rw [Response.object_eq_ok_iff, hget, hs]
    rfl
  · rw [Response.object_eq_ok_iff, hget, hi]
    rfl
  · rw [Response.optText_eq_ok_iff, hget, hc]
    cases page.endCursor <;> rfl
  · rw [Response.bool_eq_ok_iff, hget, hm]
    rfl
  · rw [Response.objects_eq_ok_iff]
    refine ⟨page.nodes.map Value.toEntry, ?_, Response.objectsOf?_eq_some_iff.2 hobjects⟩
    rw [hget, hn, ← Result.toEntries_eq_map]
    rfl
  · rw [List.map_map]
    exact hit

theorem readers (h : reply.Shows s page) (hr : s.Reads page.nodes items) :
    reply.ends s.key = !page.hasNextPage ∧ reply.endCursor? s.key = page.endCursor ∧
      (reply.nodes s.key).map s.readItem = items.map .ok := by
  obtain ⟨o, rfl, hp⟩ := h.readPage hr
  exact Reply.readers_of_readPage rfl hp

theorem fits (h : reply.Shows s page) (hr : s.Reads page.nodes items)
    (hm : page.hasNextPage = true → page.endCursor ≠ none) :
    ∃ o, reply = .ok (.object o) ∧ s.Fits o.toResponse := by
  obtain ⟨o, rfl, hp⟩ := h.readPage hr
  refine ⟨o, rfl, Stream.fault?_eq_none_iff.1 ?_⟩
  rw [Stream.fault?, hp]
  exact if_neg fun hc => hm hc.1 hc.2

end Reply.Shows

namespace Server

/-- The walk from a cursor on, by what the nodes of each page are read as. It goes where a page says
that the next one starts, and it stops at a page that says there is none. -/
inductive Walks (srv : Server) (s : Stream) (filter : String) :
    Option String → List (List s.Item) → Prop
  | last {cursor : Option String} {items : List s.Item} :
    (srv s filter cursor).hasNextPage = false → s.Reads (srv s filter cursor).nodes items →
    Walks srv s filter cursor [items]
  | next {cursor : Option String} {after : String} {items : List s.Item}
    {rest : List (List s.Item)} : (srv s filter cursor).hasNextPage = true →
    (srv s filter cursor).endCursor = some after → s.Reads (srv s filter cursor).nodes items →
    Walks srv s filter (some after) rest → Walks srv s filter cursor (items :: rest)

variable {srv : Server} {s : Stream} {filter : String} {walk : List (List s.Item)}

theorem Walks.length_pos {cursor : Option String} (h : srv.Walks s filter cursor walk) :
    0 < walk.length := by
  cases h <;> exact Nat.succ_pos _

theorem Walks.exists_cons {cursor : Option String} (h : srv.Walks s filter cursor walk) :
    ∃ items rest, walk = items :: rest ∧ s.Reads (srv s filter cursor).nodes items ∧
      (((srv s filter cursor).hasNextPage = false ∧ rest = []) ∨
        ((srv s filter cursor).hasNextPage = true ∧ ∃ after,
          (srv s filter cursor).endCursor = some after ∧
            srv.Walks s filter (some after) rest)) := by
  cases h with
  | last hm hr => exact ⟨_, _, rfl, hr, .inl ⟨hm, rfl⟩⟩
  | next hm hc hr hrest => exact ⟨_, _, rfl, hr, .inr ⟨hm, _, hc, hrest⟩⟩

/-- Each page shows the stream what follows the cursor that the pages before it leave it at. -/
def Paged (srv : Server) (s : Stream) (filter : String) (pages : Pages) : Prop :=
  ∀ (k : Nat) (reply : Reply), pages[k]? = some reply →
    reply.Shows s (srv s filter (Pages.cursor (pages.take k) s.key))

structure Along (srv : Server) (s : Stream) (filter : String) (walk : List (List s.Item))
    (pages : Pages) : Prop where
  hasEnded_iff : pages.hasEnded s.key = true ↔ walk.length ≤ pages.length
  nodes : (pages.nodes s.key).map s.readItem = (walk.take pages.length).flatten.map .ok
  walks : pages.length < walk.length →
    srv.Walks s filter (pages.cursor s.key) (walk.drop pages.length)

namespace Along

theorem nil (h : srv.Walks s filter none walk) : srv.Along s filter walk [] where
  hasEnded_iff := by
    have := h.length_pos
    rw [List.length_nil]
    exact ⟨fun he => (by cases he), fun hl => absurd hl (by omega)⟩
  nodes := rfl
  walks _ := h

theorem concat_of_ended {pages : Pages} (h : srv.Along s filter walk pages)
    (hl : walk.length ≤ pages.length) (reply : Reply) :
    srv.Along s filter walk (pages ++ [reply]) where
  hasEnded_iff := by
    rw [Pages.hasEnded_concat, h.hasEnded_iff.2 hl, List.length_append]
    simp only [Bool.true_or, true_iff]
    omega
  nodes := by
    rw [Pages.nodes_concat, if_pos (h.hasEnded_iff.2 hl), h.nodes,
      List.take_of_length_le hl, List.take_of_length_le]
    rw [List.length_append]
    omega
  walks hlt := by
    rw [List.length_append] at hlt
    omega

theorem concat_of_pending {pages : Pages} (h : srv.Along s filter walk pages)
    (hl : pages.length < walk.length) {reply : Reply}
    (hr : reply.Shows s (srv s filter (pages.cursor s.key))) :
    srv.Along s filter walk (pages ++ [reply]) := by
  have hpending : pages.hasEnded s.key = false :=
    Bool.eq_false_iff.2 fun he => absurd (h.hasEnded_iff.1 he) (Nat.not_le.2 hl)
  -- the stream is pending, so what is left of its walk starts with the page that is shown
  obtain ⟨items, rest, hd, hreads, hnext⟩ := (h.walks hl).exists_cons
  obtain ⟨hends, hcursor, hnodes⟩ := hr.readers hreads
  have hlen : walk.length = pages.length + 1 + rest.length := by
    have := congrArg List.length hd
    rw [List.length_drop, List.length_cons] at this
    omega
  have htake : walk.take (pages.length + 1) = walk.take pages.length ++ [items] := by
    rw [List.take_add, hd, List.take_succ_cons, List.take_zero]
  have hdrop : walk.drop (pages.length + 1) = rest := by
    rw [← List.drop_drop, hd, List.drop_one, List.tail_cons]
  have hconcat : (pages ++ [reply]).length = pages.length + 1 := by
    rw [List.length_append, List.length_singleton]
  refine ⟨?_, ?_, ?_⟩
  · rw [Pages.hasEnded_concat, hpending, Bool.false_or, hends, hconcat, hlen]
    rcases hnext with ⟨hm, rfl⟩ | ⟨hm, after, -, hrest⟩
    · simp [hm]
    · have := hrest.length_pos
      simp only [hm, Bool.not_true, Bool.false_eq_true, false_iff]
      omega
  · rw [Pages.nodes_concat, hpending, if_neg Bool.false_ne_true, List.map_append, h.nodes, hnodes,
      hconcat, htake, List.flatten_append, List.map_append, List.flatten_singleton]
  · rw [Pages.cursor_concat, hpending, Bool.false_or, hends, hcursor, hconcat, hdrop]
    intro hlt
    rcases hnext with ⟨hm, rfl⟩ | ⟨hm, after, hc, hrest⟩
    · rw [hlen, List.length_nil] at hlt
      omega
    · rw [hm, hc, Bool.not_true, if_neg Bool.false_ne_true]
      exact hrest

theorem nodes_of_hasEnded {pages : Pages} (h : srv.Along s filter walk pages)
    (he : pages.hasEnded s.key = true) :
    (pages.nodes s.key).map s.readItem = walk.flatten.map .ok := by
  rw [h.nodes, List.take_of_length_le (h.hasEnded_iff.1 he)]

theorem fits {pages : Pages} (h : srv.Along s filter walk pages)
    (hs : pages.hasEnded s.key = false) {reply : Reply}
    (hr : reply.Shows s (srv s filter (pages.cursor s.key))) :
    ∃ o, reply = .ok (.object o) ∧ s.Fits o.toResponse := by
  have hl : pages.length < walk.length := by
    rw [← Nat.not_le, ← h.hasEnded_iff, hs]
    exact Bool.false_ne_true
  obtain ⟨items, rest, -, hreads, hnext⟩ := (h.walks hl).exists_cons
  refine hr.fits hreads fun hm => ?_
  rcases hnext with ⟨hlast, -⟩ | ⟨-, after, hc, -⟩
  · rw [hlast] at hm
    cases hm
  · rw [hc]
    exact Option.some_ne_none _

end Along

theorem Paged.of_concat {pages : Pages} {reply : Reply}
    (h : srv.Paged s filter (pages ++ [reply])) : srv.Paged s filter pages := by
  intro k r hk
  have hlt := (List.getElem?_eq_some_iff.1 hk).1
  have hr := h k r (by rw [List.getElem?_append_left hlt, hk])
  rwa [List.take_append_of_le_length (Nat.le_of_lt hlt)] at hr

theorem Paged.along {pages : Pages} (h : srv.Paged s filter pages)
    (hw : srv.Walks s filter none walk) : srv.Along s filter walk pages := by
  induction pages using List.reverseRecOn with
  | nil => exact .nil hw
  | append_singleton pages reply ih =>
    have hreply := h pages.length reply List.getElem?_concat_length
    rw [List.take_left] at hreply
    have ha := ih h.of_concat
    rcases Nat.lt_or_ge pages.length walk.length with hl | hl
    · exact ha.concat_of_pending hl hreply
    · exact ha.concat_of_ended hl reply

end Server

end Docket.Sidebar
