import Docket.Proofs.Reply
/-!
The pages of one scope. All that a collection knows of a scope can be told from the replies so far:
which streams have ended, where each goes on and which nodes it has met.
-/

namespace Docket.Sidebar

open Result (Response)

abbrev Pages := List Reply

namespace Pages

def hasEnded (pages : Pages) (key : String) : Bool := pages.any fun r => r.ends key

/-- The number of the page on which a search ends, counted from one; one more than there are pages
where none says so. -/
def last (pages : Pages) (key : String) : Nat := pages.findIdx (fun r => r.ends key) + 1

def nodes (pages : Pages) (key : String) : List Response :=
  (pages.take (pages.last key)).flatMap fun r => r.nodes key

/-- Where the page after these starts: what the search says on the latest of them that is not its
last page or one after it. -/
def cursor (pages : Pages) (key : String) : Option String :=
  (pages.take (pages.last key - 1)).getLast?.bind fun r => r.endCursor? key

def pending (pages : Pages) : List Stream := Stream.all.filter fun s => !pages.hasEnded s.key

theorem hasEnded_concat (pages : Pages) (r : Reply) (key : String) :
    hasEnded (pages ++ [r]) key = (pages.hasEnded key || r.ends key) := by
  simp [hasEnded]

theorem last_le_length_iff (pages : Pages) (key : String) :
    pages.last key ≤ pages.length ↔ pages.hasEnded key = true := by
  rw [hasEnded, last, Nat.add_one_le_iff, List.findIdx_lt_length, List.any_eq_true]

theorem last_eq_of_not_hasEnded {pages : Pages} {key : String} (h : pages.hasEnded key = false) :
    pages.last key = pages.length + 1 := by
  have := mt (last_le_length_iff pages key).1 (Bool.eq_false_iff.1 h)
  have : pages.findIdx (fun r => r.ends key) ≤ pages.length := List.findIdx_le_length
  unfold last at *
  omega

theorem last_append_of_hasEnded {pages : Pages} {key : String} (h : pages.hasEnded key = true)
    (more : List Reply) : last (pages ++ more) key = pages.last key := by
  have hl : pages.findIdx (fun r => r.ends key) < pages.length :=
    (last_le_length_iff pages key).2 h
  rw [last, List.findIdx_append, if_pos hl, last]

theorem last_concat_of_not_hasEnded {pages : Pages} {key : String}
    (h : pages.hasEnded key = false) (r : Reply) :
    last (pages ++ [r]) key = pages.length + if r.ends key then 1 else 2 := by
  have hl := last_eq_of_not_hasEnded h
  unfold last at hl ⊢
  rw [List.findIdx_append, if_neg (by omega), List.findIdx_singleton]
  split <;> omega

theorem nodes_concat (pages : Pages) (r : Reply) (key : String) :
    nodes (pages ++ [r]) key =
      if pages.hasEnded key then pages.nodes key else pages.nodes key ++ r.nodes key := by
  cases h : pages.hasEnded key with
  | true =>
    have hl := (last_le_length_iff pages key).2 h
    rw [if_pos rfl, nodes, nodes, last_append_of_hasEnded h, List.take_append_of_le_length hl]
  | false =>
    have hl := last_concat_of_not_hasEnded h r
    rw [if_neg Bool.false_ne_true, nodes, nodes, last_eq_of_not_hasEnded h,
      List.take_of_length_le
        (by rw [hl, List.length_append, List.length_singleton]; split <;> omega),
      List.take_of_length_le (Nat.le_succ _), List.flatMap_append, List.flatMap_singleton]

theorem cursor_concat (pages : Pages) (r : Reply) (key : String) :
    cursor (pages ++ [r]) key =
      if pages.hasEnded key || r.ends key then pages.cursor key else r.endCursor? key := by
  cases h : pages.hasEnded key with
  | true =>
    have hl := (last_le_length_iff pages key).2 h
    rw [Bool.true_or, if_pos rfl, cursor, cursor, last_append_of_hasEnded h,
      List.take_append_of_le_length (by omega)]
  | false =>
    rw [Bool.false_or, cursor, last_concat_of_not_hasEnded h r]
    cases hr : r.ends key with
    | true =>
      rw [if_pos rfl, if_pos rfl, cursor, last_eq_of_not_hasEnded h,
        List.take_append_of_le_length (by omega)]
    | false =>
      rw [if_neg Bool.false_ne_true, if_neg Bool.false_ne_true,
        List.take_of_length_le (by simp), List.getLast?_concat, Option.bind_some]

end Pages

structure Reached (start : Collection) (pages : Pages) (c : Collection) : Prop where
  isExhausted : ∀ s, (c.get s).isExhausted = pages.hasEnded s.key
  cursor : ∀ s, (c.get s).cursor = pages.cursor s.key
  items : ∀ s, (c.get s).items.map Except.ok =
    (start.get s).items.map Except.ok ++ (pages.nodes s.key).map s.readItem

namespace Reached

theorem beginScope (c : Collection) : Reached c [] c.beginScope where
  isExhausted s := by rw [Collection.get_beginScope]; rfl
  cursor s := by rw [Collection.get_beginScope]; rfl
  items s := by rw [Collection.get_beginScope]; exact (List.append_nil _).symm

theorem pending_eq {start c : Collection} {pages : Pages} (h : Reached start pages c) :
    c.pending = pages.pending :=
  List.filter_congr fun s _ => by rw [h.isExhausted s]

theorem receive {start c d : Collection} {pages : Pages} (h : Reached start pages c) {reply : Reply}
    (hr : c.receive reply = .ok d) : Reached start (pages ++ [reply]) d := by
  obtain ⟨r, hresp, habs⟩ := Collection.receive_ok hr
  have hstep : ∀ s, (d.get s).isExhausted = Pages.hasEnded (pages ++ [reply]) s.key ∧
      (d.get s).cursor = Pages.cursor (pages ++ [reply]) s.key ∧
      (d.get s).items.map Except.ok = (start.get s).items.map Except.ok ++
        (Pages.nodes (pages ++ [reply]) s.key).map s.readItem := by
    intro s
    rw [Pages.hasEnded_concat, Pages.cursor_concat, Pages.nodes_concat, ← h.isExhausted s]
    obtain ⟨he, hw⟩ | ⟨he, page, hp, hw⟩ := Collection.absorb_ok habs s
    · rw [hw, he]
      exact ⟨rfl, h.cursor s, h.items s⟩
    · obtain ⟨hends, hcursor, hnodes⟩ := Reply.readers_of_readPage hresp hp
      obtain ⟨hi, hx, hc⟩ := Walk.absorb_ok hw
      rw [hx, hc, hi, he, hends, hcursor, h.cursor s, Bool.false_or, if_neg Bool.false_ne_true,
        List.map_append, List.map_append, h.items s, hnodes, List.append_assoc]
      exact ⟨rfl, rfl, rfl⟩
  exact ⟨fun s => (hstep s).1, fun s => (hstep s).2.1, fun s => (hstep s).2.2⟩

end Reached

end Docket.Sidebar
