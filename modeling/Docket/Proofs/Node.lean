import Docket.Proofs.Server
/-!
Nodes that hold given items. Reading one gives the item back, so there is a server for all walks
that have a page.
-/

namespace Docket.Sidebar

open Result (Value Record Response)

def Issue.numbered (n : Nat) : Issue :=
  { number := n, title := "", author := none, url := "", createdAt := "", updatedAt := "",
    milestone := none, labels := [] }

def PullRequest.numbered (n : Nat) : PullRequest :=
  { issue := .numbered n, additions := 0, deletions := 0, changedFiles := 0 }

def textUnder (key : String) : Option String → Value
  | some s => .object ⟨none, [(key, .string s)]⟩
  | none => .null

def Label.record (l : Label) : Record :=
  ⟨none, [("name", .string l.name), ("color", .string l.color)]⟩

def Issue.fields (i : Issue) : List (String × Value) :=
  [("author", textUnder "login" i.author), ("milestone", textUnder "title" i.milestone),
    ("labels", .object ⟨none, [("nodes", .list (i.labels.map fun l => .object l.record))]⟩),
    ("number", .int i.number), ("title", .string i.title), ("url", .string i.url),
    ("createdAt", .string i.createdAt), ("updatedAt", .string i.updatedAt)]

def PullRequest.fields (p : PullRequest) : List (String × Value) :=
  p.issue.fields ++ [("additions", .int p.additions), ("deletions", .int p.deletions),
    ("changedFiles", .int p.changedFiles)]

def entryOf (typeName : String) (fields : List (String × Value)) : Record :=
  ⟨some typeName, [(typeName, .object ⟨none, fields⟩)]⟩

def Stream.record : (s : Stream) → s.Item → Record
  | .openItems, p => entryOf "PullRequest" (PullRequest.fields p)
  | .reviewRequested, p => entryOf "PullRequest" (PullRequest.fields p)
  | .assignments, i => entryOf "Issue" (Issue.fields i)

theorem optTextOf_textUnder {r : Response} {key inner : String} {t : Option String}
    (h : Entries.get? key r.entries = some (textUnder inner t).toEntry) :
    optTextOf r key inner = .ok t := by
  unfold optTextOf Response.optObject Response.get
  rw [h]
  cases t with
  | none => rfl
  | some s =>
    simp [textUnder, Value.toEntry, Record.toResponse, Result.toFields, bind, Except.bind,
      Except.map, Response.text, Response.get, Entries.get?]

theorem objectsOf?_records (records : List Record) :
    Response.objectsOf? (Result.toEntries (records.map .object)) =
      some (records.map Record.toResponse) := by
  rw [Response.objectsOf?_eq_some_iff, Result.toEntries_eq_map, List.map_map, List.map_map]
  refine List.filter_eq_self.2 fun e he => ?_
  obtain ⟨r, -, rfl⟩ := List.mem_map.1 he
  rfl

theorem readLabels_fields (i : Issue) (more : List (String × Value)) :
    readLabels (Record.toResponse ⟨none, i.fields ++ more⟩) = .ok i.labels := by
  have hlabels : Response.optObject (Record.toResponse ⟨none, i.fields ++ more⟩) "labels" =
      .ok (some (Record.toResponse
        ⟨none, [("nodes", .list (i.labels.map fun l => .object l.record))]⟩)) := by rfl
  have hobjects := objectsOf?_records (i.labels.map Label.record)
  rw [List.map_map] at hobjects
  have hnodes : Response.objects (Record.toResponse
      ⟨none, [("nodes", .list (i.labels.map fun l => .object l.record))]⟩) "nodes" = .ok _ :=
    Response.objects_eq_ok_iff.2 ⟨_, rfl, hobjects⟩
  unfold readLabels
  simp only [hlabels, hnodes, bind, Except.bind]
  rw [mapM_eq_ok_iff, List.map_map, List.map_map]
  rfl

theorem Issue.read_fields (i : Issue) (more : List (String × Value)) :
    Issue.read (Record.toResponse ⟨none, i.fields ++ more⟩) = .ok i := by
  have ha : optTextOf (Record.toResponse ⟨none, i.fields ++ more⟩) "author" "login" =
      .ok i.author := optTextOf_textUnder rfl
  have hm : optTextOf (Record.toResponse ⟨none, i.fields ++ more⟩) "milestone" "title" =
      .ok i.milestone := optTextOf_textUnder rfl
  unfold Issue.read
  rw [ha, hm, readLabels_fields]
  rfl

theorem PullRequest.ofEntry_entryOf (p : PullRequest) :
    PullRequest.ofEntry (entryOf "PullRequest" p.fields).toResponse = .ok p := by
  have hread := Issue.read_fields p.issue [("additions", .int p.additions),
    ("deletions", .int p.deletions), ("changedFiles", .int p.changedFiles)]
  have hfields : fieldsOf (entryOf "PullRequest" p.fields).toResponse Search.pullRequestType =
      .ok (Record.toResponse ⟨none, p.fields⟩) := by rfl
  unfold PullRequest.ofEntry
  rw [hfields]
  simp only [bind, Except.bind]
  rw [PullRequest.fields, hread]
  rfl

theorem Issue.ofEntry_entryOf (i : Issue) :
    Issue.ofEntry (entryOf "Issue" i.fields).toResponse = .ok i := by
  have hread := Issue.read_fields i []
  rw [List.append_nil] at hread
  have hfields : fieldsOf (entryOf "Issue" i.fields).toResponse Search.issueType =
      .ok (Record.toResponse ⟨none, i.fields⟩) := by rfl
  unfold Issue.ofEntry
  exact (congrArg (· >>= Issue.read) hfields).trans hread

theorem Stream.reads_records (s : Stream) (items : List s.Item) :
    s.Reads (items.map fun i => .object (s.record i)) items := by
  refine ⟨items.map s.record, ?_, ?_⟩
  · rw [List.map_map]
    refine List.filter_eq_self.2 fun v hv => ?_
    obtain ⟨i, -, rfl⟩ := List.mem_map.1 hv
    rfl
  · rw [List.map_map]
    refine List.map_congr_left fun i _ => ?_
    cases s with
    | openItems => exact PullRequest.ofEntry_entryOf i
    | reviewRequested => exact PullRequest.ofEntry_entryOf i
    | assignments => exact Issue.ofEntry_entryOf i

namespace Server

/-- The server that has given items on its pages. Its cursors are as long as there are pages before
the one that they lead to. -/
def ofItems (items : (s : Stream) → String → List (List s.Item)) : Server := fun s filter cursor =>
  let page := cursor.elim 0 String.length
  { nodes := ((items s filter)[page]?.getD []).map fun i => .object (s.record i)
    endCursor := some (String.ofList (List.replicate (page + 1) 'c'))
    hasNextPage := page + 1 < (items s filter).length }

theorem reads_ofItems (items : (s : Stream) → String → List (List s.Item)) (s : Stream)
    (filter : String) {cursor : Option String}
    (h : cursor.elim 0 String.length < (items s filter).length) :
    s.Reads (ofItems items s filter cursor).nodes
      (items s filter)[cursor.elim 0 String.length] := by
  have hr := s.reads_records (items s filter)[cursor.elim 0 String.length]
  simpa only [ofItems, List.getElem?_eq_getElem h, Option.getD_some] using hr

theorem walks_drop_ofItems (items : (s : Stream) → String → List (List s.Item)) (s : Stream)
    (filter : String) (n : Nat) {cursor : Option String}
    (h : cursor.elim 0 String.length + (n + 1) = (items s filter).length) :
    (ofItems items).Walks s filter cursor
      ((items s filter).drop (cursor.elim 0 String.length)) := by
  induction n generalizing cursor with
  | zero =>
    have hlt : cursor.elim 0 String.length < (items s filter).length := by omega
    have hm : (ofItems items s filter cursor).hasNextPage = false := decide_eq_false (by omega)
    rw [List.drop_eq_getElem_cons hlt, List.drop_of_length_le (by omega)]
    exact .last hm (reads_ofItems items s filter hlt)
  | succ n ih =>
    have hlt : cursor.elim 0 String.length < (items s filter).length := by omega
    have hm : (ofItems items s filter cursor).hasNextPage = true := decide_eq_true (by omega)
    have hnext : ((ofItems items s filter cursor).endCursor.elim 0 String.length) =
        cursor.elim 0 String.length + 1 := by
      rw [ofItems, Option.elim_some, String.length_ofList, List.length_replicate]
    have hrest := ih (by rw [hnext]; omega)
    rw [hnext] at hrest
    rw [List.drop_eq_getElem_cons hlt]
    exact .next hm rfl (reads_ofItems items s filter hlt) hrest

theorem walks_ofItems (items : (s : Stream) → String → List (List s.Item)) {s : Stream}
    {filter : String} (h : items s filter ≠ []) :
    (ofItems items).Walks s filter none (items s filter) := by
  have hpos := List.length_pos_iff.2 h
  exact walks_drop_ofItems items s filter ((items s filter).length - 1)
    (by simp only [Option.elim]; omega)

end Server

end Docket.Sidebar
