import Docket.Proofs.Reading
import Docket.Sidebar.Item
/-!
The query of the sidebar and the readers of its items agree. Of whatever the query decodes, an item
is read if the JSON of its node is complete and not otherwise, and it holds what the JSON says.
-/

namespace Docket.Sidebar

open Query (Identifier LeafType Shape SelectionSet Selection Fragment Document typenameField)
open Result

section Selections

def leafField (name : Identifier) (type : LeafType) : Selection := ⟨.plain name, .leaf type⟩

def namedField (name inner : Identifier) : Selection :=
  ⟨.plain name, .object ⟨[leafField inner .string], []⟩⟩

def labelSelections : SelectionSet :=
  ⟨[leafField (.ofWord "Name" rfl) .string, leafField (.ofWord "Color" rfl) .string], []⟩

def labelsField : Selection :=
  ⟨⟨.ofWord "Labels" rfl, none, ⟨[(.first, .count labelPageSize)]⟩⟩,
    .object ⟨[⟨.plain (.ofWord "nodes" rfl), .list (.object labelSelections)⟩], []⟩⟩

def itemSelections (counts : List Identifier) : SelectionSet where
  fields :=
    [leafField (.ofWord "Number" rfl) .int, leafField (.ofWord "Title" rfl) .string,
      leafField (.ofWord "Url" rfl) .uri, leafField (.ofWord "CreatedAt" rfl) .dateTime,
      leafField (.ofWord "UpdatedAt" rfl) .dateTime] ++
    counts.map (fun name => leafField name .int) ++
    [namedField (.ofWord "Author" rfl) (.ofWord "Login" rfl),
      namedField (.ofWord "Milestone" rfl) (.ofWord "Title" rfl), labelsField]
  fragments := []

def issueFragment : Fragment := ⟨Search.issueType, itemSelections []⟩

def pullRequestFragment : Fragment :=
  ⟨Search.pullRequestType,
    itemSelections [.ofWord "Additions" rfl, .ofWord "Deletions" rfl, .ofWord "ChangedFiles" rfl]⟩

def nodeSelections : Stream → SelectionSet
  | .openItems => ⟨[], [pullRequestFragment]⟩
  | .reviewRequested => ⟨[], [pullRequestFragment]⟩
  | .assignments => ⟨[], [pullRequestFragment, issueFragment]⟩

def searchSelections (s : Stream) : SelectionSet where
  fields :=
    [leafField (.ofWord "IssueCount" rfl) .int,
      ⟨.plain (.ofWord "PageInfo" rfl), .object
        ⟨[leafField (.ofWord "EndCursor" rfl) .string,
          leafField (.ofWord "HasNextPage" rfl) .boolean], []⟩⟩,
      ⟨.plain (.ofWord "nodes" rfl), .list (.object (nodeSelections s))⟩]
  fragments := []

def searchField (pageSize : Nat) (s : Stream) : Selection where
  head := ⟨.ofWord "Search" rfl, some s.aliasName, ⟨[(.query, .variable s.queryVariable),
    (.type, .search .issue), (.first, .count pageSize), (.after, .variable s.cursorVariable)]⟩⟩
  shape := .object (searchSelections s)

theorem document_eq_ok {n : Nat} {d : Document} (h : document n = .ok d) :
    d = ⟨.ofWord "LeftHandSide" rfl, ⟨Stream.all.map (searchField n), []⟩⟩ := by
  cases n with
  | zero => cases h
  | succ n =>
    have hdocument : document (n + 1) =
        .ok ⟨.ofWord "LeftHandSide" rfl, ⟨Stream.all.map (searchField (n + 1)), []⟩⟩ := by rfl
    rw [hdocument] at h
    exact (Except.ok.inj h).symm

theorem selects_search (n : Nat) (s : Stream) :
    Selects ⟨Stream.all.map (searchField n), []⟩ s.key (.object (searchSelections s)) := by
  have hstream : Stream.all.reverse.find? (fun t => t.key == s.key) = some s := by
    cases s <;> rfl
  refine ⟨searchField n s, ?_, rfl⟩
  rw [lastWith, ← List.map_reverse, List.find?_map]
  exact congrArg (Option.map (searchField n)) hstream

theorem Stream.selects_nodes (s : Stream) :
    Selects (searchSelections s) "nodes" (.list (.object (nodeSelections s))) := by
  cases s <;> exact ⟨_, rfl, rfl⟩

end Selections

def NamedUnder (key inner : String) (members : List (String × Json)) : Option String → Prop
  | none => Json.Lacks key members
  | some t => ∃ o, Json.lookup key members = some (.object o) ∧
    Json.lookup inner o = some (.string t)

def Label.Complete (j : Json) : Prop :=
  ∃ members, j = .object members ∧ Json.Has "name" members ∧ Json.Has "color" members

def Label.Mirrors (j : Json) (l : Label) : Prop :=
  ∃ members, j = .object members ∧ Json.lookup "name" members = some (.string l.name) ∧
    Json.lookup "color" members = some (.string l.color)

def Nodes (connection : List (String × Json)) (nodes : List Json) : Prop :=
  ∃ items, Json.lookup "nodes" connection = some (.array items) ∧
    nodes = items.filter fun j => !j.isNull

structure Issue.Complete (members : List (String × Json)) : Prop where
  number : Json.HasCount "number" members
  title : Json.Has "title" members
  url : Json.Has "url" members
  createdAt : Json.Has "createdAt" members
  updatedAt : Json.Has "updatedAt" members
  author : Json.MayHave "author" members (Json.Has "login")
  milestone : Json.MayHave "milestone" members (Json.Has "title")
  labels : Json.MayHave "labels" members fun connection =>
    ∃ nodes, Nodes connection nodes ∧ ∀ j ∈ nodes, Label.Complete j

structure Issue.Mirrors (members : List (String × Json)) (i : Issue) : Prop where
  number : ∃ h, Json.lookup "number" members = some (.number (.integer i.number h))
  title : Json.lookup "title" members = some (.string i.title)
  url : ∃ s u, Json.lookup "url" members = some (.string s) ∧ Url.read s = .ok u ∧ i.url = u.write
  createdAt : ∃ s t, Json.lookup "createdAt" members = some (.string s) ∧
    Calendar.Instant.read s = .ok t ∧ i.createdAt = t.write
  updatedAt : ∃ s t, Json.lookup "updatedAt" members = some (.string s) ∧
    Calendar.Instant.read s = .ok t ∧ i.updatedAt = t.write
  author : NamedUnder "author" "login" members i.author
  milestone : NamedUnder "milestone" "title" members i.milestone
  labels : (Json.Lacks "labels" members ∧ i.labels = []) ∨ ∃ connection nodes,
    Json.lookup "labels" members = some (.object connection) ∧ Nodes connection nodes ∧
      List.Forall₂ Label.Mirrors nodes i.labels

structure PullRequest.Complete (members : List (String × Json)) : Prop where
  issue : Issue.Complete members
  additions : Json.HasCount "additions" members
  deletions : Json.HasCount "deletions" members
  changedFiles : Json.HasCount "changedFiles" members

structure PullRequest.Mirrors (members : List (String × Json)) (p : PullRequest) : Prop where
  issue : p.issue.Mirrors members
  additions : ∃ h, Json.lookup "additions" members = some (.number (.integer p.additions h))
  deletions : ∃ h, Json.lookup "deletions" members = some (.number (.integer p.deletions h))
  changedFiles : ∃ h, Json.lookup "changedFiles" members =
    some (.number (.integer p.changedFiles h))

def HasType (typeName : String) (members : List (String × Json)) : Prop :=
  Json.lookup typenameField members = some (.string typeName)

def Stream.Complete (members : List (String × Json)) : Stream → Prop
  | .openItems => HasType "PullRequest" members ∧ PullRequest.Complete members
  | .reviewRequested => HasType "PullRequest" members ∧ PullRequest.Complete members
  | .assignments => (HasType "PullRequest" members ∨ HasType "Issue" members) ∧
    Issue.Complete members

def Stream.Mirrors (members : List (String × Json)) : (s : Stream) → s.Item → Prop
  | .openItems => PullRequest.Mirrors members
  | .reviewRequested => PullRequest.Mirrors members
  | .assignments => Issue.Mirrors members

/-- The entry is read just if the JSON of the node is complete, and the item that is read mirrors
it. No key is found missing. -/
def Stream.Agrees (s : Stream) (j : Json) (entry : Response) : Prop :=
  ∃ members, j = .object members ∧
    Reading (s.readItem entry) (s.Complete members) (s.Mirrors members)

section Readers

variable {r : Response} {members : List (String × Json)} {set : SelectionSet}

theorem reading_optTextOf {key inner : String} (hset : Selects set inner (.leaf .string))
    (h : r.Holds members key (.object set)) :
    Reading (optTextOf r key inner) (Json.MayHave key members (Json.Has inner))
      (NamedUnder key inner members) := by
  unfold optTextOf
  rcases h.object_or with ⟨hlacks, hget⟩ | ⟨nested, o, hnested, ho, hget⟩
  · rw [Response.optObject_eq_ok_iff (o := none).2 hget]
    refine (Reading.ok none).congr (iff_of_true trivial (.inl hlacks)) fun t ht => ?_
    subst ht
    exact hlacks
  · rw [Response.optObject_eq_ok_iff (o := some o).2 hget]
    have htext := reading_text (fun _ _ => decodeLeaf_string) (ho.holds hset)
    refine htext.map.congr (Json.mayHave_of_object hnested _).symm fun t ht => ?_
    obtain ⟨_, ⟨s, hs, rfl⟩, rfl⟩ := ht
    exact ⟨nested, hnested, hs⟩

theorem reading_label {j : Json} (h : DecodedObject labelSelections j r) :
    Reading (Label.read r) (Label.Complete j) (Label.Mirrors j) := by
  have hselects : Selects labelSelections "name" (.leaf .string) ∧
      Selects labelSelections "color" (.leaf .string) := ⟨⟨_, rfl, rfl⟩, ⟨_, rfl, rfl⟩⟩
  obtain ⟨members, rfl⟩ := h.exists_members
  have hname := reading_text (fun _ _ => decodeLeaf_string) (h.holds hselects.1)
  have hcolor := reading_text (fun _ _ => decodeLeaf_string) (h.holds hselects.2)
  unfold Label.read
  refine (hname.bind fun name _ => hcolor.bind fun color _ => .ok (Label.mk name color)).congr ?_ ?_
  · constructor
    · intro h
      exact ⟨members, rfl, h.1, h.2.1⟩
    · intro h
      obtain ⟨_, hmembers, hname, hcolor⟩ := h
      cases hmembers
      exact ⟨hname, hcolor, trivial⟩
  · intro l hl
    obtain ⟨name, ⟨_, hname, rfl⟩, color, ⟨_, hcolor, rfl⟩, rfl⟩ := hl
    exact ⟨members, rfl, hname, hcolor⟩

theorem reading_readLabels (hset : Selects set "nodes" (.list (.object labelSelections)))
    (h : r.Holds members "labels" (.object set)) :
    Reading (readLabels r)
      (Json.MayHave "labels" members fun connection =>
        ∃ nodes, Nodes connection nodes ∧ ∀ j ∈ nodes, Label.Complete j)
      (fun ls => (Json.Lacks "labels" members ∧ ls = []) ∨ ∃ connection nodes,
        Json.lookup "labels" members = some (.object connection) ∧ Nodes connection nodes ∧
          List.Forall₂ Label.Mirrors nodes ls) := by
  unfold readLabels
  rcases h.object_or with ⟨hlacks, hget⟩ | ⟨nested, o, hnested, ho, hget⟩
  · rw [Response.optObject_eq_ok_iff (o := none).2 hget]
    exact (Reading.ok []).congr (iff_of_true trivial (.inl hlacks)) fun ls hls => .inl ⟨hlacks, hls⟩
  rw [Response.optObject_eq_ok_iff (o := some o).2 hget]
  show Reading (o.objects "nodes" >>= fun os => os.mapM Label.read) _ _
  rcases (ho.holds hset).list_or with ⟨hlacks, hos⟩ | ⟨items, os, hitems, hos, hlabels⟩
  · rw [hos]
    refine .refuse fun hmay => ?_
    obtain ⟨nodes, ⟨items, hitems, -⟩, -⟩ := (Json.mayHave_of_object hnested _).1 hmay
    exact hlacks.not_has ⟨_, hitems, rfl⟩
  · rw [hos]
    have hread := Reading.mapM (hlabels.imp fun j o h => reading_label h)
    refine hread.congr ?_ fun ls hls => .inr ⟨nested, _, hnested, ⟨items, hitems, rfl⟩, hls⟩
    rw [Json.mayHave_of_object hnested]
    constructor
    · exact fun hall => ⟨_, ⟨items, hitems, rfl⟩, hall⟩
    · intro h
      obtain ⟨nodes, ⟨items', hitems', rfl⟩, hall⟩ := h
      rw [hitems] at hitems'
      cases hitems'
      exact hall

structure SelectsIssue (set : SelectionSet) : Prop where
  number : Selects set "number" (.leaf .int)
  title : Selects set "title" (.leaf .string)
  url : Selects set "url" (.leaf .uri)
  createdAt : Selects set "createdAt" (.leaf .dateTime)
  updatedAt : Selects set "updatedAt" (.leaf .dateTime)
  author : ∃ o, Selects set "author" (.object o) ∧ Selects o "login" (.leaf .string)
  milestone : ∃ o, Selects set "milestone" (.object o) ∧ Selects o "title" (.leaf .string)
  labels : ∃ o, Selects set "labels" (.object o) ∧
    Selects o "nodes" (.list (.object labelSelections))

theorem selectsIssue {f : Fragment} (h : f ∈ [pullRequestFragment, issueFragment]) :
    SelectsIssue f.selections := by
  rcases List.mem_pair.1 h with rfl | rfl <;> exact {
    number := ⟨_, rfl, rfl⟩
    title := ⟨_, rfl, rfl⟩
    url := ⟨_, rfl, rfl⟩
    createdAt := ⟨_, rfl, rfl⟩
    updatedAt := ⟨_, rfl, rfl⟩
    author := ⟨_, ⟨_, rfl, rfl⟩, ⟨_, rfl, rfl⟩⟩
    milestone := ⟨_, ⟨_, rfl, rfl⟩, ⟨_, rfl, rfl⟩⟩
    labels := ⟨_, ⟨_, rfl, rfl⟩, ⟨_, rfl, rfl⟩⟩ }

theorem reading_issue (hset : SelectsIssue set) (h : DecodedObject set (.object members) r) :
    Reading (Issue.read r) (Issue.Complete members) (Issue.Mirrors members) := by
  obtain ⟨authorSet, hauthor, hlogin⟩ := hset.author
  obtain ⟨milestoneSet, hmilestone, htitle⟩ := hset.milestone
  obtain ⟨labelsSet, hlabels, hnodes⟩ := hset.labels
  have htime : ∀ key, Selects set key (.leaf .dateTime) → Reading (r.text key) _ _ :=
    fun key hkey => reading_text (fun _ _ => decodeLeaf_dateTime) (h.holds hkey)
  unfold Issue.read
  refine Reading.congr
    ((reading_optTextOf hlogin (h.holds hauthor)).bind fun author _ =>
      (reading_optTextOf htitle (h.holds hmilestone)).bind fun milestone _ =>
      (reading_readLabels hnodes (h.holds hlabels)).bind fun labels _ =>
      (reading_count (h.holds hset.number)).bind fun number _ =>
      (reading_text (fun _ _ => decodeLeaf_string) (h.holds hset.title)).bind fun title _ =>
      (reading_text (fun _ _ => decodeLeaf_uri) (h.holds hset.url)).bind fun url _ =>
      (htime "createdAt" hset.createdAt).bind fun createdAt _ =>
      (htime "updatedAt" hset.updatedAt).bind fun updatedAt _ => .ok _) ?_ ?_
  · constructor
    · intro h
      obtain ⟨hauthor, hmilestone, hlabels, hnumber, htitle, hurl, hcreated, hupdated, -⟩ := h
      exact ⟨hnumber, htitle, hurl, hcreated, hupdated, hauthor, hmilestone, hlabels⟩
    · intro h
      exact ⟨h.author, h.milestone, h.labels, h.number, h.title, h.url, h.createdAt, h.updatedAt,
        trivial⟩
  · intro i hi
    obtain ⟨author, hauthor, milestone, hmilestone, labels, hlabels, number, hnumber, title,
      ⟨_, htitle, rfl⟩, url, ⟨s, hs, u, hu, rfl⟩, createdAt, ⟨sc, hsc, tc, htc, rfl⟩, updatedAt,
      ⟨su, hsu, tu, htu, rfl⟩, rfl⟩ := hi
    exact {
      number := hnumber
      title := htitle
      url := ⟨s, u, hs, hu, rfl⟩
      createdAt := ⟨sc, tc, hsc, htc, rfl⟩
      updatedAt := ⟨su, tu, hsu, htu, rfl⟩
      author := hauthor
      milestone := hmilestone
      labels := hlabels }

theorem reading_fieldsOf {f : Fragment}
    (hf : lastWith fragmentKey f.typeName.text set.fragments = some f)
    (h : DecodedObject set (.object members) r) :
    Reading (fieldsOf r f.typeName) (HasType f.typeName.text members)
      (DecodedObject f.selections (.object members)) := by
  obtain ⟨_, path, q, hmembers, hdecoded, rfl⟩ := h
  cases hmembers
  have hfragments : set.fragments ≠ [] := List.ne_nil_of_mem (mem_of_lastWith hf).1
  obtain ⟨name, hname, htype⟩ := hdecoded.typed hfragments
  have hlookup := typenameOf_eq_ok_iff.1 hname
  rw [fieldsOf, q.typeName_toResponse, htype]
  by_cases heq : name = f.typeName.text
  · subst heq
    obtain ⟨inner, hinner, hdecode⟩ := hdecoded.own htype hf
    obtain ⟨_, hmembers, hdecoded⟩ := decodeSet_ok hdecode
    have hobject : q.toResponse.object f.typeName.text = .ok inner.toResponse := by
      rw [Response.object_eq_ok_iff, q.get?_toResponse, hinner]
      rfl
    rw [if_pos rfl, hobject]
    refine (Reading.ok _).congr (iff_of_true trivial hlookup) fun fields hfields => ?_
    exact ⟨_, path, inner, hmembers, hdecoded, hfields⟩
  · rw [if_neg (fun h => heq (Option.some.inj h))]
    refine .refuse fun hhas => heq ?_
    rw [HasType, hlookup] at hhas
    cases hhas
    rfl

theorem reading_pullRequest
    (hf : lastWith fragmentKey "PullRequest" set.fragments = some pullRequestFragment)
    (h : DecodedObject set (.object members) r) :
    Reading (PullRequest.ofEntry r)
      (HasType "PullRequest" members ∧ PullRequest.Complete members)
      (PullRequest.Mirrors members) := by
  have hselects : Selects pullRequestFragment.selections "additions" (.leaf .int) ∧
      Selects pullRequestFragment.selections "deletions" (.leaf .int) ∧
      Selects pullRequestFragment.selections "changedFiles" (.leaf .int) :=
    ⟨⟨_, rfl, rfl⟩, ⟨_, rfl, rfl⟩, ⟨_, rfl, rfl⟩⟩
  have hshared := selectsIssue (f := pullRequestFragment) List.mem_cons_self
  unfold PullRequest.ofEntry
  refine Reading.congr ((reading_fieldsOf hf h).bind fun fields hfields =>
    (reading_issue hshared hfields).bind fun issue _ =>
    (reading_count (hfields.holds hselects.1)).bind fun additions _ =>
    (reading_count (hfields.holds hselects.2.1)).bind fun deletions _ =>
    (reading_count (hfields.holds hselects.2.2)).bind fun changedFiles _ => .ok _) ?_ ?_
  · constructor
    · intro h
      obtain ⟨htype, hissue, hadditions, hdeletions, hchanged, -⟩ := h
      exact ⟨htype, hissue, hadditions, hdeletions, hchanged⟩
    · intro h
      exact ⟨h.1, h.2.issue, h.2.additions, h.2.deletions, h.2.changedFiles, trivial⟩
  · intro p hp
    obtain ⟨_, -, issue, hissue, additions, ha, deletions, hd, changedFiles, hc, rfl⟩ := hp
    exact ⟨hissue, ha, hd, hc⟩

theorem typeName_of_decodedObject (hset : set.fragments ≠ [])
    (h : DecodedObject set (.object members) r) (typeName : String) :
    r.typeName = some typeName ↔ HasType typeName members := by
  obtain ⟨_, path, q, hmembers, hdecoded, rfl⟩ := h
  cases hmembers
  obtain ⟨name, hname, htype⟩ := hdecoded.typed hset
  rw [q.typeName_toResponse, htype, HasType, typenameOf_eq_ok_iff.1 hname]
  simp

theorem reading_issueEntry
    (hpull : lastWith fragmentKey "PullRequest" set.fragments = some pullRequestFragment)
    (hissue : lastWith fragmentKey "Issue" set.fragments = some issueFragment)
    (h : DecodedObject set (.object members) r) :
    Reading (Issue.ofEntry r)
      ((HasType "PullRequest" members ∨ HasType "Issue" members) ∧ Issue.Complete members)
      (Issue.Mirrors members) := by
  have htype := typeName_of_decodedObject (List.ne_nil_of_mem (mem_of_lastWith hissue).1) h "Issue"
  have hname : Search.issueType.text = "Issue" := by rfl
  have hread : ∀ f ∈ [pullRequestFragment, issueFragment],
      lastWith fragmentKey f.typeName.text set.fragments = some f →
      Reading (fieldsOf r f.typeName >>= Issue.read)
        (HasType f.typeName.text members ∧ Issue.Complete members) (Issue.Mirrors members) := by
    intro f hf hlast
    have hbind := (reading_fieldsOf hlast h).bind fun fields hfields =>
      reading_issue (selectsIssue hf) hfields
    refine hbind.congr Iff.rfl fun i hi => ?_
    obtain ⟨_, -, hi⟩ := hi
    exact hi
  by_cases hentry : r.typeName = some "Issue"
  · have hofEntry : Issue.ofEntry r = fieldsOf r issueFragment.typeName >>= Issue.read := by
      rw [Issue.ofEntry, hname, if_pos hentry]
      rfl
    rw [hofEntry]
    refine (hread issueFragment (by simp) hissue).congr ?_ fun i hi => hi
    exact and_congr_left' (iff_of_true (htype.1 hentry) (.inr (htype.1 hentry)))
  · have hofEntry : Issue.ofEntry r = fieldsOf r pullRequestFragment.typeName >>= Issue.read := by
      rw [Issue.ofEntry, hname, if_neg hentry]
      rfl
    rw [hofEntry]
    refine (hread pullRequestFragment (by simp) hpull).congr ?_ fun i hi => hi
    exact and_congr_left' (or_iff_left (fun h => hentry (htype.2 h))).symm

theorem Stream.agrees (s : Stream) {j : Json} (h : DecodedObject (nodeSelections s) j r) :
    s.Agrees j r := by
  obtain ⟨members, rfl⟩ := h.exists_members
  refine ⟨members, rfl, ?_⟩
  cases s with
  | openItems => exact reading_pullRequest rfl h
  | reviewRequested => exact reading_pullRequest rfl h
  | assignments => exact reading_issueEntry rfl rfl h

end Readers

theorem items_agree {n : Nat} {d : Document} {data : Json} {v : Value} (hd : document n = .ok d)
    (hv : d.decode data = .ok v) (s : Stream) {items : List Json}
    (hitems : data.at? [.key s.key, .key "nodes"] = some (.array items)) :
    ∃ response search entries, Response.ofValue? (some v) = .ok response ∧
      response.object s.key = .ok search ∧ search.objects "nodes" = .ok entries ∧
      List.Forall₂ s.Agrees (items.filter fun j => !j.isNull) entries := by
  have hdocument := document_eq_ok hd
  subst hdocument
  obtain ⟨q, hq, rfl⟩ := map_eq_ok_iff.1 hv
  obtain ⟨members, rfl, hdecoded⟩ := decodeSet_ok hq
  have hroot : DecodedObject ⟨Stream.all.map (searchField n), []⟩ (.object members) q.toResponse :=
    ⟨members, [], q, rfl, hdecoded, rfl⟩
  have hsearch := selects_search n s
  rw [Json.at?, Option.bind_eq_some_iff] at hitems
  obtain ⟨j, hj, hitems⟩ := hitems
  rcases (hroot.holds hsearch).object_or with ⟨hlacks, -⟩ | ⟨nested, o, hnested, ho, hget⟩
  · have hnull := hlacks j hj
    cases j <;> cases hnull
    cases hitems
  rw [hj] at hnested
  cases hnested
  rw [Json.at?, Option.bind_eq_some_iff] at hitems
  obtain ⟨_, hnode, hitems⟩ := hitems
  cases hitems
  rcases (ho.holds s.selects_nodes).list_or with
    ⟨hlacks, -⟩ | ⟨items', entries, hitems', hentries, hnode'⟩
  · cases hlacks _ hnode
  · rw [hnode] at hitems'
    cases hitems'
    exact ⟨q.toResponse, o, entries, rfl, Response.object_eq_ok_iff.2 hget, hentries,
      hnode'.imp fun j entry h => s.agrees h⟩

def sampleMembers : List (String × Json) :=
  [("__typename", .string "Issue"), ("number", .ofInt 7), ("title", .string "Lamp"),
    ("url", .string "HTTPS://Desk.example/lamp"),
    ("createdAt", .string "2024-01-02T03:04:05+02:00"),
    ("updatedAt", .string "2024-02-03T04:05:06Z"), ("author", .object [("login", .string "mona")]),
    ("labels", .object [("nodes", .array
      [.object [("name", .string "bug"), ("color", .string "d73a4a")], .null,
        .object [("name", .string "low"), ("color", .string "eeeeee")]])])]

def samplePayload : Json := .object [("assignments", .object [("nodes", .array
  [.null, .object sampleMembers])])]

theorem complete_sampleMembers : Issue.Complete sampleMembers where
  number := ⟨7, _, rfl, by decide, by decide⟩
  title := ⟨_, rfl, rfl⟩
  url := ⟨_, rfl, rfl⟩
  createdAt := ⟨_, rfl, rfl⟩
  updatedAt := ⟨_, rfl, rfl⟩
  author := .inr ⟨_, rfl, _, rfl, rfl⟩
  milestone := .inl fun j hj => by cases hj
  labels := by
    refine .inr ⟨_, rfl, [_, _], ⟨_, rfl, rfl⟩, fun j hj => ?_⟩
    rcases List.mem_pair.1 hj with rfl | rfl
    · exact ⟨_, rfl, ⟨_, rfl, rfl⟩, ⟨_, rfl, rfl⟩⟩
    · exact ⟨_, rfl, ⟨_, rfl, rfl⟩, ⟨_, rfl, rfl⟩⟩

set_option maxRecDepth 4000 in
theorem items_agree_sample : ∃ d v response search entry item, document 5 = .ok d ∧
    d.decode samplePayload = .ok v ∧ Response.ofValue? (some v) = .ok response ∧
    response.object "assignments" = .ok search ∧ search.objects "nodes" = .ok [entry] ∧
    Issue.ofEntry entry = .ok item ∧ Issue.Mirrors sampleMembers item ∧ item.title = "Lamp" := by
  have hdecode : ∃ d v, document 5 = .ok d ∧ d.decode samplePayload = .ok v :=
    ⟨_, _, by rfl, by rfl⟩
  have hitems : samplePayload.at? [.key Stream.assignments.key, .key "nodes"] =
      some (.array [.null, .object sampleMembers]) := by rfl
  obtain ⟨d, v, hd, hv⟩ := hdecode
  obtain ⟨response, search, entries, hresponse, hsearch, hentries, hagree⟩ :=
    items_agree hd hv .assignments hitems
  obtain ⟨entry, _, ⟨members, hmembers, hreading⟩, hrest, rfl⟩ :=
    List.forall₂_cons_left_iff.1 hagree
  cases hrest
  cases hmembers
  have htype : HasType "Issue" sampleMembers := by rfl
  obtain ⟨item, hitem⟩ := hreading.total ⟨.inr htype, complete_sampleMembers⟩
  have hmirrors : Issue.Mirrors sampleMembers item := (hreading.sound item hitem).2
  have htitle : Json.lookup "title" sampleMembers = some (.string "Lamp") := by rfl
  rw [hmirrors.title, Option.some.injEq, Json.string.injEq] at htitle
  exact ⟨d, v, response, search, entry, item, hd, hv, hresponse, hsearch, hentries, hitem, hmirrors,
    htitle⟩

end Docket.Sidebar
