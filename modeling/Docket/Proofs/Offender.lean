import Docket.Proofs.Conformance
import Docket.Proofs.Faults
import Docket.Proofs.Typed
/-!
Decoding stops at the first offender. Data that conforms is decoded; of other data the error names
the offender at the least place, by a text that leads back to it.
-/

namespace Docket

open Query (LeafType Shape SelectionSet Selection Fragment Document typenameField)

namespace Result

def offenders (shape : Shape) (j : Json) (path : Path) : Faults DecodeError := fun place e =>
  ∃ p, e.path = path ++ p ∧ Offends shape j place p e.mismatch

section Parts

variable {shape item : Shape} {s : SelectionSet} {members : List (String × Json)} {path : Path}
  {j : Json} {place : List Nat} {e : DecodeError}

def memberOffenders (shape : Shape) (path : Path) (found : Option Json) : Faults DecodeError :=
  fun place e => ∃ j, found = some j ∧ j.isNull = false ∧ offenders shape j path place e

def fieldOffenders (members : List (String × Json)) (path : Path) (f : Selection) :
    Faults DecodeError :=
  memberOffenders f.shape (path ++ [.key (fieldKey f)]) (Json.lookup (fieldKey f) members)

def typenameOffenders (s : SelectionSet) (members : List (String × Json)) (path : Path) :
    Faults DecodeError :=
  .when (s.fragments ≠ [] ∧ ∀ name, Json.lookup typenameField members ≠ some (.string name))
    ⟨path, .noTypename⟩

def fragmentOffenders (members : List (String × Json)) (path : Path) (f : Fragment) :
    Faults DecodeError := fun place e =>
  Json.lookup typenameField members = some (.string (fragmentKey f)) ∧
    offenders (.object f.selections) (.object members) path place e

def itemOffenders (item : Shape) (path : Path) (i : Json × Nat) : Faults DecodeError :=
  memberOffenders item (path ++ [.index i.2]) (some i.1)

theorem offenders_list_iff {items : List Json} :
    offenders (.list item) (.array items) path place e ↔
    Faults.among 0 items.zipIdx (itemOffenders item path) place e := by
  constructor
  · intro hoffends
    obtain ⟨p, hpath, h⟩ := hoffends
    generalize hm : e.mismatch = m at h
    cases h with
    | notList h => exact absurd rfl (h items)
    | @item _ _ i j rest q _ hi hnull h =>
      refine ⟨i, (j, i), rest, ?_, by rw [Nat.zero_add], j, rfl, hnull, q, ?_, hm ▸ h⟩
      · rw [List.getElem?_zipIdx, hi, Nat.zero_add]
        rfl
      · rw [hpath, List.append_assoc]
        rfl
  · intro hoffends
    obtain ⟨i, ⟨j, k⟩, rest, hi, rfl, j', hj, hnull, q, hpath, h⟩ := hoffends
    cases hj
    rw [List.getElem?_zipIdx, Option.map_eq_some_iff] at hi
    obtain ⟨_, hi, hik⟩ := hi
    cases hik
    rw [Nat.zero_add] at hpath ⊢
    refine ⟨.index i :: q, ?_, .item hi hnull h⟩
    rw [hpath, List.append_assoc]
    rfl

theorem offenders_object_iff : offenders (.object s) (.object members) path place e ↔
    ((Faults.under 0 (Faults.among 0 s.fields (fieldOffenders members path))).or
      ((Faults.under 1 (typenameOffenders s members path)).or
        (Faults.under 2 (Faults.among 0 s.fragments (fragmentOffenders members path)))))
      place e := by
  constructor
  · intro hoffends
    obtain ⟨p, hpath, h⟩ := hoffends
    generalize hm : e.mismatch = m at h
    cases h with
    | notObject h => exact absurd rfl (h members)
    | @field _ _ i f j rest q _ hi hj hnull h =>
      refine .inl ⟨_, rfl, i, f, rest, hi, by rw [Nat.zero_add], j, hj, hnull, q, ?_, hm ▸ h⟩
      rw [hpath, List.append_assoc]
      rfl
    | typename hs h =>
      refine .inr (.inl ⟨[], rfl, ⟨hs, h⟩, rfl, ?_⟩)
      rw [List.append_nil] at hpath
      rw [← hpath, ← hm]
    | @fragment _ _ i f rest q _ hi hname h =>
      exact .inr (.inr ⟨_, rfl, i, f, rest, hi, by rw [Nat.zero_add], hname, p, hpath, hm ▸ h⟩)
  · intro hoffends
    rcases hoffends with ⟨_, rfl, i, f, rest, hi, rfl, j, hj, hnull, q, hpath, h⟩ |
      ⟨_, rfl, ⟨hs, h⟩, rfl, rfl⟩ | ⟨_, rfl, i, f, rest, hi, rfl, hname, q, hpath, h⟩
    · rw [Nat.zero_add]
      refine ⟨.key (fieldKey f) :: q, ?_, .field hi hj hnull h⟩
      rw [hpath, List.append_assoc]
      rfl
    · exact ⟨[], (List.append_nil path).symm, .typename hs h⟩
    · rw [Nat.zero_add]
      exact ⟨q, hpath, .fragment hi hname h⟩

end Parts

section Reports

variable {shape item : Shape} {s : SelectionSet} {members : List (String × Json)}

theorem reports_decodeMember
    (h : ∀ j path, Reports (decodeShape shape j path) (offenders shape j path))
    (path : Path) (found : Option Json) :
    Reports (decodeMember shape path found) (memberOffenders shape path found) := by
  cases found with
  | none =>
    refine Reports.ok Value.null fun place e hoffends => ?_
    obtain ⟨j, hj, -⟩ := hoffends
    cases hj
  | some j =>
    rw [decodeMember]
    cases hnull : j.isNull with
    | true =>
      refine Reports.ok Value.null fun place e hoffends => ?_
      obtain ⟨j', hj, hnot, -⟩ := hoffends
      cases hj
      rw [hnull] at hnot
      cases hnot
    | false =>
      refine (h j path).congr fun place e => ?_
      constructor
      · intro hoffends
        obtain ⟨j', hj, -, hoffends⟩ := hoffends
        cases hj
        exact hoffends
      · exact fun hoffends => ⟨j, rfl, hnull, hoffends⟩

theorem decodeItems_eq (decode : Json → Path → Except DecodeError Value) (path : Path) (n : Nat)
    (items : List Json) : decodeItems decode path n items =
      (items.zipIdx n).mapM fun i =>
        if i.1.isNull then .ok .null else decode i.1 (path ++ [.index i.2]) := by
  induction items generalizing n with
  | nil => rfl
  | cons j items ih =>
    rw [decodeItems, ih, List.zipIdx_cons, List.mapM_cons]
    cases j.isNull <;> rfl

theorem reports_typename (hs : s.fragments ≠ []) (path : Path) :
    Reports (placed path (typenameOf members)) (typenameOffenders s members path) := by
  cases hname : typenameOf members with
  | ok name => exact .when_ok name fun h => h.2 name (typenameOf_eq_ok_iff.1 hname)
  | error m =>
    have hm : m = .noTypename := by
      unfold typenameOf at hname
      split at hname
      · cases hname
      · cases hname
        rfl
    subst hm
    refine .when_error ⟨hs, fun name h => ?_⟩
    rw [typenameOf_eq_ok_iff.2 h] at hname
    cases hname

theorem reports_decodeFragment {f : Fragment} {name : String}
    (h : ∀ j path, Reports (decodeShape (.object f.selections) j path)
      (offenders (.object f.selections) j path))
    (hname : Json.lookup typenameField members = some (.string name)) (path : Path) :
    Reports (decodeFragment name (.object members) path f) (fragmentOffenders members path f) := by
  rw [decodeFragment]
  split
  · rename_i hkey
    refine (h (.object members) path).congr fun place e => ?_
    constructor
    · exact fun hoffends => hoffends.2
    · exact fun hoffends => ⟨by rw [hkey, hname], hoffends⟩
  · rename_i hkey
    refine Reports.ok Value.null fun place e hoffends => hkey ?_
    have hfragment := hoffends.1
    rw [hname] at hfragment
    cases hfragment
    rfl

theorem reports_whole {α : Type} {j : Json} {m : Mismatch}
    (h : ∀ place p m', Offends shape j place p m' ↔ place = [] ∧ p = [] ∧ m' = m) (path : Path) :
    Reports (.error ⟨path, m⟩ : Except DecodeError α) (offenders shape j path) := by
  refine Reports.error [] fun other e' => ?_
  constructor
  · intro hoffends
    obtain ⟨p, hpath, hoffends⟩ := hoffends
    obtain ⟨rfl, rfl, hm⟩ := (h _ _ _).1 hoffends
    rw [List.append_nil] at hpath
    exact ⟨rfl, by rw [← hpath, ← hm]⟩
  · intro heq
    obtain ⟨rfl, rfl⟩ := heq
    exact ⟨[], (List.append_nil path).symm, (h _ _ _).2 ⟨rfl, rfl, rfl⟩⟩

theorem reports_decodeLeaf (type : LeafType) (j : Json) (path : Path) :
    Reports (placed path (decodeLeaf type j)) (offenders (.leaf type) j path) := by
  cases hleaf : decodeLeaf type j with
  | ok v =>
    refine Reports.ok v fun place e hoffends => ?_
    obtain ⟨p, -, hoffends⟩ := hoffends
    cases hoffends with
    | leaf h =>
      rw [decodeLeaf_of_refuses h] at hleaf
      cases hleaf
  | error m => exact reports_whole (offends_leaf_iff hleaf) path

theorem reports_decodeSet (s : SelectionSet) (members : List (String × Json)) (path : Path)
    (hfields : ∀ f ∈ s.fields, ∀ j path, Reports (decodeShape f.shape j path)
      (offenders f.shape j path))
    (hfragments : ∀ f ∈ s.fragments, ∀ j path, Reports (decodeShape (.object f.selections) j path)
      (offenders (.object f.selections) j path)) :
    Reports (decodeSet s (.object members) path)
      (offenders (.object s) (.object members) path) := by
  obtain ⟨fields, fragments⟩ := s
  refine Reports.congr ?_ fun place e => offenders_object_iff
  rw [decodeSet, decodeFields_eq]
  refine Reports.bind 0 ?_ (fun r _ => ?_) ((Faults.from_under 2 _).under_or _)
  · exact (Reports.mapM 0 fun f hf => (reports_decodeMember (hfields f hf) _ _).map).map
  · cases fragments with
    | nil =>
      refine Reports.ok r fun place e hoffends => ?_
      rcases hoffends with ⟨_, -, ⟨hs, -⟩, -⟩ | ⟨_, -, hamong⟩
      · exact hs rfl
      · exact Faults.among_nil 0 _ _ _ hamong
    | cons f rest =>
      refine Reports.bind 1 (reports_typename (List.cons_ne_nil f rest) path) (fun name hname => ?_)
        (Faults.from_under 2 _)
      have hlookup := typenameOf_eq_ok_iff.1 (placed_eq_ok_iff.1 hname)
      refine Reports.under 2 ?_
      rw [decodeFragments_eq]
      refine Reports.map (Reports.map (Reports.mapM 0 fun g hg => ?_))
      exact (reports_decodeFragment (hfragments g hg) hlookup path).map

theorem reports_decodeShape (shape : Shape) :
    ∀ j path, Reports (decodeShape shape j path) (offenders shape j path) := by
  induction shape using Query.Shape.induct with
  | leaf type =>
    intro j path
    rw [decodeShape]
    exact reports_decodeLeaf type j path
  | list item ih =>
    intro j path
    cases j with
    | array items =>
      rw [decodeShape, decodeItems_eq]
      refine Reports.congr ?_ fun place e => offenders_list_iff
      exact (Reports.mapM 0 fun i _ => reports_decodeMember ih _ (some i.1)).map
    | _ => exact reports_whole (offends_notList_iff (by simp)) path
  | object s hfields hfragments =>
    intro j path
    rw [decodeShape]
    cases j with
    | object members => exact (reports_decodeSet s members path hfields hfragments).map
    | _ =>
      obtain ⟨fields, fragments⟩ := s
      exact Reports.map (reports_whole (offends_notObject_iff (by simp)) path)

end Reports

end Result

open Result

/-- Data is decoded if it conforms and not otherwise. The error is the first offender's: no other
stands before it, and the text of its path leads to JSON that the message is true of. -/
theorem Query.Document.decode_reports_first (d : Document) (data : Json) :
    ((∃ v, d.decode data = .ok v) ↔ Conforms (.object d.selections) data) ∧
      ∀ e, d.decode data = .error e → ∃ place j,
        Offends (.object d.selections) data place e.path e.mismatch ∧
        (∀ other p m, Offends (.object d.selections) data other p m →
          place < other ∨ (place = other ∧ p = e.path ∧ m = e.mismatch)) ∧
        Path.read? e.path.write = some e.path ∧ data.at? e.path = some j ∧ e.mismatch.Blames j := by
  have hreports : Reports (d.decode data) (offenders (.object d.selections) data []) := by
    have h := reports_decodeShape (.object d.selections) data []
    rwa [decodeShape] at h
  constructor
  · rw [hreports.exists_ok_iff, conforms_iff]
    constructor
    · exact fun h place p m hoffends => h place ⟨p, m⟩ ⟨p, rfl, hoffends⟩
    · intro h place e hoffends
      obtain ⟨p, -, hoffends⟩ := hoffends
      exact h place p e.mismatch hoffends
  · intro e he
    obtain ⟨place, ⟨p, hpath, hoffends⟩, hleast⟩ := hreports.first e he
    rw [List.nil_append] at hpath
    subst hpath
    obtain ⟨j, hat, hblames⟩ := hoffends.exists_at?
    refine ⟨place, j, hoffends, fun other p m h => ?_, Path.read?_write hoffends.isPlain, hat,
      hblames⟩
    rcases hleast other ⟨p, m⟩ ⟨p, rfl, h⟩ with hlt | ⟨hplace, heq⟩
    · exact .inl hlt
    · rw [heq]
      exact .inr ⟨hplace, rfl, rfl⟩

namespace Result

def lostData : Json := .object [
  ("tally", .ofInt 2),
  ("nodes", .array [.null, .object
    [("summary", .null), ("__typename", .string "Ticket"), ("stage", .string "LOST")]])]

theorem decode_reports_first_sample :
    Document.decode ⟨.ofWord "desk", sampleSelections⟩ lostData =
        .error ⟨[.key "nodes", .index 1, .key "stage"], .notMember "LOST" "IssueState"⟩ ∧
      ¬Conforms (.object sampleSelections) lostData ∧
      Path.read? "nodes[1].stage" = some [.key "nodes", .index 1, .key "stage"] ∧
      lostData.at? [.key "nodes", .index 1, .key "stage"] = some (.string "LOST") := by
  have hdecode : Document.decode ⟨.ofWord "desk", sampleSelections⟩ lostData =
      .error ⟨[.key "nodes", .index 1, .key "stage"], .notMember "LOST" "IssueState"⟩ := by rfl
  obtain ⟨hconforms, hfirst⟩ :=
    Document.decode_reports_first ⟨.ofWord "desk", sampleSelections⟩ lostData
  obtain ⟨place, j, hoffends, -, hread, hat, hblames⟩ := hfirst _ hdecode
  refine ⟨hdecode, fun h => h.not_offends hoffends, hread, ?_⟩
  rw [hat, hblames.1]

end Result

end Docket
