import Docket.Proofs.Typed
/-!
Data restricted to what is selected. Of every object only the members are kept that some selection
on it asks for, and those that are missing become null; the data of one object may be asked for by
several selections at once. Decoding cannot tell the data from its restriction.
-/

namespace Docket

open Query (LeafType Shape SelectionSet Selection Fragment Document typenameField)

namespace Query.Shape

def set? : Shape → Option SelectionSet
  | .object s => some s
  | _ => none

def item? : Shape → Option Shape
  | .list item => some item
  | _ => none

end Query.Shape

namespace Result

mutual

def applying (name : Option String) : SelectionSet → List SelectionSet
  | ⟨fields, fragments⟩ => ⟨fields, fragments⟩ :: applyingFragments name fragments

def applyingFragments (name : Option String) : List Fragment → List SelectionSet
  | [] => []
  | ⟨typeName, s⟩ :: rest =>
    (if some typeName.text = name then applying name s else []) ++ applyingFragments name rest

end

def setsFor (shapes : List Shape) (members : List (String × Json)) : List SelectionSet :=
  (shapes.filterMap Shape.set?).flatMap (applying (typenameOf members).toOption)

def shapesUnder (key : String) (sets : List SelectionSet) : List Shape :=
  (sets.flatMap SelectionSet.fields).filterMap fun f =>
    if fieldKey f = key then some f.shape else none

def selectedKeys (sets : List SelectionSet) : List String :=
  (if sets.any fun s => !s.fragments.isEmpty then [typenameField] else []) ++
    ((sets.flatMap SelectionSet.fields).map fieldKey).eraseDups

def select (sets : List SelectionSet) (members : List (String × Json)) : List (String × Json) :=
  (selectedKeys sets).map fun k => (k, (Json.lookup k members).getD .null)

mutual

/-- Keeps of the objects in the data what is selected from them by any of the shapes. -/
def restrict (shapes : List Shape) : Json → Json
  | .object members =>
    .object (select (setsFor shapes members) (restrictMembers (setsFor shapes members) members))
  | .array items => .array (restrictItems (shapes.filterMap Shape.item?) items)
  | j => j

def restrictItems (shapes : List Shape) : List Json → List Json
  | [] => []
  | j :: rest => restrict shapes j :: restrictItems shapes rest

def restrictMembers (sets : List SelectionSet) : List (String × Json) → List (String × Json)
  | [] => []
  | (k, j) :: rest => (k, restrict (shapesUnder k sets) j) :: restrictMembers sets rest

end

def restrictTo (sets : List SelectionSet) (members : List (String × Json)) :
    List (String × Json) :=
  select sets (restrictMembers sets members)

theorem restrictItems_eq_map (shapes : List Shape) (items : List Json) :
    restrictItems shapes items = items.map (restrict shapes) := by
  induction items with
  | nil => rfl
  | cons j items ih => rw [restrictItems, ih, List.map_cons]

theorem restrictMembers_eq_map (sets : List SelectionSet) (members : List (String × Json)) :
    restrictMembers sets members =
      members.map fun kj => (kj.1, restrict (shapesUnder kj.1 sets) kj.2) := by
  induction members with
  | nil => rfl
  | cons kj members ih => rw [restrictMembers, ih, List.map_cons]

theorem lookup_restrictMembers (k : String) (sets : List SelectionSet)
    (members : List (String × Json)) : Json.lookup k (restrictMembers sets members) =
      (Json.lookup k members).map (restrict (shapesUnder k sets)) := by
  rw [restrictMembers_eq_map, Json.lookup, Json.lookup, ← List.map_reverse, List.find?_map,
    Option.map_map, Option.map_map]
  refine Option.map_congr fun kj hkj => ?_
  have hk : kj.1 = k := by simpa using List.find?_some hkj
  rw [Function.comp_apply, Function.comp_apply, hk]

theorem lookup_select {k : String} {sets : List SelectionSet} (h : k ∈ selectedKeys sets)
    (members : List (String × Json)) :
    Json.lookup k (select sets members) = some ((Json.lookup k members).getD .null) := by
  have hsome : ((selectedKeys sets).reverse.find? (· == k)).isSome :=
    List.find?_isSome.2 ⟨k, List.mem_reverse.2 h, beq_self_eq_true k⟩
  obtain ⟨k', hfind⟩ := Option.isSome_iff_exists.1 hsome
  obtain rfl : k' = k := by simpa using List.find?_some hfind
  rw [Json.lookup, select, ← List.map_reverse, List.find?_map, Option.map_map]
  show Option.map _ ((selectedKeys sets).reverse.find? (· == k')) = _
  rw [hfind]
  rfl

theorem typenameField_mem_selectedKeys {s : SelectionSet} {sets : List SelectionSet} (hs : s ∈ sets)
    (h : s.fragments ≠ []) : typenameField ∈ selectedKeys sets := by
  have hany : (sets.any fun s => !s.fragments.isEmpty) = true :=
    List.any_eq_true.2 ⟨s, hs, by simpa using h⟩
  rw [selectedKeys, if_pos hany]
  exact List.mem_append_left _ List.mem_cons_self

theorem fieldKey_mem_selectedKeys {f : Selection} {s : SelectionSet} {sets : List SelectionSet}
    (hs : s ∈ sets) (hf : f ∈ s.fields) : fieldKey f ∈ selectedKeys sets :=
  List.mem_append_right _ <| List.mem_eraseDups.2 <| List.mem_map_of_mem <|
    List.mem_flatMap.2 ⟨s, hs, hf⟩

theorem shape_mem_shapesUnder {f : Selection} {s : SelectionSet} {sets : List SelectionSet}
    (hs : s ∈ sets) (hf : f ∈ s.fields) : f.shape ∈ shapesUnder (fieldKey f) sets :=
  List.mem_filterMap.2 ⟨f, List.mem_flatMap.2 ⟨s, hs, hf⟩, if_pos rfl⟩

theorem isNull_restrict (shapes : List Shape) (j : Json) :
    (restrict shapes j).isNull = j.isNull := by
  cases j <;> rfl

theorem asString?_restrict (shapes : List Shape) (j : Json) :
    (restrict shapes j).asString? = j.asString? := by
  cases j <;> rfl

theorem decodeLeaf_restrict (type : LeafType) (shapes : List Shape) (j : Json) :
    decodeLeaf type (restrict shapes j) = decodeLeaf type j := by
  cases type <;> cases j <;> rfl

theorem mem_setsFor {s t : SelectionSet} {shapes : List Shape} (h : Shape.object s ∈ shapes)
    {members : List (String × Json)} (ht : t ∈ applying (typenameOf members).toOption s) :
    t ∈ setsFor shapes members :=
  List.mem_flatMap.2 ⟨s, List.mem_filterMap.2 ⟨.object s, h, rfl⟩, ht⟩

theorem mem_applying_self (name : Option String) (s : SelectionSet) : s ∈ applying name s := by
  cases s
  exact List.mem_cons_self

theorem mem_applyingFragments {f : Fragment} {fragments : List Fragment} (hf : f ∈ fragments)
    {name : String} (hname : fragmentKey f = name) {t : SelectionSet}
    (ht : t ∈ applying (some name) f.selections) :
    t ∈ applyingFragments (some name) fragments := by
  induction fragments with
  | nil => cases hf
  | cons g rest ih =>
    obtain ⟨typeName, s⟩ := g
    rw [applyingFragments]
    cases hf with
    | head =>
      rw [if_pos (show some typeName.text = some name from congrArg some hname)]
      exact List.mem_append_left _ ht
    | tail _ hf => exact List.mem_append_right _ (ih hf)

theorem typenameOf_restrictTo {s : SelectionSet} {sets : List SelectionSet} (hs : s ∈ sets)
    (h : s.fragments ≠ []) (members : List (String × Json)) :
    typenameOf (restrictTo sets members) = typenameOf members := by
  have hkey := typenameField_mem_selectedKeys hs h
  have hname : (Json.lookup typenameField (restrictTo sets members)).bind Json.asString? =
      (Json.lookup typenameField members).bind Json.asString? := by
    rw [restrictTo, lookup_select hkey, lookup_restrictMembers]
    cases Json.lookup typenameField members with
    | none => rfl
    | some j => exact asString?_restrict _ j
  rw [typenameOf, typenameOf, hname]

theorem decodeItems_map {decode : Json → Path → Except DecodeError Value} {g : Json → Json}
    (hnull : ∀ j, (g j).isNull = j.isNull) (hdecode : ∀ j path, decode (g j) path = decode j path)
    (path : Path) (i : Nat) (items : List Json) :
    decodeItems decode path i (items.map g) = decodeItems decode path i items := by
  induction items generalizing i with
  | nil => rfl
  | cons j items ih => rw [List.map_cons, decodeItems, decodeItems, hnull, hdecode, ih]

theorem decodeField_restrictTo {f : Selection} {s : SelectionSet} {sets : List SelectionSet}
    (hs : s ∈ sets) (hf : f ∈ s.fields)
    (h : ∀ shapes, f.shape ∈ shapes → ∀ j path,
      decodeShape f.shape (restrict shapes j) path = decodeShape f.shape j path)
    (members : List (String × Json)) (path : Path) :
    decodeField (restrictTo sets members) path f = decodeField members path f := by
  rw [decodeField, decodeField, restrictTo, lookup_select (fieldKey_mem_selectedKeys hs hf),
    lookup_restrictMembers]
  cases Json.lookup (fieldKey f) members with
  | none => rfl
  | some j =>
    rw [Option.map_some, Option.getD_some, decodeMember, decodeMember, isNull_restrict,
      h _ (shape_mem_shapesUnder hs hf)]

theorem decodeFragment_restrictTo {f : Fragment} {name : String} {sets : List SelectionSet}
    {members : List (String × Json)} (path : Path)
    (h : fragmentKey f = name → decodeSet f.selections (.object (restrictTo sets members)) path =
      decodeSet f.selections (.object members) path) :
    decodeFragment name (.object (restrictTo sets members)) path f =
      decodeFragment name (.object members) path f := by
  rw [decodeFragment, decodeFragment]
  split
  · rename_i hname
    rw [h hname]
  · rfl

mutual

theorem decodeShape_restrict : ∀ (shape : Shape) (shapes : List Shape), shape ∈ shapes →
    ∀ (j : Json) (path : Path),
      decodeShape shape (restrict shapes j) path = decodeShape shape j path
  | .leaf type, shapes, _, j, path => by rw [decodeShape, decodeShape, decodeLeaf_restrict]
  | .list item, shapes, h, j, path => by
    cases j with
    | array items =>
      have hitem : item ∈ shapes.filterMap Shape.item? := List.mem_filterMap.2 ⟨_, h, rfl⟩
      rw [restrict, decodeShape, decodeShape, restrictItems_eq_map,
        decodeItems_map (isNull_restrict _) (decodeShape_restrict item _ hitem)]
    | _ => rfl
  | .object s, shapes, h, j, path => by
    cases j with
    | object members =>
      have hset := decodeSet_restrictTo s _ members (fun t ht => mem_setsFor h ht) path
      rw [decodeShape, decodeShape, ← hset]
      rfl
    | _ => cases s; rfl

theorem decodeSet_restrictTo : ∀ (s : SelectionSet) (sets : List SelectionSet)
    (members : List (String × Json)),
    (∀ t ∈ applying (typenameOf members).toOption s, t ∈ sets) → ∀ path : Path,
      decodeSet s (.object (restrictTo sets members)) path = decodeSet s (.object members) path
  | ⟨fields, fragments⟩, sets, members, h, path => by
    have hs := h _ (mem_applying_self _ _)
    have hfields : ∀ f ∈ fields, entry fieldKey (decodeField (restrictTo sets members) path) f =
        entry fieldKey (decodeField members path) f := by
      intro f hf
      rw [entry, entry, decodeField_restrictTo hs hf (decodeFieldShape_restrict fields f hf)]
    rw [decodeSet, decodeSet, decodeFields_eq, decodeFields_eq, mapM_congr hfields]
    refine bind_congr fun r => ?_
    cases fragments with
    | nil => rfl
    | cons g rest =>
      dsimp only
      rw [typenameOf_restrictTo hs (List.cons_ne_nil g rest)]
      cases hname : typenameOf members with
      | error m => rfl
      | ok name =>
        have hfragments : ∀ f ∈ g :: rest,
            entry fragmentKey (decodeFragment name (.object (restrictTo sets members)) path) f =
              entry fragmentKey (decodeFragment name (.object members) path) f := by
          intro f hf
          rw [entry, entry, decodeFragment_restrictTo path fun hkey => ?_]
          -- all that the fragment selects from the object is among what the set does
          refine decodeFragmentSet_restrictTo (g :: rest) f hf sets members (fun t ht => ?_) path
          rw [hname] at h ht
          exact h t (List.mem_cons_of_mem _ (mem_applyingFragments hf hkey ht))
        show (decodeFragments _ _ _ _ _ >>= _) = (decodeFragments _ _ _ _ _ >>= _)
        rw [decodeFragments_eq, decodeFragments_eq, mapM_congr hfragments]

theorem decodeFieldShape_restrict : ∀ (fields : List Selection), ∀ f ∈ fields,
    ∀ shapes, f.shape ∈ shapes → ∀ (j : Json) (path : Path),
      decodeShape f.shape (restrict shapes j) path = decodeShape f.shape j path
  | ⟨head, shape⟩ :: rest, f, hf => by
    cases hf with
    | head => exact decodeShape_restrict shape
    | tail _ hf => exact decodeFieldShape_restrict rest f hf

theorem decodeFragmentSet_restrictTo : ∀ (fragments : List Fragment), ∀ f ∈ fragments,
    ∀ (sets : List SelectionSet) (members : List (String × Json)),
    (∀ t ∈ applying (typenameOf members).toOption f.selections, t ∈ sets) → ∀ path : Path,
      decodeSet f.selections (.object (restrictTo sets members)) path =
        decodeSet f.selections (.object members) path
  | ⟨typeName, s⟩ :: rest, f, hf => by
    cases hf with
    | head => exact decodeSet_restrictTo s
    | tail _ hf => exact decodeFragmentSet_restrictTo rest f hf

end

end Result

namespace Query.Document

def restrict (d : Document) (data : Json) : Json := Result.restrict [.object d.selections] data

theorem decode_restrict (d : Document) (data : Json) :
    d.decode (d.restrict data) = d.decode data := by
  have hshape := Result.decodeShape_restrict (.object d.selections) [.object d.selections]
    List.mem_cons_self data []
  rw [Result.decodeShape, Result.decodeShape] at hshape
  exact hshape

/-- Data that agree on what the document selects are decoded alike, to one value or one error. -/
theorem decode_eq_of_restrict_eq {d : Document} {data data' : Json}
    (h : d.restrict data = d.restrict data') : d.decode data = d.decode data' := by
  rw [← d.decode_restrict data, h, d.decode_restrict]

end Query.Document

namespace Result

/-- The sample data without a null summary, and with members that are not selected: one of a type
that is not the item's, and one of no selection at all. -/
def strayData : Json := .object [
  ("nodes", .array [.null, .object
    [("stage", .string "OPEN"), ("nickname", .string "Ash"), ("__typename", .string "Ticket")]]),
  ("stray", .array [.ofInt 1]),
  ("tally", .ofInt 2)]

theorem decode_eq_of_restrict_eq_sample :
    Document.restrict ⟨.ofWord "desk", sampleSelections⟩ sampleData =
        Document.restrict ⟨.ofWord "desk", sampleSelections⟩ strayData ∧
      Document.decode ⟨.ofWord "desk", sampleSelections⟩ sampleData =
        Document.decode ⟨.ofWord "desk", sampleSelections⟩ strayData := by
  have h : Document.restrict ⟨.ofWord "desk", sampleSelections⟩ sampleData =
      Document.restrict ⟨.ofWord "desk", sampleSelections⟩ strayData := by rfl
  exact ⟨h, Document.decode_eq_of_restrict_eq h⟩

end Result

end Docket
