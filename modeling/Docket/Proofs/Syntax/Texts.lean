import Docket.Proofs.Syntax.Outline
/-!
Other texts and cursors in the arguments of an element tree. They change the string literals of what
the tree asks for and nothing else: the tree compiles as before and refers to the same variables.
-/

namespace Docket.Query

variable (f : String → String)

namespace Syntax

def Literal.mapTexts : Literal → Literal
  | .string s => .string (f s)
  | l => l

def Head.mapTexts (h : Head) : Head :=
  { h with arguments := h.arguments.map fun a => (a.1, a.2.mapTexts f) }

mutual

def Selection.mapTexts : Selection → Selection
  | .leaf h => .leaf (h.mapTexts f)
  | .nested h ss => .nested (h.mapTexts f) (mapAllTexts ss)
  | .fragment t ss => .fragment t (mapAllTexts ss)

def mapAllTexts : List Selection → List Selection
  | [] => []
  | s :: ss => s.mapTexts :: mapAllTexts ss

end

theorem mapAllTexts_eq (ss : List Selection) :
    mapAllTexts f ss = ss.map (Selection.mapTexts f) := by
  induction ss with
  | nil => rfl
  | cons s ss ih => rw [mapAllTexts, ih, List.map_cons]

def Operation.mapTexts (o : Operation) : Operation :=
  { o with selections := mapAllTexts f o.selections }

end Syntax

def ArgumentValue.mapTexts : ArgumentValue → ArgumentValue
  | .cursor s => .cursor (f s)
  | .text s => .text (f s)
  | v => v

def ArgumentSet.mapTexts (s : ArgumentSet) : ArgumentSet :=
  ⟨s.entries.map fun e => (e.1, e.2.mapTexts f)⟩

mutual

def Element.mapTexts : Element → Element
  | ⟨name, aliasName, arguments, scalars, children, node, variants⟩ =>
    ⟨name, aliasName, arguments.mapTexts f, scalars, mapElementTexts children, mapNodeTexts node,
      mapElementTexts variants⟩

def Node.mapTexts : Node → Node
  | ⟨kind, scalars, children, variants⟩ =>
    ⟨kind, scalars, mapElementTexts children, mapElementTexts variants⟩

def mapElementTexts : List Element → List Element
  | [] => []
  | e :: rest => e.mapTexts :: mapElementTexts rest

def mapNodeTexts : Option Node → Option Node
  | none => none
  | some n => some n.mapTexts

end

section Outline

variable {f}

theorem ArgumentValue.literal_mapTexts (v : ArgumentValue) :
    (v.mapTexts f).literal = v.literal.mapTexts f := by
  cases v <;> rfl

theorem ArgumentSet.outline_mapTexts (s : ArgumentSet) :
    (s.mapTexts f).outline = s.outline.map fun a => (a.1, a.2.mapTexts f) := by
  simp only [outline, mapTexts, List.map_map, Function.comp_def, ArgumentValue.literal_mapTexts]

theorem ArgumentSet.references_mapTexts (s : ArgumentSet) :
    (s.mapTexts f).references = s.references := by
  have hreference : ∀ v : ArgumentValue, (v.mapTexts f).reference? = v.reference? := by
    intro v
    cases v <;> rfl
  simp only [references, mapTexts, List.filterMap_map, Function.comp_def, hreference]

theorem Element.name_mapTexts (e : Element) : (e.mapTexts f).name = e.name := by
  cases e
  rfl

theorem Element.aliasName_mapTexts (e : Element) : (e.mapTexts f).aliasName = e.aliasName := by
  cases e
  rfl

theorem Element.arguments_mapTexts (e : Element) :
    (e.mapTexts f).arguments = e.arguments.mapTexts f := by
  cases e
  rfl

theorem Node.kind_mapTexts (n : Node) : (n.mapTexts f).kind = n.kind := by
  cases n
  rfl

theorem mapElementTexts_isEmpty (es : List Element) :
    (mapElementTexts f es).isEmpty = es.isEmpty := by
  cases es <;> rfl

theorem typenameOutline_mapTexts (es : List Element) :
    typenameOutline (mapElementTexts f es) = Syntax.mapAllTexts f (typenameOutline es) := by
  rw [typenameOutline, typenameOutline, mapElementTexts_isEmpty]
  split <;> rfl

theorem scalarsOutline_mapTexts (scalars : List ScalarField) :
    Syntax.mapAllTexts f (scalars.map ScalarField.outline) = scalars.map ScalarField.outline := by
  rw [Syntax.mapAllTexts_eq, List.map_map]
  rfl

mutual

theorem Element.outline_mapTexts : ∀ e : Element,
    (e.mapTexts f).outline = Syntax.mapAllTexts f e.outline
  | ⟨_, _, _, scalars, children, node, variants⟩ => by
    have hchildren := childrenOutline_mapTexts children
    have hnode := nodeOutline_mapTexts node
    have hvariants := variantsOutline_mapTexts variants
    have hmark := typenameOutline_mapTexts (f := f) variants
    have hscalars := scalarsOutline_mapTexts (f := f) scalars
    simp only [Syntax.mapAllTexts_eq] at *
    rw [Element.mapTexts, Element.outline, Element.outline, hchildren, hnode, hvariants, hmark,
      List.map_append, List.map_append, List.map_append, List.map_append, hscalars]

theorem Node.outline_mapTexts : ∀ n : Node,
    (n.mapTexts f).outline = Syntax.mapAllTexts f n.outline
  | ⟨_, scalars, children, variants⟩ => by
    have hchildren := childrenOutline_mapTexts children
    have hvariants := variantsOutline_mapTexts variants
    have hmark := typenameOutline_mapTexts (f := f) variants
    have hscalars := scalarsOutline_mapTexts (f := f) scalars
    simp only [Syntax.mapAllTexts_eq] at *
    rw [Node.mapTexts, Node.outline, Node.outline, hchildren, hvariants, hmark,
      List.map_append, List.map_append, List.map_append, hscalars]

theorem childrenOutline_mapTexts : ∀ es : List Element,
    childrenOutline (mapElementTexts f es) = Syntax.mapAllTexts f (childrenOutline es)
  | [] => rfl
  | e :: rest => by
    rw [mapElementTexts, childrenOutline, childrenOutline, e.outline_mapTexts,
      childrenOutline_mapTexts rest, e.name_mapTexts, e.aliasName_mapTexts, e.arguments_mapTexts,
      ArgumentSet.outline_mapTexts]
    rfl

theorem nodeOutline_mapTexts : ∀ n : Option Node,
    nodeOutline (mapNodeTexts f n) = Syntax.mapAllTexts f (nodeOutline n)
  | none => rfl
  | some n => by
    rw [mapNodeTexts, nodeOutline, nodeOutline, n.outline_mapTexts, n.kind_mapTexts]
    rfl

theorem variantsOutline_mapTexts : ∀ es : List Element,
    variantsOutline (mapElementTexts f es) = Syntax.mapAllTexts f (variantsOutline es)
  | [] => rfl
  | e :: rest => by
    rw [mapElementTexts, variantsOutline, variantsOutline, e.outline_mapTexts,
      variantsOutline_mapTexts rest, e.name_mapTexts]
    rfl

end

mutual

theorem Element.references_mapTexts : ∀ e : Element, (e.mapTexts f).references = e.references
  | ⟨_, _, _, _, children, node, variants⟩ => by
    rw [Element.mapTexts, Element.references, Element.references,
      childReferences_mapTexts children, nodeReferences_mapTexts node,
      variantReferences_mapTexts variants]

theorem Node.references_mapTexts : ∀ n : Node, (n.mapTexts f).references = n.references
  | ⟨_, _, children, variants⟩ => by
    rw [Node.mapTexts, Node.references, Node.references, childReferences_mapTexts children,
      variantReferences_mapTexts variants]

theorem childReferences_mapTexts : ∀ es : List Element,
    childReferences (mapElementTexts f es) = childReferences es
  | [] => rfl
  | e :: rest => by
    rw [mapElementTexts, childReferences, childReferences, e.arguments_mapTexts,
      ArgumentSet.references_mapTexts, e.references_mapTexts, childReferences_mapTexts rest]

theorem nodeReferences_mapTexts : ∀ n : Option Node,
    nodeReferences (mapNodeTexts f n) = nodeReferences n
  | none => rfl
  | some n => n.references_mapTexts

theorem variantReferences_mapTexts : ∀ es : List Element,
    variantReferences (mapElementTexts f es) = variantReferences es
  | [] => rfl
  | e :: rest => by
    rw [mapElementTexts, variantReferences, variantReferences, e.references_mapTexts,
      variantReferences_mapTexts rest]

end

end Outline

section Compile

variable {f} {r : Registry}

theorem refuseArguments_mapTexts (e : Element) :
    (e.mapTexts f).refuseArguments = e.refuseArguments := by
  rw [Element.refuseArguments, Element.refuseArguments, e.arguments_mapTexts, e.name_mapTexts,
    ArgumentSet.mapTexts]
  cases e.arguments.entries <;> rfl

theorem isEmpty_append {α : Type} (l l' : List α) :
    (l ++ l').isEmpty = (l.isEmpty && l'.isEmpty) := by
  cases l <;> rfl

theorem exists_close {owner : String} {fs fs' : List Selection} {gs gs' : List Fragment}
    {s : SelectionSet} (hfs : fs'.isEmpty = fs.isEmpty) (hgs : gs'.isEmpty = gs.isEmpty)
    (h : SelectionSet.close owner ⟨fs, gs⟩ = .ok s) :
    ∃ s', SelectionSet.close owner ⟨fs', gs'⟩ = .ok s' := by
  have hempty : SelectionSet.isEmpty ⟨fs', gs'⟩ = SelectionSet.isEmpty ⟨fs, gs⟩ := by
    rw [SelectionSet.isEmpty, SelectionSet.isEmpty, hfs, hgs]
  unfold SelectionSet.close at h ⊢
  rw [hempty]
  split at h
  · cases h
  · rename_i hne
    rw [if_neg hne]
    exact ⟨_, rfl⟩

mutual

theorem Element.exists_select_mapTexts : ∀ (e : Element) {s : SelectionSet},
    e.select r = .ok s → ∃ s', (e.mapTexts f).select r = .ok s'
  | ⟨name, _, _, scalars, children, node, variants⟩, s, h => by
    rw [Element.select] at h
    obtain ⟨leaves, hleaves, h⟩ := bind_eq_ok_iff.1 h
    obtain ⟨nested, hnested, h⟩ := bind_eq_ok_iff.1 h
    obtain ⟨wrapped, hwrapped, h⟩ := bind_eq_ok_iff.1 h
    obtain ⟨fragments, hfragments, h⟩ := bind_eq_ok_iff.1 h
    obtain ⟨nested', hnested', hn⟩ := exists_selectChildren_mapTexts children hnested
    obtain ⟨wrapped', hwrapped', hw⟩ := exists_selectNode_mapTexts node hwrapped
    obtain ⟨fragments', hfragments', hg⟩ := exists_selectVariants_mapTexts variants hfragments
    have hfields :
        (leaves ++ nested' ++ wrapped').isEmpty = (leaves ++ nested ++ wrapped).isEmpty := by
      rw [isEmpty_append, isEmpty_append, isEmpty_append, isEmpty_append, hn, hw]
    obtain ⟨s', hs'⟩ := exists_close hfields hg h
    refine ⟨s', ?_⟩
    rw [Element.mapTexts, Element.select, hleaves, hnested', hwrapped', hfragments']
    exact hs'

theorem Node.exists_select_mapTexts : ∀ (n : Node) {owner : String} {s : SelectionSet},
    n.select r owner = .ok s → ∃ s', (n.mapTexts f).select r owner = .ok s'
  | ⟨kind, scalars, children, variants⟩, owner, s, h => by
    rw [Node.select] at h
    obtain ⟨leaves, hleaves, h⟩ := bind_eq_ok_iff.1 h
    obtain ⟨nested, hnested, h⟩ := bind_eq_ok_iff.1 h
    obtain ⟨fragments, hfragments, h⟩ := bind_eq_ok_iff.1 h
    obtain ⟨nested', hnested', hn⟩ := exists_selectChildren_mapTexts children hnested
    obtain ⟨fragments', hfragments', hg⟩ := exists_selectVariants_mapTexts variants hfragments
    have hfields : (leaves ++ nested').isEmpty = (leaves ++ nested).isEmpty := by
      rw [isEmpty_append, isEmpty_append, hn]
    obtain ⟨s', hs'⟩ := exists_close hfields hg h
    refine ⟨s', ?_⟩
    rw [Node.mapTexts, Node.select, hleaves, hnested', hfragments']
    exact hs'

theorem exists_selectChildren_mapTexts : ∀ (es : List Element) {fs : List Selection},
    selectChildren r es = .ok fs →
      ∃ fs', selectChildren r (mapElementTexts f es) = .ok fs' ∧ fs'.isEmpty = fs.isEmpty
  | [], fs, h => ⟨fs, h, rfl⟩
  | e :: rest, fs, h => by
    rw [selectChildren] at h
    obtain ⟨s, hs, h⟩ := bind_eq_ok_iff.1 h
    obtain ⟨others, hothers, h⟩ := bind_eq_ok_iff.1 h
    cases h
    obtain ⟨s', hs'⟩ := e.exists_select_mapTexts hs
    obtain ⟨others', hothers', _⟩ := exists_selectChildren_mapTexts rest hothers
    refine ⟨⟨(e.mapTexts f).head, .object s'⟩ :: others', ?_, rfl⟩
    rw [mapElementTexts, selectChildren, hs', hothers']
    rfl

theorem exists_selectNode_mapTexts : ∀ (n : Option Node) {owner : String} {fs : List Selection},
    selectNode r owner n = .ok fs →
      ∃ fs', selectNode r owner (mapNodeTexts f n) = .ok fs' ∧ fs'.isEmpty = fs.isEmpty
  | none, owner, fs, h => ⟨fs, h, rfl⟩
  | some n, owner, fs, h => by
    rw [selectNode] at h
    obtain ⟨s, hs, h⟩ := bind_eq_ok_iff.1 h
    cases h
    obtain ⟨s', hs'⟩ := n.exists_select_mapTexts hs
    refine ⟨[⟨.plain (n.mapTexts f).kind.name, (n.mapTexts f).kind.shape s'⟩], ?_, rfl⟩
    rw [mapNodeTexts, selectNode, hs']
    rfl

theorem exists_selectVariants_mapTexts : ∀ (es : List Element) {fs : List Fragment},
    selectVariants r es = .ok fs →
      ∃ fs', selectVariants r (mapElementTexts f es) = .ok fs' ∧ fs'.isEmpty = fs.isEmpty
  | [], fs, h => ⟨fs, h, rfl⟩
  | e :: rest, fs, h => by
    rw [selectVariants] at h
    obtain ⟨_, hrefuse, h⟩ := bind_eq_ok_iff.1 h
    obtain ⟨s, hs, h⟩ := bind_eq_ok_iff.1 h
    obtain ⟨others, hothers, h⟩ := bind_eq_ok_iff.1 h
    cases h
    obtain ⟨s', hs'⟩ := e.exists_select_mapTexts hs
    obtain ⟨others', hothers', _⟩ := exists_selectVariants_mapTexts rest hothers
    refine ⟨⟨(e.mapTexts f).name, s'⟩ :: others', ?_, rfl⟩
    rw [mapElementTexts, selectVariants, refuseArguments_mapTexts, hrefuse, hs', hothers']
    rfl

end

theorem exists_compile_mapTexts (f : String → String) {root : Element} {d : Document}
    (h : root.compile r = .ok d) : ∃ d', (root.mapTexts f).compile r = .ok d' := by
  obtain ⟨harguments, s, hs, _⟩ := compile_ok_iff.1 h
  obtain ⟨s', hs'⟩ := root.exists_select_mapTexts hs
  refine ⟨_, compile_ok_iff.2 ⟨?_, s', hs', rfl⟩⟩
  rw [root.arguments_mapTexts, ArgumentSet.mapTexts, harguments]
  rfl

end Compile

end Docket.Query
