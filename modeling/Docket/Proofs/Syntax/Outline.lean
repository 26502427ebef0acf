import Docket.Proofs.Except
import Docket.Proofs.Syntax.Grammar
import Docket.Query.Compile
/-!
What an element tree asks for, as selections of the query language: at every level the scalars, the
children, the wrapper, the name of the concrete type if there are variants, and the variants. A
compiled document asks for the same, in the same order and with every repetition.
-/

namespace Docket.Query

open Syntax (Literal Head AllProper)

def ArgumentValue.literal : ArgumentValue → Literal
  | .count n => .int n
  | .cursor s => .string s
  | .text s => .string s
  | .search t => .enum t.text
  | .variable x => .variable x.text

def ArgumentSet.outline (s : ArgumentSet) : List (String × Literal) :=
  s.entries.map fun e => (e.1.text, e.2.literal)

def plainField (name : String) : Head := ⟨none, name, []⟩

def ScalarField.outline (s : ScalarField) : Syntax.Selection := .leaf (plainField s.name.fieldName)

def NodeKind.fieldName : NodeKind → String
  | .single => "node"
  | .list => "nodes"

theorem NodeKind.fieldName_name (kind : NodeKind) : kind.name.fieldName = kind.fieldName := by
  cases kind <;> rfl

def typenameOutline {α : Type} (fragments : List α) : List Syntax.Selection :=
  if fragments.isEmpty then [] else [.leaf (plainField typenameField)]

mutual

def Element.outline : Element → List Syntax.Selection
  | ⟨_, _, _, scalars, children, node, variants⟩ =>
    scalars.map ScalarField.outline ++ childrenOutline children ++ nodeOutline node ++
      typenameOutline variants ++ variantsOutline variants

def Node.outline : Node → List Syntax.Selection
  | ⟨_, scalars, children, variants⟩ =>
    scalars.map ScalarField.outline ++ childrenOutline children ++
      typenameOutline variants ++ variantsOutline variants

def childrenOutline : List Element → List Syntax.Selection
  | [] => []
  | e :: rest =>
    .nested ⟨e.aliasName.map Identifier.fieldName, e.name.fieldName, e.arguments.outline⟩
      e.outline :: childrenOutline rest

def nodeOutline : Option Node → List Syntax.Selection
  | none => []
  | some n => [.nested (plainField n.kind.fieldName) n.outline]

def variantsOutline : List Element → List Syntax.Selection
  | [] => []
  | e :: rest => .fragment e.name.text e.outline :: variantsOutline rest

end

mutual

/-- The variables that the arguments below an element refer to, in the order of the text. -/
def Element.references : Element → List VariableName
  | ⟨_, _, _, _, children, node, variants⟩ =>
    childReferences children ++ nodeReferences node ++ variantReferences variants

def Node.references : Node → List VariableName
  | ⟨_, _, children, variants⟩ => childReferences children ++ variantReferences variants

def childReferences : List Element → List VariableName
  | [] => []
  | e :: rest => e.arguments.references ++ e.references ++ childReferences rest

def nodeReferences : Option Node → List VariableName
  | none => []
  | some n => n.references

def variantReferences : List Element → List VariableName
  | [] => []
  | e :: rest => e.references ++ variantReferences rest

end

def FieldHead.outline (h : FieldHead) : Head :=
  ⟨h.aliasName.map Identifier.fieldName, h.name.fieldName, h.arguments.outline⟩

mutual

def Shape.outline (head : Head) : Shape → Syntax.Selection
  | .leaf _ => .leaf head
  | .object s => .nested head s.outline
  | .list item => item.outline head

def SelectionSet.outline : SelectionSet → List Syntax.Selection
  | ⟨fields, fragments⟩ =>
    fieldsOutline fields ++ typenameOutline fragments ++ fragmentsOutline fragments

def fieldsOutline : List Selection → List Syntax.Selection
  | [] => []
  | ⟨head, shape⟩ :: rest => shape.outline head.outline :: fieldsOutline rest

def fragmentsOutline : List Fragment → List Syntax.Selection
  | [] => []
  | ⟨typeName, s⟩ :: rest => .fragment typeName.text s.outline :: fragmentsOutline rest

end

theorem ArgumentSet.isProper_outline (s : ArgumentSet) : ∀ a ∈ s.outline, a.2.IsProper := by
  intro a ha
  obtain ⟨e, _, rfl⟩ := List.mem_map.1 ha
  show e.2.literal.IsProper
  cases e.2 with
  | search t => cases t <;> rfl
  | _ => trivial

theorem isProper_plainField (name : String) : (plainField name).IsProper := by
  intro a ha
  cases ha

structure FieldsMatch (fields : List Selection) (os : List Syntax.Selection)
    (ns : List VariableName) : Prop where
  outline : fieldsOutline fields = os
  references : fieldReferences fields = ns
  proper : AllProper os

structure FragmentsMatch (fragments : List Fragment) (variants : List Element) : Prop where
  outline : fragmentsOutline fragments = variantsOutline variants
  references : fragmentReferences fragments = variantReferences variants
  proper : AllProper (variantsOutline variants)
  isEmpty : fragments.isEmpty = variants.isEmpty

structure SelectionSet.Matches (s : SelectionSet) (os : List Syntax.Selection)
    (ns : List VariableName) : Prop where
  outline : s.outline = os
  references : s.references = ns
  proper : AllProper os
  nonempty : os ≠ []

section Match

variable {fs gs : List Selection} {os os' : List Syntax.Selection} {ns ns' : List VariableName}

theorem FieldsMatch.nil : FieldsMatch [] [] [] := ⟨rfl, rfl, trivial⟩

theorem FieldsMatch.cons {head : FieldHead} {shape : Shape} {o : Syntax.Selection}
    {ms : List VariableName} (ho : shape.outline head.outline = o) (hproper : o.IsProper)
    (hms : head.arguments.references ++ shape.references = ms) (h : FieldsMatch fs os ns) :
    FieldsMatch (⟨head, shape⟩ :: fs) (o :: os) (ms ++ ns) where
  outline := by rw [← ho, ← h.outline]; rfl
  references := by rw [← hms, ← h.references]; rfl
  proper := ⟨hproper, h.proper⟩

theorem FieldsMatch.append (h : FieldsMatch fs os ns) (h' : FieldsMatch gs os' ns') :
    FieldsMatch (fs ++ gs) (os ++ os') (ns ++ ns') := by
  induction fs generalizing os ns with
  | nil =>
    obtain ⟨rfl, rfl, _⟩ := h
    exact h'
  | cons f fs ih =>
    obtain ⟨head, shape⟩ := f
    obtain ⟨rfl, rfl, hproper, hrest⟩ := h
    have hcons := (ih ⟨rfl, rfl, hrest⟩).cons rfl hproper rfl
    rw [← List.append_assoc] at hcons
    exact hcons

theorem FieldsMatch.eq_nil_iff (h : FieldsMatch fs os ns) : fs = [] ↔ os = [] := by
  obtain ⟨rfl, _, _⟩ := h
  cases fs with
  | nil => exact ⟨fun _ => rfl, fun _ => rfl⟩
  | cons f fs =>
    obtain ⟨head, shape⟩ := f
    exact ⟨nofun, nofun⟩

theorem SelectionSet.matches_of_close {owner : String} {fragments : List Fragment}
    {variants : List Element} {s : SelectionSet} (hf : FieldsMatch fs os ns)
    (hv : FragmentsMatch fragments variants) (h : close owner ⟨fs, fragments⟩ = .ok s) :
    s.Matches (os ++ typenameOutline variants ++ variantsOutline variants)
      (ns ++ variantReferences variants) := by
  unfold close at h
  split at h
  · cases h
  · rename_i hempty
    cases h
    have hmark : typenameOutline fragments = typenameOutline variants := by
      rw [typenameOutline, typenameOutline, hv.isEmpty]
    refine {
      outline := by rw [SelectionSet.outline, hf.outline, hv.outline, hmark]
      references := by rw [SelectionSet.references, hf.references, hv.references]
      proper := ?_
      nonempty := fun hnil => ?_ }
    · rw [Syntax.allProper_append, Syntax.allProper_append]
      refine ⟨⟨hf.proper, ?_⟩, hv.proper⟩
      unfold typenameOutline
      split
      · trivial
      · exact ⟨isProper_plainField _, trivial⟩
    · rw [List.append_eq_nil_iff, List.append_eq_nil_iff] at hnil
      obtain ⟨⟨hfields, hmarked⟩, _⟩ := hnil
      have hvariants : variants.isEmpty = true := by
        unfold typenameOutline at hmarked
        split at hmarked
        · assumption
        · cases hmarked
      apply hempty
      rw [SelectionSet.isEmpty, hv.isEmpty, hvariants, hf.eq_nil_iff.2 hfields]
      rfl

end Match

theorem fieldsMatch_scalars {r : Registry} {scalars : List ScalarField} {fs : List Selection}
    (h : scalars.mapM (ScalarField.select r) = .ok fs) :
    FieldsMatch fs (scalars.map ScalarField.outline) [] := by
  have hselect := mapM_eq_ok_iff.1 h
  clear h
  induction scalars generalizing fs with
  | nil =>
    rw [List.map_eq_nil_iff.1 hselect.symm]
    exact .nil
  | cons s scalars ih =>
    cases fs with
    | nil => cases hselect
    | cons f fs =>
      obtain ⟨hs, hrest⟩ := List.cons.inj hselect
      obtain ⟨leaf, _, hf⟩ := bind_eq_ok_iff.1 hs
      cases hf
      exact (ih hrest).cons (o := s.outline) rfl (isProper_plainField _) rfl

mutual

theorem Element.select_matches (r : Registry) : ∀ (e : Element) {s : SelectionSet},
    e.select r = .ok s → s.Matches e.outline e.references
  | ⟨name, _, _, scalars, children, node, variants⟩, s, h => by
    rw [Element.select] at h
    obtain ⟨leaves, hleaves, h⟩ := bind_eq_ok_iff.1 h
    obtain ⟨nested, hnested, h⟩ := bind_eq_ok_iff.1 h
    obtain ⟨wrapped, hwrapped, h⟩ := bind_eq_ok_iff.1 h
    obtain ⟨fragments, hfragments, h⟩ := bind_eq_ok_iff.1 h
    have hfields :=
      ((fieldsMatch_scalars hleaves).append (children_match r children hnested)).append
        (node_matches r node hwrapped)
    exact SelectionSet.matches_of_close hfields (variants_match r variants hfragments) h

theorem Node.select_matches (r : Registry) : ∀ (n : Node) {owner : String} {s : SelectionSet},
    n.select r owner = .ok s → s.Matches n.outline n.references
  | ⟨kind, scalars, children, variants⟩, owner, s, h => by
    rw [Node.select] at h
    obtain ⟨leaves, hleaves, h⟩ := bind_eq_ok_iff.1 h
    obtain ⟨nested, hnested, h⟩ := bind_eq_ok_iff.1 h
    obtain ⟨fragments, hfragments, h⟩ := bind_eq_ok_iff.1 h
    have hfields := (fieldsMatch_scalars hleaves).append (children_match r children hnested)
    exact SelectionSet.matches_of_close hfields (variants_match r variants hfragments) h

theorem children_match (r : Registry) : ∀ (es : List Element) {fs : List Selection},
    selectChildren r es = .ok fs → FieldsMatch fs (childrenOutline es) (childReferences es)
  | [], fs, h => by
    cases h
    exact .nil
  | e :: rest, fs, h => by
    rw [selectChildren] at h
    obtain ⟨s, hs, h⟩ := bind_eq_ok_iff.1 h
    obtain ⟨others, hothers, h⟩ := bind_eq_ok_iff.1 h
    cases h
    have hmatches := e.select_matches r hs
    refine (children_match r rest hothers).cons ?_ ?_ ?_
    · rw [Shape.outline, hmatches.outline]
      rfl
    · exact ⟨e.arguments.isProper_outline, hmatches.nonempty, hmatches.proper⟩
    · rw [Shape.references, hmatches.references]
      rfl

theorem node_matches (r : Registry) : ∀ (n : Option Node) {owner : String} {fs : List Selection},
    selectNode r owner n = .ok fs → FieldsMatch fs (nodeOutline n) (nodeReferences n)
  | none, owner, fs, h => by
    cases h
    exact .nil
  | some n, owner, fs, h => by
    rw [selectNode] at h
    obtain ⟨s, hs, h⟩ := bind_eq_ok_iff.1 h
    cases h
    have hmatches := n.select_matches r hs
    have hshape : (n.kind.shape s).outline (FieldHead.plain n.kind.name).outline =
        .nested (plainField n.kind.fieldName) n.outline := by
      rw [← NodeKind.fieldName_name, ← hmatches.outline]
      cases n.kind <;> rfl
    have hreferences : (n.kind.shape s).references = n.references := by
      rw [← hmatches.references]
      cases n.kind <;> rfl
    have hcons := FieldsMatch.nil.cons hshape
      ⟨isProper_plainField _, hmatches.nonempty, hmatches.proper⟩ rfl
    rw [hreferences, List.append_nil] at hcons
    exact hcons

theorem variants_match (r : Registry) : ∀ (es : List Element) {fs : List Fragment},
    selectVariants r es = .ok fs → FragmentsMatch fs es
  | [], fs, h => by
    cases h
    exact ⟨rfl, rfl, trivial, rfl⟩
  | e :: rest, fs, h => by
    rw [selectVariants] at h
    obtain ⟨_, _, h⟩ := bind_eq_ok_iff.1 h
    obtain ⟨s, hs, h⟩ := bind_eq_ok_iff.1 h
    obtain ⟨others, hothers, h⟩ := bind_eq_ok_iff.1 h
    cases h
    have hmatches := e.select_matches r hs
    have hrest := variants_match r rest hothers
    exact {
      outline := by rw [fragmentsOutline, hmatches.outline, hrest.outline]; rfl
      references := by rw [fragmentReferences, hmatches.references, hrest.references]; rfl
      proper := ⟨⟨hmatches.nonempty, hmatches.proper⟩, hrest.proper⟩
      isEmpty := rfl }

end

theorem compile_ok_iff {r : Registry} {root : Element} {d : Document} : root.compile r = .ok d ↔
    root.arguments.entries = [] ∧ ∃ s, root.select r = .ok s ∧ d = ⟨root.name, s⟩ := by
  rw [Element.compile, ArgumentSet.isEmpty]
  cases root.arguments.entries with
  | nil =>
    constructor
    · intro h
      obtain ⟨s, hs, h⟩ := bind_eq_ok_iff.1 h
      cases h
      exact ⟨rfl, s, hs, rfl⟩
    · rintro ⟨_, s, hs, rfl⟩
      exact bind_eq_ok_iff.2 ⟨s, hs, rfl⟩
  | cons e es => exact ⟨nofun, nofun⟩

end Docket.Query
