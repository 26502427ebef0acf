import Docket.Proofs.Bytes
import Docket.Proofs.Syntax.Document
import Docket.Proofs.Validity
/-!
The variables of a document are those that its tree binds arguments to. A rendered document declares
each of them, once and in the order of the names, and refers to no others.
-/

namespace Docket.Query

open Syntax (Operation)

namespace Syntax

def Literal.reference? : Literal → Option String
  | .variable name => some name
  | _ => none

def Head.variables (h : Head) : List String := h.arguments.filterMap fun a => a.2.reference?

mutual

def Selection.variables : Selection → List String
  | .leaf h => h.variables
  | .nested h ss => h.variables ++ selectionVariables ss
  | .fragment _ ss => selectionVariables ss

def selectionVariables : List Selection → List String
  | [] => []
  | s :: ss => s.variables ++ selectionVariables ss

end

theorem selectionVariables_append (ss ss' : List Selection) :
    selectionVariables (ss ++ ss') = selectionVariables ss ++ selectionVariables ss' := by
  induction ss with
  | nil => rfl
  | cons s ss ih => simp [selectionVariables, ih]

end Syntax

open Syntax (selectionVariables selectionVariables_append)

section Outline

theorem ArgumentSet.variables_outline (s : ArgumentSet) :
    (s.outline.filterMap fun a => a.2.reference?) = s.references.map VariableName.text := by
  have hvalue : ∀ v : ArgumentValue, v.literal.reference? = v.reference?.map VariableName.text := by
    intro v
    cases v <;> rfl
  simp [outline, references, List.filterMap_map, List.map_filterMap, hvalue]

theorem variables_scalars (scalars : List ScalarField) :
    selectionVariables (scalars.map ScalarField.outline) = [] := by
  induction scalars with
  | nil => rfl
  | cons s scalars ih =>
    rw [List.map_cons, selectionVariables, ih]
    rfl

theorem variables_typename {α : Type} (fragments : List α) :
    selectionVariables (typenameOutline fragments) = [] := by
  cases fragments <;> rfl

mutual

theorem Element.variables_outline : ∀ e : Element,
    selectionVariables e.outline = e.references.map VariableName.text
  | ⟨_, _, _, scalars, children, node, variants⟩ => by
    simp [Element.outline, Element.references, selectionVariables_append, variables_scalars,
      variables_typename, variables_childrenOutline children, variables_nodeOutline node,
      variables_variantsOutline variants]

theorem Node.variables_outline : ∀ n : Node,
    selectionVariables n.outline = n.references.map VariableName.text
  | ⟨_, scalars, children, variants⟩ => by
    simp [Node.outline, Node.references, selectionVariables_append, variables_scalars,
      variables_typename, variables_childrenOutline children, variables_variantsOutline variants]

theorem variables_childrenOutline : ∀ es : List Element,
    selectionVariables (childrenOutline es) = (childReferences es).map VariableName.text
  | [] => rfl
  | e :: rest => by
    simp [childrenOutline, childReferences, selectionVariables, Syntax.Selection.variables,
      Syntax.Head.variables, e.arguments.variables_outline, e.variables_outline,
      variables_childrenOutline rest]

theorem variables_nodeOutline : ∀ node : Option Node,
    selectionVariables (nodeOutline node) = (nodeReferences node).map VariableName.text
  | none => rfl
  | some n => by
    simp [nodeOutline, nodeReferences, selectionVariables, Syntax.Selection.variables,
      Syntax.Head.variables, plainField, n.variables_outline]

theorem variables_variantsOutline : ∀ es : List Element,
    selectionVariables (variantsOutline es) = (variantReferences es).map VariableName.text
  | [] => rfl
  | e :: rest => by
    simp [variantsOutline, variantReferences, selectionVariables, Syntax.Selection.variables,
      e.variables_outline, variables_variantsOutline rest]

end

end Outline

section Order

def VariableName.bytes (x : VariableName) : List UInt8 := x.text.toUTF8.data.toList

theorem VariableName.isAscii_text (x : VariableName) : Text.IsAscii x.text.toList := by
  intro c hc
  have hletter := Text.isAlpha_iff.1 ((isWord_iff.1 x.isWord_text).2 c hc)
  omega

theorem VariableName.bytes_lt_iff (x y : VariableName) : x.bytes < y.bytes ↔ x.text < y.text := by
  rw [String.lt_iff_toList_lt]
  exact x.isAscii_text.bytes_lt_iff y.isAscii_text

end Order

def Element.Binds (e : Element) (x : VariableName) : Prop :=
  ∃ key, (key, .variable x) ∈ e.arguments.entries

def Element.Below (root e : Element) : Prop :=
  ∃ m, root.members.Within m ∧ (e ∈ m.children ∨ e ∈ m.variants)

def Members.references (m : Members) : List VariableName :=
  childReferences m.children ++ nodeReferences m.node ++ variantReferences m.variants

section References

variable {x : VariableName} {m part : Members}

theorem Element.mem_references_arguments {e : Element} :
    x ∈ e.arguments.references ↔ e.Binds x := by
  rw [ArgumentSet.references, List.mem_filterMap, Element.Binds]
  constructor
  · intro h
    obtain ⟨⟨key, value⟩, hentry, hvalue⟩ := h
    cases value with
    | «variable» y =>
      cases hvalue
      exact ⟨key, hentry⟩
    | _ => cases hvalue
  · intro h
    obtain ⟨key, hentry⟩ := h
    exact ⟨_, hentry, rfl⟩

theorem Element.references_eq (e : Element) : e.references = e.members.references := by
  cases e
  rfl

theorem Node.references_eq (n : Node) (owner : String) :
    n.references = (n.members owner).references := by
  cases n with
  | mk kind scalars children variants =>
    simp [Node.references, Members.references, Node.members, nodeReferences]

theorem mem_childReferences {es : List Element} :
    x ∈ childReferences es ↔ ∃ e ∈ es, e.Binds x ∨ x ∈ e.references := by
  induction es with
  | nil => simp [childReferences]
  | cons e es ih => simp [childReferences, ih, Element.mem_references_arguments, or_assoc]

theorem mem_variantReferences {es : List Element} :
    x ∈ variantReferences es ↔ ∃ e ∈ es, x ∈ e.references := by
  induction es with
  | nil => simp [variantReferences]
  | cons e es ih => simp [variantReferences, ih]

theorem mem_nodeReferences {node : Option Node} :
    x ∈ nodeReferences node ↔ ∃ n, node = some n ∧ x ∈ n.references := by
  cases node <;> simp [nodeReferences]

theorem Members.mem_references_iff : x ∈ m.references ↔
    (∃ e ∈ m.children, e.Binds x) ∨ ∃ part, m.Part part ∧ x ∈ part.references := by
  rw [references, List.mem_append, List.mem_append, mem_childReferences, mem_nodeReferences,
    mem_variantReferences]
  constructor
  · intro h
    rcases h with (⟨e, he, hx⟩ | ⟨n, hn, hx⟩) | ⟨e, he, hx⟩
    · rcases hx with hx | hx
      · exact .inl ⟨e, he, hx⟩
      · exact .inr ⟨_, .child he, by rwa [← e.references_eq]⟩
    · exact .inr ⟨_, .node hn, by rwa [← n.references_eq]⟩
    · exact .inr ⟨_, .variant he, by rwa [← e.references_eq]⟩
  · intro h
    rcases h with ⟨e, he, hx⟩ | ⟨part, hpart, hx⟩
    · exact .inl (.inl ⟨e, he, .inl hx⟩)
    · cases hpart with
      | @child e he => exact .inl (.inl ⟨e, he, .inr (by rwa [e.references_eq])⟩)
      | @node n hn => exact .inl (.inr ⟨n, hn, by rwa [n.references_eq m.owner]⟩)
      | @variant e he => exact .inr ⟨e, he, by rwa [e.references_eq]⟩

theorem Members.mem_references_iff_within : x ∈ m.references ↔
    ∃ part, m.Within part ∧ ∃ e ∈ part.children, e.Binds x := by
  constructor
  · intro h
    induction m using Members.induct with
    | step m ih =>
      rcases Members.mem_references_iff.1 h with hbinds | ⟨part, hpart, hx⟩
      · exact ⟨m, .refl, hbinds⟩
      · obtain ⟨last, hwithin, hbinds⟩ := ih part hpart hx
        exact ⟨last, hwithin.head hpart, hbinds⟩
  · intro h
    obtain ⟨part, hwithin, hbinds⟩ := h
    induction hwithin using Relation.ReflTransGen.head_induction_on with
    | refl => exact Members.mem_references_iff.2 (.inl hbinds)
    | head hpart _ ih => exact Members.mem_references_iff.2 (.inr ⟨_, hpart, ih⟩)

/-- The variants of a tree that compiles bind nothing, so that its children's variables are all. -/
theorem mem_references_iff_below {root : Element} {r : Registry} {d : Document}
    (hc : root.compile r = .ok d) : x ∈ root.references ↔ ∃ e, root.Below e ∧ e.Binds x := by
  have hvalid := (exists_compile_iff.1 ⟨d, hc⟩).2
  rw [root.references_eq, Members.mem_references_iff_within]
  constructor
  · intro h
    obtain ⟨m, hwithin, e, he, hbinds⟩ := h
    exact ⟨e, ⟨m, hwithin, .inl he⟩, hbinds⟩
  · intro h
    obtain ⟨e, ⟨m, hwithin, he⟩, hbinds⟩ := h
    rcases he with he | he
    · exact ⟨m, hwithin, e, he, hbinds⟩
    · obtain ⟨key, hentry⟩ := hbinds
      rw [(hvalid m hwithin).variants e he] at hentry
      cases hentry

end References

section Render

variable {d : Document} {b : Bindings}

theorem Bindings.keys_among {names : List VariableName}
    (h : ∀ x ∈ names, (b.get? x).isSome = true) :
    (b.among names).map Prod.fst = names := by
  induction names with
  | nil => rfl
  | cons x names ih =>
    obtain ⟨hx, hnames⟩ := List.forall_mem_cons.1 h
    obtain ⟨v, hv⟩ := Option.isSome_iff_exists.1 hx
    have hamong : b.among (x :: names) = (x, v) :: b.among names := by
      simp [Bindings.among, hv]
    rw [hamong, List.map_cons, ih hnames]

theorem Bindings.get?_of_mem_among {names : List VariableName} {p : VariableName × VariableValue}
    (h : p ∈ b.among names) : b.get? p.1 = some p.2 := by
  obtain ⟨x, _, hp⟩ := List.mem_filterMap.1 h
  obtain ⟨v, hv, rfl⟩ := Option.map_eq_some_iff.1 hp
  exact hv

theorem Document.render_eq_ok_iff {text : String} : d.render b = .ok text ↔
    (∀ x ∈ d.variableNames, (b.get? x).isSome = true) ∧
      text =
        d.header ((b.among d.variableNames).map declaration) ++ " " ++ d.selections.render := by
  rw [Document.render, bind_eq_ok_iff]
  simp only [mapM_declare_ok_iff]
  constructor
  · intro h
    obtain ⟨ds, ⟨hbound, rfl⟩, h⟩ := h
    cases h
    exact ⟨hbound, rfl⟩
  · intro h
    obtain ⟨hbound, rfl⟩ := h
    exact ⟨_, ⟨hbound, rfl⟩, rfl⟩

theorem Document.pairwise_variableNames (d : Document) :
    d.variableNames.Pairwise fun x y => x.bytes < y.bytes := by
  simp only [VariableName.bytes_lt_iff]
  exact pairwise_sortedNames d.selections.references

structure Document.FirstUnbound (d : Document) (b : Bindings) (x : VariableName) : Prop where
  mem : x ∈ d.variableNames
  unbound : b.get? x = none
  least : ∀ y ∈ d.variableNames, b.get? y = none → y = x ∨ x.bytes < y.bytes

theorem Document.declare_eq_error_iff {x : VariableName} {err : QueryError} :
    Document.declare b x = .error err ↔ b.get? x = none ∧ err = .unboundVariable x.text := by
  rw [Document.declare]
  cases b.get? x with
  | none => simp [eq_comm]
  | some v => simp

theorem Document.render_eq_error_iff {err : QueryError} : d.render b = .error err ↔
    ∃ x, d.FirstUnbound b x ∧ err = .unboundVariable x.text := by
  have hrender : d.render b = .error err ↔ d.variableNames.mapM (declare b) = .error err := by
    rw [Document.render]
    cases d.variableNames.mapM (declare b) <;> simp [bind, Except.bind]
  have hpairwise := d.pairwise_variableNames
  rw [hrender, mapM_eq_error_iff]
  constructor
  · intro h
    obtain ⟨before, x, after, hnames, hbefore, hx⟩ := h
    obtain ⟨hunbound, rfl⟩ := declare_eq_error_iff.1 hx
    rw [hnames, List.pairwise_append, List.pairwise_cons] at hpairwise
    -- names before the one that is reported have values, and those after it are greater
    refine ⟨x, ⟨by simp [hnames], hunbound, fun y hy hnone => ?_⟩, rfl⟩
    rw [hnames, List.mem_append, List.mem_cons] at hy
    rcases hy with hy | hy | hy
    · obtain ⟨s, hs⟩ := hbefore y hy
      rw [declare_eq_error_iff.2 ⟨hnone, rfl⟩] at hs
      cases hs
    · exact .inl hy
    · exact .inr (hpairwise.2.1.1 y hy)
  · intro h
    obtain ⟨x, hfirst, rfl⟩ := h
    obtain ⟨before, after, hnames⟩ := List.append_of_mem hfirst.mem
    rw [hnames, List.pairwise_append] at hpairwise
    refine ⟨before, x, after, hnames, fun y hy => ?_, declare_eq_error_iff.2 ⟨hfirst.unbound, rfl⟩⟩
    have hlt : y.bytes < x.bytes := hpairwise.2.2 y hy x List.mem_cons_self
    rw [Document.declare]
    cases hvalue : b.get? y with
    | some v => exact ⟨_, rfl⟩
    | none =>
      rcases hfirst.least y (by simp [hnames, hy]) hvalue with rfl | hgt
      · exact absurd hlt (List.lt_irrefl _)
      · exact absurd hlt (List.lt_asymm hgt)

theorem Document.render_congr {b' : Bindings} (h : ∀ x ∈ d.variableNames, b'.get? x = b.get? x) :
    d.render b' = d.render b := by
  have hdeclare : d.variableNames.mapM (declare b') = d.variableNames.mapM (declare b) := by
    refine mapM_congr fun x hx => ?_
    rw [declare, declare, h x hx]
  rw [Document.render, Document.render, hdeclare]

/-- The text of a document under some values: the header declares each variable once and in order,
with the type of its value, and the names after a dollar sign in the rest are those of the header.
-/
structure Document.Rendering (d : Document) (b : Bindings) (text : String)
    (declared : List (VariableName × VariableValue)) : Prop where
  names : declared.map Prod.fst = d.variableNames
  values : ∀ p ∈ declared, b.get? p.1 = some p.2
  header : text = "query " ++ d.operation.text ++
    (if declared = [] then "" else "(" ++ String.intercalate ", "
      (declared.map fun p => "$" ++ p.1.text ++ ": " ++ p.2.typeName) ++ ")") ++
    " " ++ d.selections.render
  reads : ∃ operation, Operation.read? text = some operation ∧
    operation.declared = declared.map (fun p => (p.1.text, p.2.declaredType)) ∧
    ∀ name, name ∈ selectionVariables operation.selections ↔ name ∈ operation.declared.map Prod.fst

theorem Document.variableNames_of_compile {root : Element} {r : Registry}
    (hc : root.compile r = .ok d) : d.variableNames = sortedNames root.references := by
  obtain ⟨_, s, hs, rfl⟩ := compile_ok_iff.1 hc
  rw [Document.variableNames, (root.select_matches r hs).references]

theorem Document.rendering_of_render {root : Element} {r : Registry} (hc : root.compile r = .ok d)
    {text : String} (h : d.render b = .ok text) : d.Rendering b text (b.among d.variableNames) := by
  obtain ⟨hbound, htext⟩ := render_eq_ok_iff.1 h
  have hnames := variableNames_of_compile hc
  refine {
    names := Bindings.keys_among hbound
    values := fun p hp => Bindings.get?_of_mem_among hp
    header := ?_
    reads := ⟨root.operation b, read?_of_render hc h, by rw [Element.operation, hnames], ?_⟩ }
  · rw [htext, Document.header]
    simp only [List.isEmpty_map, List.isEmpty_iff]
    rfl
  · intro name
    have hdeclared : (root.operation b).declared.map Prod.fst =
        d.variableNames.map VariableName.text := by
      rw [← Bindings.keys_among hbound, Element.operation, hnames]
      simp
    rw [hdeclared, hnames, Element.operation, root.variables_outline]
    simp [mem_sortedNames]

end Render

/-- A document declares exactly the variables it uses. They are those that some element below the
root binds an argument to, whatever texts and cursors hold, and they and their values alone decide
whether and how the document is rendered. -/
theorem Element.compile_declares {root : Element} {r : Registry} {d : Document}
    (hc : root.compile r = .ok d) :
    (d.variableNames.Pairwise fun x y => x.bytes < y.bytes) ∧
      (∀ x, x ∈ d.variableNames ↔ ∃ e, root.Below e ∧ e.Binds x) ∧
      (∀ f : String → String, ∃ d', (root.mapTexts f).compile r = .ok d' ∧
        d'.variableNames = d.variableNames) ∧
      ∀ b : Bindings,
        ((∃ text, d.render b = .ok text) ↔ ∀ x ∈ d.variableNames, (b.get? x).isSome = true) ∧
        (∀ text, d.render b = .ok text → ∃ declared, d.Rendering b text declared) ∧
        (∀ err, d.render b = .error err ↔ ∃ x, d.FirstUnbound b x ∧ err = .unboundVariable x.text) ∧
        ∀ b' : Bindings, (∀ x ∈ d.variableNames, b'.get? x = b.get? x) →
          d.render b' = d.render b := by
  have hnames := Document.variableNames_of_compile hc
  refine ⟨d.pairwise_variableNames, fun x => ?_, fun f => ?_, fun b => ⟨?_, ?_, ?_, ?_⟩⟩
  · rw [hnames, mem_sortedNames, mem_references_iff_below hc]
  · obtain ⟨d', hd'⟩ := exists_compile_mapTexts f hc
    refine ⟨d', hd', ?_⟩
    rw [Document.variableNames_of_compile hd', hnames, root.references_mapTexts]
  · simp only [Document.render_eq_ok_iff, exists_and_left, exists_eq, and_true]
  · exact fun text h => ⟨_, Document.rendering_of_render hc h⟩
  · exact fun err => Document.render_eq_error_iff
  · exact fun b' h => Document.render_congr h

set_option maxRecDepth 4000 in
theorem compile_declares_sample : ∃ d, sampleTree.compile .standard = .ok d ∧
    d.variableNames = [.ofWord "cursor"] ∧
    (∃ e, sampleTree.Below e ∧ e.Binds (.ofWord "cursor")) ∧
    (∃ declared, d.Rendering sampleBindings sampleText declared) ∧
    d.FirstUnbound .empty (.ofWord "cursor") := by
  have hcompile : ∃ d, sampleTree.compile .standard = .ok d ∧ d.variableNames = [.ofWord "cursor"] ∧
      d.render sampleBindings = .ok sampleText ∧
      d.render .empty = .error (.unboundVariable "cursor") :=
    ⟨_, by rfl, by rfl, by rfl, by rfl⟩
  obtain ⟨d, hc, hnames, htext, herror⟩ := hcompile
  obtain ⟨-, hmem, -, hrender⟩ := Element.compile_declares hc
  obtain ⟨-, hrendering, -, -⟩ := hrender sampleBindings
  obtain ⟨-, -, hunbound, -⟩ := hrender .empty
  obtain ⟨x, hfirst, -⟩ := (hunbound _).1 herror
  have hx : x = .ofWord "cursor" := by
    have hmem := hfirst.mem
    rw [hnames] at hmem
    exact List.mem_singleton.1 hmem
  refine ⟨d, hc, hnames, (hmem _).1 (by simp [hnames]), hrendering _ htext, hx ▸ hfirst⟩

end Docket.Query
