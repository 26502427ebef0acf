import Docket.Proofs.Bindings
import Docket.Proofs.Syntax.Rendering
import Docket.Proofs.Syntax.Texts
/-!
A rendered document reads back as what its element tree asks for, with the variables declared that
the tree refers to. So trees that ask for different things have different texts, and the texts and
cursors among the arguments are string literals of the operation, whatever characters they hold.
-/

namespace Docket.Query

open Syntax

def VariableValue.declaredType : VariableValue → VariableType
  | .text _ => ⟨"String", true⟩
  | .optionalText _ => ⟨"String", false⟩
  | .int _ => ⟨"Int", true⟩
  | .flag _ => ⟨"Boolean", true⟩

theorem VariableValue.loose_typeName (v : VariableValue) :
    Loose v.typeName v.declaredType.tokens := by
  have hname : ∀ s, isName s.toList = true → Firm (s ++ "!") [.name s, .bang] := by
    intro s hs
    have hbang : Firm "!" [.bang] := by rfl
    exact (loose_name hs).append hbang ⟨'!', [], rfl, rfl⟩
  cases v with
  | text s => exact (hname "String" rfl).loose
  | optionalText s =>
    have hstring : Loose "String" [.name "String"] := loose_name rfl
    exact hstring
  | int n => exact (hname "Int" rfl).loose
  | flag b => exact (hname "Boolean" rfl).loose

section Names

variable {x : VariableName}

theorem mem_sortedNames {names : List VariableName} : x ∈ sortedNames names ↔ x ∈ names := by
  have hfold : ∀ (names : List VariableName) (es : List (VariableName × Unit)),
      x ∈ Entries.keys (names.foldl (fun es n => Entries.place VariableName.before n () es) es) ↔
        x ∈ names ∨ x ∈ Entries.keys es := by
    intro names
    induction names with
    | nil => intro es; simp
    | cons n names ih =>
      intro es
      rw [List.foldl_cons, ih, mem_keys_place, List.mem_cons]
      tauto
  rw [sortedNames, hfold]
  simp [Entries.keys]

theorem pairwise_sortedNames (names : List VariableName) :
    (sortedNames names).Pairwise fun x y => x.text < y.text := by
  have hfold : ∀ (names : List VariableName) (es : List (VariableName × Unit)),
      ((Entries.keys es).Pairwise fun x y => x.text < y.text) →
        (Entries.keys
          (names.foldl (fun es n => Entries.place VariableName.before n () es) es)).Pairwise
          fun x y => x.text < y.text := by
    intro names
    induction names with
    | nil => exact fun _ h => h
    | cons n names ih => exact fun es h => ih _ (pairwise_keys_place h)
  exact hfold names [] .nil

end Names

def Bindings.among (b : Bindings) (names : List VariableName) :
    List (VariableName × VariableValue) :=
  names.filterMap fun x => (b.get? x).map fun v => (x, v)

/-- The operation that a tree stands for: its name, the variables it refers to, each once and in
order, with the types of their values, and what it asks for. -/
def Element.operation (root : Element) (b : Bindings) : Operation where
  name := root.name.text
  declared := (b.among (sortedNames root.references)).map fun p => (p.1.text, p.2.declaredType)
  selections := root.outline

def declaration (p : VariableName × VariableValue) : String :=
  "$" ++ p.1.text ++ ": " ++ p.2.typeName

theorem loose_declaration (p : VariableName × VariableValue) :
    Loose (declaration p) (variableTokens (p.1.text, p.2.declaredType)) := by
  have hdollar : Firm "$" [.dollar] := by rfl
  have hname := hdollar.append_loose (loose_word p.1.isWord_text)
  exact (hname.append firm_colon breaks_colon).append_loose p.2.loose_typeName

theorem mapM_declare_ok_iff {b : Bindings} {names : List VariableName} {ds : List String} :
    names.mapM (Document.declare b) = .ok ds ↔
      (∀ x ∈ names, (b.get? x).isSome = true) ∧ ds = (b.among names).map declaration := by
  rw [mapM_eq_ok_iff]
  induction names generalizing ds with
  | nil => cases ds <;> simp [Bindings.among]
  | cons x names ih =>
    rw [List.map_cons, List.forall_mem_cons, Document.declare]
    cases hx : b.get? x with
    | none => cases ds <;> simp
    | some v =>
      have hamong : b.among (x :: names) = (x, v) :: b.among names := by
        simp [Bindings.among, hx]
      cases ds with
      | nil => simp [hamong]
      | cons s ds =>
        rw [hamong, List.map_cons, List.map_cons, List.cons.injEq, List.cons.injEq, ih]
        simp only [Except.ok.injEq, Option.isSome_some, true_and, declaration]
        tauto

def Document.operationOf (d : Document) (b : Bindings) : Operation where
  name := d.operation.text
  declared := (b.among d.variableNames).map fun p => (p.1.text, p.2.declaredType)
  selections := d.selections.outline

section Render

variable {root : Element} {r : Registry} {d : Document} {b : Bindings} {text : String}

theorem tokens_of_render (h : d.render b = .ok text) :
    Token.read? text.toList = some (d.operationOf b).tokens := by
  obtain ⟨ds, hds, h⟩ := bind_eq_ok_iff.1 h
  cases h
  obtain ⟨_, rfl⟩ := mapM_declare_ok_iff.1 hds
  have hquery : Firm "query " [.name "query"] := by rfl
  have hheader : Loose (d.header ((b.among d.variableNames).map declaration))
      ([.name "query"] ++ [.name d.operation.text] ++ parenTokens
        (fun p => variableTokens (p.1.text, p.2.declaredType)) (b.among d.variableNames)) := by
    rw [Document.header, List.isEmpty_map]
    exact loose_parens (hquery.append_loose (loose_word d.operation.isWord_text))
      fun p _ => loose_declaration p
  have hfirm := (hheader.append firm_blank breaks_blank).append d.selections.firm_render
  rw [hfirm.read?, Operation.tokens, Document.operationOf]
  simp [parenTokens, List.flatMap_map]

theorem read?_of_render (hc : root.compile r = .ok d) (h : d.render b = .ok text) :
    Operation.read? text = some (root.operation b) := by
  have htokens := tokens_of_render h
  obtain ⟨_, s, hs, rfl⟩ := compile_ok_iff.1 hc
  obtain ⟨houtline, hreferences, hproper, hnonempty⟩ := root.select_matches r hs
  have hoperation : Document.operationOf ⟨root.name, s⟩ b = root.operation b := by
    rw [Document.operationOf, Element.operation, Document.variableNames, hreferences, ← houtline]
  rw [Operation.read?, htokens, Option.bind_some, readOperation_eq_some_iff, hoperation]
  exact ⟨rfl, hnonempty, hproper⟩

theorem exists_render (hc : root.compile r = .ok d)
    (hb : ∀ x ∈ root.references, (b.get? x).isSome = true) : ∃ text, d.render b = .ok text := by
  obtain ⟨_, s, hs, rfl⟩ := compile_ok_iff.1 hc
  have hreferences := (root.select_matches r hs).references
  have hdeclare : (Document.variableNames ⟨root.name, s⟩).mapM (Document.declare b) =
      .ok ((b.among (Document.variableNames ⟨root.name, s⟩)).map declaration) := by
    refine mapM_declare_ok_iff.2 ⟨fun x hx => ?_, rfl⟩
    rw [Document.variableNames, hreferences, mem_sortedNames] at hx
    exact hb x hx
  exact ⟨_, by rw [Document.render, hdeclare]; rfl⟩

theorem operation_mapTexts (f : String → String) (root : Element) (b : Bindings) :
    (root.mapTexts f).operation b = (root.operation b).mapTexts f := by
  rw [Element.operation, Element.operation, root.references_mapTexts, root.outline_mapTexts,
    root.name_mapTexts]
  rfl

end Render

structure Element.Declares (root : Element) (b : Bindings)
    (declared : List (String × VariableType)) : Prop where
  ordered : declared.Pairwise fun v w => v.1 < w.1
  mem_iff : ∀ x t, (x, t) ∈ declared ↔
    ∃ n ∈ root.references, ∃ v, b.get? n = some v ∧ n.text = x ∧ v.declaredType = t

theorem Element.declares_operation (root : Element) (b : Bindings) :
    root.Declares b (root.operation b).declared where
  ordered := by
    refine List.pairwise_map.2 (List.pairwise_filterMap.2 ?_)
    refine (pairwise_sortedNames root.references).imp fun {x y} hlt p hp q hq => ?_
    obtain ⟨v, _, rfl⟩ := Option.map_eq_some_iff.1 hp
    obtain ⟨w, _, rfl⟩ := Option.map_eq_some_iff.1 hq
    exact hlt
  mem_iff x t := by
    simp only [operation, Bindings.among, List.mem_map, List.mem_filterMap, Option.map_eq_some_iff,
      Prod.mk.injEq, mem_sortedNames]
    constructor
    · rintro ⟨_, ⟨n, hn, v, hv, rfl⟩, hx, ht⟩
      exact ⟨n, hn, v, hv, hx, ht⟩
    · rintro ⟨n, hn, v, hv, hx, ht⟩
      exact ⟨_, ⟨n, hn, v, hv, rfl⟩, hx, ht⟩

/-- The text of a compiled tree reads as the tree's operation and as nothing else: no other
operation has that text, and other texts and cursors among the arguments change literals only. -/
theorem Element.exists_render_reads {root : Element} {r : Registry} {d : Document} {b : Bindings}
    (hc : root.compile r = .ok d) (hb : ∀ x ∈ root.references, (b.get? x).isSome = true) :
    ∃ text, d.render b = .ok text ∧ Operation.read? text = some (root.operation b) ∧
      root.Declares b (root.operation b).declared ∧
      (∀ (root' : Element) (r' : Registry) (d' : Document) (b' : Bindings),
        root'.compile r' = .ok d' → d'.render b' = .ok text →
          root'.operation b' = root.operation b) ∧
      ∀ f : String → String, ∃ d' text', (root.mapTexts f).compile r = .ok d' ∧
        d'.render b = .ok text' ∧ Operation.read? text' = some ((root.operation b).mapTexts f) := by
  obtain ⟨text, htext⟩ := exists_render hc hb
  have hread := read?_of_render hc htext
  refine ⟨text, htext, hread, root.declares_operation b, fun root' r' d' b' hc' htext' => ?_,
    fun f => ?_⟩
  · have hread' := read?_of_render hc' htext'
    rw [hread] at hread'
    exact (Option.some.inj hread').symm
  · obtain ⟨d', hd'⟩ := exists_compile_mapTexts f hc
    obtain ⟨text', htext'⟩ := exists_render (b := b) hd' (by rwa [root.references_mapTexts])
    refine ⟨d', text', hd', htext', ?_⟩
    rw [read?_of_render hd' htext', operation_mapTexts]

def sampleTree : Element :=
  (Element.ofName (.ofWord "work")).addChild {
    name := .ofWord "search"
    aliasName := some (.ofWord "found")
    arguments := ⟨[
      (.query, .text "\x7d \" \x7b"), (.type, .search .discussion), (.first, .count 10),
      (.after, .variable (.ofWord "cursor"))]⟩
    scalars := []
    children := []
    node := some ⟨.list, [⟨.ofWord "topic", .ofWord "html"⟩], [],
      [(Element.ofName (.ofWord "Discussion")).addScalar ⟨.ofWord "votes", .ofWord "int"⟩]⟩
    variants := [] }

def sampleBindings : Bindings := ⟨[(.ofWord "cursor", .optionalText none)]⟩

def sampleText : String :=
  "query Work($cursor: String) \x7b found: search(query: \"\x7d \\\" \x7b\", type: DISCUSSION, " ++
    "first: 10, after: $cursor) \x7b nodes \x7b topic __typename " ++
    "... on Discussion \x7b votes \x7d \x7d \x7d \x7d"

def sampleOperation : Operation where
  name := "Work"
  declared := [("cursor", ⟨"String", false⟩)]
  selections := [
    .nested
      ⟨some "found", "search", [
        ("query", .string "\x7d \" \x7b"), ("type", .enum "DISCUSSION"), ("first", .int 10),
        ("after", .variable "cursor")]⟩
      [.nested (plainField "nodes") [
        .leaf (plainField "topic"), .leaf (plainField "__typename"),
        .fragment "Discussion" [.leaf (plainField "votes")]]]]

set_option maxRecDepth 4000 in
theorem render_reads_sample : ∃ d, sampleTree.compile .standard = .ok d ∧
    d.render sampleBindings = .ok sampleText ∧
      Operation.read? sampleText = some sampleOperation := by
  have hrender : ∃ d, sampleTree.compile .standard = .ok d ∧
      d.render sampleBindings = .ok sampleText := ⟨_, by rfl, by rfl⟩
  obtain ⟨d, hd, htext⟩ := hrender
  have hb : ∀ x ∈ sampleTree.references, (sampleBindings.get? x).isSome = true := by
    have hreferences : sampleTree.references = [.ofWord "cursor"] := by rfl
    rw [hreferences]
    decide
  obtain ⟨text, htext', hread, _⟩ := Element.exists_render_reads hd hb
  rw [htext] at htext'
  cases htext'
  exact ⟨d, hd, htext, hread⟩

end Docket.Query
