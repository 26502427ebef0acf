import Docket.Proofs.Syntax.Variables
import Docket.Service.Message
/-!
The header of a document's text and the values that go with the text. Each variable that is declared
is sent with a value of its type, and of the values themselves nothing is in the text: it tells
their kinds and no more.
-/

namespace Docket

theorem Json.ofInt_eq {n : Int} (h : InWord n) : ofInt n = .number (.integer n h) := by
  rw [ofInt, Number.ofInt?, dif_pos h]

namespace Query

namespace Syntax

/-- The JSON values of a type: those of its name, and null where the type is not required. -/
inductive VariableType.Admits : VariableType → Json → Prop
  | string (s : String) (required : Bool) : Admits ⟨"String", required⟩ (.string s)
  | int (n : Int) (h : Json.InWord n) (required : Bool) :
      Admits ⟨"Int", required⟩ (.number (.integer n h))
  | boolean (b : Bool) (required : Bool) : Admits ⟨"Boolean", required⟩ (.bool b)
  | null (name : String) : Admits ⟨name, false⟩ .null

def Declares (text : String) (declared : List (String × VariableType)) : Prop :=
  ∃ operation : Operation, Token.read? text.toList = some operation.tokens ∧
    operation.declared = declared

theorem declared_eq_of_tokens_eq {o o' : Operation} (h : o.tokens = o'.tokens) :
    o.declared = o'.declared := by
  have hread : ∀ o : Operation, ∃ rest,
      readParens readVariables (o.tokens.drop 2) = some (o.declared, rest) := fun o =>
    ⟨_, readParens_tokens (readVariables_tokens _ _) nofun⟩
  obtain ⟨rest, hrest⟩ := hread o
  obtain ⟨rest', hrest'⟩ := hread o'
  rw [h, hrest'] at hrest
  exact (congrArg Prod.fst (Option.some.inj hrest)).symm

theorem Declares.unique {text : String} {declared declared' : List (String × VariableType)}
    (h : Declares text declared) (h' : Declares text declared') : declared' = declared := by
  obtain ⟨o, hread, rfl⟩ := h
  obtain ⟨o', hread', rfl⟩ := h'
  rw [hread] at hread'
  exact (declared_eq_of_tokens_eq (Option.some.inj hread')).symm

end Syntax

open Syntax (Declares)

namespace VariableValue

def Fits (v : VariableValue) : Prop := ∀ n, v = .int n → Json.InWord n

inductive Writes : VariableValue → Json → Prop
  | text (s : String) : Writes (.text s) (.string s)
  | present (s : String) : Writes (.optionalText (some s)) (.string s)
  | absent : Writes (.optionalText none) .null
  | int (n : Int) (h : Json.InWord n) : Writes (.int n) (.number (.integer n h))
  | flag (b : Bool) : Writes (.flag b) (.bool b)

inductive SameKind : VariableValue → VariableValue → Prop
  | text (s t : String) : SameKind (.text s) (.text t)
  | optionalText (s t : Option String) : SameKind (.optionalText s) (.optionalText t)
  | int (m n : Int) : SameKind (.int m) (.int n)
  | flag (a b : Bool) : SameKind (.flag a) (.flag b)

variable {v w : VariableValue} {j : Json}

theorem writes_toJson (h : v.Fits) : v.Writes v.toJson := by
  cases v with
  | text s => exact .text s
  | optionalText s =>
    cases s with
    | none => exact .absent
    | some s => exact .present s
  | int n =>
    rw [toJson, Json.ofInt_eq (h n rfl)]
    exact .int n _
  | flag b => exact .flag b

theorem Writes.eq_toJson (h : v.Writes j) : j = v.toJson := by
  cases h with
  | int n h => exact (Json.ofInt_eq h).symm
  | _ => rfl

theorem Writes.admits (h : v.Writes j) :
    v.declaredType.Admits j ∧ (j = .null → v.declaredType = ⟨"String", false⟩) := by
  cases h with
  | text s => exact ⟨.string s true, nofun⟩
  | present s => exact ⟨.string s false, nofun⟩
  | absent => exact ⟨.null "String", fun _ => rfl⟩
  | int n h => exact ⟨.int n h true, nofun⟩
  | flag b => exact ⟨.boolean b true, nofun⟩

theorem sameKind_iff : v.SameKind w ↔ v.declaredType = w.declaredType := by
  constructor
  · intro h
    cases h <;> rfl
  · intro h
    cases v <;> cases w <;> first | constructor | exact absurd h (by simp [declaredType])

theorem SameKind.typeName_eq (h : v.SameKind w) : v.typeName = w.typeName := by
  cases h <;> rfl

end VariableValue

section Rendered

variable {d : Document} {b b' : Bindings} {text : String}

theorem declares_of_render (h : d.render b = .ok text) :
    Declares text ((b.among d.variableNames).map fun p => (p.1.text, p.2.declaredType)) :=
  ⟨d.operationOf b, tokens_of_render h, rfl⟩

/-- The variables of the document have values of the same kinds, or none, under both bindings. -/
def Document.Alike (d : Document) (b b' : Bindings) : Prop :=
  ∀ x ∈ d.variableNames, Option.Rel VariableValue.SameKind (b.get? x) (b'.get? x)

theorem Document.declare_congr {x : VariableName}
    (h : Option.Rel VariableValue.SameKind (b.get? x) (b'.get? x)) :
    declare b' x = declare b x := by
  rw [declare, declare]
  generalize b.get? x = value at h
  generalize b'.get? x = value' at h
  cases h with
  | none => rfl
  | some hkind => simp only [hkind.typeName_eq]

theorem Document.Alike.render_eq (h : d.Alike b b') : d.render b' = d.render b := by
  have hdeclare : d.variableNames.mapM (declare b') = d.variableNames.mapM (declare b) :=
    mapM_congr fun x hx => declare_congr (h x hx)
  rw [render, render, hdeclare]

theorem Document.alike_of_render (h : d.render b = .ok text) (h' : d.render b' = .ok text) :
    d.Alike b b' := by
  intro x hx
  have hdeclared := (declares_of_render h).unique (declares_of_render h')
  obtain ⟨v, hv⟩ := Option.isSome_iff_exists.1 ((render_eq_ok_iff.1 h).1 x hx)
  have hmem : (x.text, v.declaredType) ∈
      (b.among d.variableNames).map fun p => (p.1.text, p.2.declaredType) := by
    refine List.mem_map.2 ⟨(x, v), List.mem_filterMap.2 ⟨x, hx, ?_⟩, rfl⟩
    rw [hv, Option.map_some]
  rw [← hdeclared, List.mem_map] at hmem
  obtain ⟨⟨y, w⟩, hw, heq⟩ := hmem
  obtain ⟨htext, htype⟩ := Prod.mk.inj heq
  obtain rfl := VariableName.eq_of_text_eq htext
  rw [hv, Bindings.get?_of_mem_among hw]
  exact .some (VariableValue.sameKind_iff.2 htype.symm)

theorem Document.alike_set (d : Document) (b : Bindings) (x : VariableName) {v w : VariableValue}
    (h : v.SameKind w) : d.Alike (b.set x v) (b.set x w) := by
  intro y _
  rw [Bindings.get?_set, Bindings.get?_set]
  split
  · exact .some h
  · cases b.get? y with
    | none => exact .none
    | some u => exact .some (VariableValue.sameKind_iff.2 rfl)

end Rendered

/-- Whatever a document is rendered under, its text or its failure depends on the kinds of its
variables' values alone, and two texts are the same only if those are: so the text stays what it is
when a cursor that was null is set. -/
theorem Document.render_tells_kinds (d : Document) (b b' : Bindings) :
    (d.Alike b b' → d.render b' = d.render b) ∧
      (∀ text, d.render b = .ok text → (d.render b' = .ok text ↔ d.Alike b b')) ∧
      ∀ (x : VariableName) (cursor : String),
        d.render (b.set x (.optionalText (some cursor))) =
          d.render (b.set x (.optionalText none)) := by
  refine ⟨fun h => h.render_eq,
    fun text h => ⟨fun h' => alike_of_render h h', fun halike => ?_⟩, ?_⟩
  · rw [halike.render_eq, h]
  · intro x cursor
    have halike : d.Alike (b.set x (.optionalText none)) (b.set x (.optionalText (some cursor))) :=
      d.alike_set b x (.optionalText none (some cursor))
    exact halike.render_eq

namespace Bindings

variable {sets : List (VariableName × VariableValue)}

theorem SetLast.mem {x : VariableName} {v : VariableValue} (h : SetLast sets x v) :
    (x, v) ∈ sets := by
  obtain ⟨before, rest, rfl, -⟩ := h
  simp

def members (b : Bindings) : List (String × Json) := b.entries.map fun e => (e.1.text, e.2.toJson)

theorem pairwise_members :
    (after sets).members.Pairwise fun m m' => m.1.toUTF8.data.toList < m'.1.toUTF8.data.toList := by
  have hkeys := @pairwise_after sets
  rw [Entries.keys, List.pairwise_map] at hkeys
  refine List.pairwise_map.2 (hkeys.imp fun {e e'} hlt => ?_)
  exact (e.1.bytes_lt_iff e'.1).2 hlt

theorem mem_members_iff (h : ∀ s ∈ sets, s.2.Fits) {key : String} {j : Json} :
    (key, j) ∈ (after sets).members ↔
      ∃ x v, VariableName.text x = key ∧ SetLast sets x v ∧ v.Writes j := by
  rw [members, List.mem_map]
  constructor
  · intro hmem
    obtain ⟨⟨x, v⟩, hentry, heq⟩ := hmem
    cases heq
    have hlast : SetLast sets x v := get?_after.1 ((Entries.mem_iff_get? nodup_after).1 hentry)
    exact ⟨x, v, rfl, hlast, VariableValue.writes_toJson (h _ hlast.mem)⟩
  · intro hset
    obtain ⟨x, v, rfl, hlast, hwrites⟩ := hset
    refine ⟨(x, v), (Entries.mem_iff_get? nodup_after).2 (get?_after.2 hlast), ?_⟩
    rw [hwrites.eq_toJson]

theorem admits_of_render (h : ∀ s ∈ sets, s.2.Fits) {d : Document} {text : String}
    (hd : d.render (after sets) = .ok text) : ∃ declared, Declares text declared ∧
      declared.map Prod.fst = d.variableNames.map VariableName.text ∧
      ∀ t ∈ declared, ∃ j, (t.1, j) ∈ (after sets).members ∧ t.2.Admits j ∧
        (j = .null → t.2 = ⟨"String", false⟩) := by
  refine ⟨_, declares_of_render hd, ?_, fun t ht => ?_⟩
  · have hnames := keys_among (Document.render_eq_ok_iff.1 hd).1
    refine Eq.trans ?_ (congrArg (List.map VariableName.text) hnames)
    rw [List.map_map, List.map_map]
    rfl
  · obtain ⟨⟨x, v⟩, hp, rfl⟩ := List.mem_map.1 ht
    have hlast : SetLast sets x v := get?_after.1 (get?_of_mem_among hp)
    have hwrites := VariableValue.writes_toJson (h _ hlast.mem)
    exact ⟨v.toJson, (mem_members_iff h).2 ⟨x, v, rfl, hlast, hwrites⟩, hwrites.admits⟩

/-- Values that are set are sent, each name once and in the order of the bytes with the value that
was set last, and reading gives that value too. Any document that is rendered under them declares
its variables under types of which their values are; null is sent only for an optional text. -/
theorem after_declares (h : ∀ s ∈ sets, s.2.Fits) :
    ∃ members, (after sets).toJson = .object members ∧
      (members.Pairwise fun m m' => m.1.toUTF8.data.toList < m'.1.toUTF8.data.toList) ∧
      (∀ key j, (key, j) ∈ members ↔
        ∃ x v, VariableName.text x = key ∧ SetLast sets x v ∧ v.Writes j) ∧
      (∀ x : VariableName, (after sets).getText? x.text = (after sets).get? x ∧
        ∀ v, (after sets).get? x = some v ↔ SetLast sets x v) ∧
      ∀ (d : Document) (text : String), d.render (after sets) = .ok text →
        (∀ e, (Service.Request.query e text (after sets)).body =
          some (.object [("query", .string text), ("variables", .object members)])) ∧
        ∃ declared, Declares text declared ∧
          declared.map Prod.fst = d.variableNames.map VariableName.text ∧
          ∀ t ∈ declared, ∃ j, (t.1, j) ∈ members ∧ t.2.Admits j ∧
            (j = .null → t.2 = ⟨"String", false⟩) := by
  refine ⟨(after sets).members, rfl, pairwise_members, fun _ _ => mem_members_iff h,
    fun _ => ⟨getText?_text, fun _ => get?_after⟩, fun d text hd => ⟨fun _ => rfl, ?_⟩⟩
  exact admits_of_render h hd

def sampleSets : List (VariableName × VariableValue) :=
  sampleBindings.entries.map (fun e => (e.1, .text "start")) ++
    (.ofWord "limit", .int (-9223372036854775808)) :: sampleBindings.entries

theorem fits_sampleSets : ∀ s ∈ sampleSets, s.2.Fits := by
  intro s hs n hn
  simp only [sampleSets, sampleBindings, List.map_cons, List.map_nil, List.singleton_append,
    List.mem_cons, List.not_mem_nil, or_false] at hs
  rcases hs with rfl | rfl | rfl
  · cases hn
  · cases hn
    decide
  · cases hn

set_option maxRecDepth 4000 in
theorem after_declares_sample : (∀ s ∈ sampleSets, s.2.Fits) ∧
    (after sampleSets).toJson =
      .object [("cursor", .null), ("limit", .ofInt (-9223372036854775808))] ∧
    ∃ d, sampleTree.compile .standard = .ok d ∧ d.render (after sampleSets) = .ok sampleText ∧
      Declares sampleText [("cursor", ⟨"String", false⟩)] := by
  have hjson : (after sampleSets).toJson =
      .object [("cursor", .null), ("limit", .ofInt (-9223372036854775808))] := by rfl
  have hrender : ∃ d, sampleTree.compile .standard = .ok d ∧ d.variableNames = [.ofWord "cursor"] ∧
      d.render (after sampleSets) = .ok sampleText := ⟨_, by rfl, by rfl, by rfl⟩
  obtain ⟨d, hd, hvariables, htext⟩ := hrender
  obtain ⟨members, hmembers, -, -, -, hrendered⟩ := after_declares fits_sampleSets
  obtain ⟨-, declared, hdeclares, hnames, hadmits⟩ := hrendered d sampleText htext
  rw [hjson] at hmembers
  cases hmembers
  rw [hvariables] at hnames
  obtain ⟨⟨name, type⟩, rfl, rfl⟩ := List.map_eq_singleton_iff.1 hnames
  obtain ⟨j, hj, -, hnull⟩ := hadmits _ List.mem_cons_self
  have hj : j = .null := by
    have hne : (VariableName.ofWord "cursor").text ≠ "limit" := by decide
    simp only [List.mem_cons, Prod.mk.injEq, hne, false_and, List.not_mem_nil, or_false] at hj
    exact hj.2
  obtain rfl := hnull hj
  exact ⟨fits_sampleSets, hjson, d, hd, htext, hdeclares⟩

end Bindings

end Query

end Docket
