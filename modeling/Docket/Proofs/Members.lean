import Docket.Proofs.Syntax.Outline
import Mathlib.Logic.Relation
/-!
The members of an element or of a wrapper, taken alike. What lies within a tree is reached from the
members of its root through children, wrappers and variants, in any mix and at any depth.
-/

namespace Docket.Query

/-- What an element or a wrapper selects, and the name it goes by where it selects nothing. -/
structure Members where
  owner : String
  scalars : List ScalarField
  children : List Element
  node : Option Node
  variants : List Element

def Element.members (e : Element) : Members :=
  ⟨e.name.text, e.scalars, e.children, e.node, e.variants⟩

def Node.members (n : Node) (owner : String) : Members :=
  ⟨owner ++ "." ++ n.kind.fieldName, n.scalars, n.children, none, n.variants⟩

namespace Members

inductive Part : Members → Members → Prop
  | child {m : Members} {e : Element} (h : e ∈ m.children) : Part m e.members
  | node {m : Members} {n : Node} (h : m.node = some n) : Part m (n.members m.owner)
  | variant {m : Members} {e : Element} (h : e ∈ m.variants) : Part m e.members

def Within : Members → Members → Prop := Relation.ReflTransGen Part

theorem induct {P : Members → Prop} (step : ∀ m, (∀ part, m.Part part → P part) → P m)
    (m : Members) : P m := by
  -- a wrapper's name depends on its owner, so that the recursor has it for every owner
  have helement : ∀ e : Element, P e.members := by
    refine @Element.rec (fun e => P e.members) (fun n => ∀ owner, P (n.members owner))
      (fun es => ∀ e ∈ es, P e.members) (fun node => ∀ n owner, node = some n → P (n.members owner))
      ?_ ?_ nofun ?_ nofun ?_
    · intro name aliasName arguments scalars children node variants hchildren hnode hvariants
      apply step
      intro part h
      cases h with
      | child h => exact hchildren _ h
      | node h => exact hnode _ _ h
      | variant h => exact hvariants _ h
    · intro kind scalars children variants hchildren hvariants owner
      apply step
      intro part h
      cases h with
      | child h => exact hchildren _ h
      | node h => cases h
      | variant h => exact hvariants _ h
    · exact fun e es he hes => List.forall_mem_cons.2 ⟨he, hes⟩
    · intro n hn m owner h
      cases h
      exact hn owner
  have hnode : ∀ (n : Node) (owner : String), P (n.members owner) := by
    intro n owner
    apply step
    intro part h
    cases h with
    | child _ => exact helement _
    | node h => cases h
    | variant _ => exact helement _
  apply step
  intro part h
  cases h with
  | child _ => exact helement _
  | node _ => exact hnode _ _
  | variant _ => exact helement _

end Members

def Element.selectChild (r : Registry) (e : Element) : Except QueryError Selection :=
  (e.select r).map fun s => ⟨e.head, .object s⟩

def Element.selectVariant (r : Registry) (e : Element) : Except QueryError Fragment := do
  e.refuseArguments
  (e.select r).map fun s => ⟨e.name, s⟩

def Members.select (r : Registry) (m : Members) : Except QueryError SelectionSet := do
  let leaves ← m.scalars.mapM (ScalarField.select r)
  let nested ← m.children.mapM (Element.selectChild r)
  let wrapped ← selectNode r m.owner m.node
  let fragments ← m.variants.mapM (Element.selectVariant r)
  SelectionSet.close m.owner ⟨leaves ++ nested ++ wrapped, fragments⟩

theorem selectChildren_eq (r : Registry) (es : List Element) :
    selectChildren r es = es.mapM (Element.selectChild r) := by
  induction es with
  | nil => rfl
  | cons e es ih =>
    rw [selectChildren, ih, List.mapM_cons, Element.selectChild]
    cases e.select r <;> rfl

theorem selectVariants_eq (r : Registry) (es : List Element) :
    selectVariants r es = es.mapM (Element.selectVariant r) := by
  induction es with
  | nil => rfl
  | cons e es ih =>
    rw [selectVariants, ih, List.mapM_cons, Element.selectVariant]
    cases e.refuseArguments with
    | error err => rfl
    | ok _ => cases e.select r <;> rfl

theorem Element.select_eq (r : Registry) (e : Element) : e.select r = e.members.select r := by
  cases e
  rw [Element.select, selectChildren_eq, selectVariants_eq]
  rfl

theorem Node.select_eq (r : Registry) (n : Node) (owner : String) :
    n.select r owner = (n.members owner).select r := by
  cases n with
  | mk kind scalars children variants =>
    rw [Node.select, selectChildren_eq, selectVariants_eq, kind.fieldName_name]
    simp only [Members.select, Node.members, selectNode, List.append_nil, bind, Except.bind]

end Docket.Query
