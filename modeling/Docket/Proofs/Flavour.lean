import Docket.Proofs.Arguments
import Docket.Proofs.Kinds
import Docket.Query.Edit
/-!
The flavour of an element, which its first wrapper fixes. Whatever edits are made, in any order and
with any of them refused, later wrappers are of that kind, and the rest of the element grows by what
is appended. Each set of a compiled document has the field of the wrapper last, and has it as a list
if the wrapper is one.
-/

namespace Docket.Query

namespace Edit

def scalar? : Edit → Option ScalarField
  | .scalar name kind => (ScalarField.read name kind).toOption
  | _ => none

def child? : Edit → Option Element
  | .child e => some e
  | _ => none

def variant? : Edit → Option Element
  | .variant e => some e
  | _ => none

def node? : Edit → Option Node
  | .node _ n => some n
  | _ => none

end Edit

namespace Element

variable {e t : Element} {edit : Edit} {expected : NodeKind} {n : Node}

/-- What comes of placing a wrapper: one of the wrong kind is refused, then one beside a wrapper of
the other kind, and any other one replaces what was there. -/
structure Places (e : Element) (expected : NodeKind) (n : Node)
    (outcome : EStateM.Result QueryError Element Unit) : Prop where
  wrong : n.kind ≠ expected → outcome = .error (.wrongNodeType e.name.text expected n.kind) e
  conflict : n.kind = expected → ∀ m, e.node = some m → m.kind ≠ expected →
    outcome = .error (.nodeConflict e.name.text m.kind) e
  placed : n.kind = expected → (∀ m, e.node = some m → m.kind = expected) →
    outcome = .ok () { e with node := some n }

theorem run_placeNode (e : Element) (expected : NodeKind) (n : Node) :
    (placeNode expected n).run e =
      if n.kind ≠ expected then .error (.wrongNodeType e.name.text expected n.kind) e
      else match e.otherNode? expected with
        | some existing => .error (.nodeConflict e.name.text existing) e
        | none => .ok () { e with node := some n } := by
  unfold placeNode
  by_cases hkind : n.kind ≠ expected
  · rw [if_pos hkind]
    show EStateM.run (if n.kind ≠ expected then _ else _) e = _
    rw [if_pos hkind]
    rfl
  · rw [if_neg hkind]
    show EStateM.run (if n.kind ≠ expected then _ else _) e = _
    rw [if_neg hkind]
    show EStateM.run (match e.otherNode? expected with
      | some existing => _
      | none => _) e = _
    cases e.otherNode? expected <;> rfl

theorem setNode_eq (e : Element) (expected : NodeKind) (n : Node) :
    e.setNode expected n = match (placeNode expected n).run e with
      | .ok _ t => .ok t
      | .error err _ => .error err := by
  rw [run_placeNode, setNode]
  split
  · rfl
  · cases e.otherNode? expected <;> rfl

theorem otherNode?_eq_none_iff :
    e.otherNode? expected = none ↔ ∀ m, e.node = some m → m.kind = expected := by
  unfold otherNode?
  cases e.node <;> simp

theorem otherNode?_of_ne {m : Node} (hm : e.node = some m) (hkind : m.kind ≠ expected) :
    e.otherNode? expected = some m.kind := by
  rw [otherNode?, hm, Option.map_some, Option.filter_some, if_pos (decide_eq_true hkind)]

theorem places (e : Element) (expected : NodeKind) (n : Node) :
    e.Places expected n ((placeNode expected n).run e) where
  wrong hkind := by rw [run_placeNode, if_pos hkind]
  conflict hkind m hm hother := by
    rw [run_placeNode, if_neg (not_not.2 hkind), otherNode?_of_ne hm hother]
  placed hkind hall := by
    rw [run_placeNode, if_neg (not_not.2 hkind), otherNode?_eq_none_iff.2 hall]

/-- What an edit that succeeds makes of an element. A wrapper is placed only beside those of its own
kind. -/
structure Grows (e : Element) (edit : Edit) (t : Element) : Prop where
  scalars : t.scalars = e.scalars ++ edit.scalar?.toList
  children : t.children = e.children ++ edit.child?.toList
  variants : t.variants = e.variants ++ edit.variant?.toList
  node : t.node = edit.node?.or e.node
  kind : ∀ n m, edit.node? = some n → e.node = some m → n.kind = m.kind

theorem withArguments_arguments (e : Element) : e.withArguments e.arguments = e := by
  cases e
  rfl

theorem run_setArgument (e : Element) (r : Setting) :
    (∃ s, (setArgument r).run e = .ok () (e.withArguments s)) ∨
      ∃ err, (setArgument r).run e = .error err e := by
  show (∃ s, setArgument r e = _) ∨ ∃ err, setArgument r e = _
  rw [setArgument]
  rcases e.arguments.perform_cases r with ⟨v, hok, -⟩ | ⟨err, herror, -⟩
  · rw [hok]
    exact .inl ⟨_, rfl⟩
  · rw [herror]
    exact .inr ⟨err, congrArg _ e.withArguments_arguments⟩

theorem perform_placeNode_cases (e : Element) (expected : NodeKind) (n : Node) :
    (∃ t, (perform (.node expected n)).run e = .ok () t ∧ e.Grows (.node expected n) t) ∨
      ∃ err, (perform (.node expected n)).run e = .error err e := by
  have hplaces := e.places expected n
  by_cases hkind : n.kind = expected
  · by_cases hall : ∀ m, e.node = some m → m.kind = expected
    · refine .inl ⟨_, hplaces.placed hkind hall, ?_⟩
      refine ⟨(List.append_nil _).symm, (List.append_nil _).symm, (List.append_nil _).symm, rfl, ?_⟩
      intro _ m hn hm
      cases hn
      rw [hkind, hall m hm]
    · push Not at hall
      obtain ⟨m, hm, hother⟩ := hall
      exact .inr ⟨_, hplaces.conflict hkind m hm hother⟩
  · exact .inr ⟨_, hplaces.wrong hkind⟩

theorem perform_cases (e : Element) (edit : Edit) :
    (∃ t, (perform edit).run e = .ok () t ∧ e.Grows edit t) ∨
      ∃ err, (perform edit).run e = .error err e := by
  have hnil : ∀ {α : Type} (l : List α), l = l ++ [] := fun l => (List.append_nil l).symm
  cases edit with
  | aliased name =>
    cases h : Identifier.read name with
    | error err => exact .inr ⟨err, by rw [perform, h]; rfl⟩
    | ok a =>
      refine .inl ⟨e.withAlias a, by rw [perform, h]; rfl, ?_⟩
      exact ⟨hnil _, hnil _, hnil _, rfl, nofun⟩
  | argument r =>
    rcases e.run_setArgument r with ⟨s, hok⟩ | herror
    · exact .inl ⟨_, hok, hnil _, hnil _, hnil _, rfl, nofun⟩
    · exact .inr herror
  | arguments s => exact .inl ⟨_, rfl, hnil _, hnil _, hnil _, rfl, nofun⟩
  | scalar name kind =>
    cases h : ScalarField.read name kind with
    | error err => exact .inr ⟨err, by rw [perform, h]; rfl⟩
    | ok s =>
      refine .inl ⟨e.addScalar s, by rw [perform, h]; rfl, ?_, hnil _, hnil _, rfl, nofun⟩
      rw [Edit.scalar?, h]
      rfl
  | child c => exact .inl ⟨_, rfl, hnil _, rfl, hnil _, rfl, nofun⟩
  | variant v => exact .inl ⟨_, rfl, hnil _, hnil _, rfl, rfl, nofun⟩
  | node expected n => exact perform_placeNode_cases e expected n

def accepted : Element → List Edit → List Edit
  | _, [] => []
  | e, edit :: edits =>
    match (perform edit).run e with
    | .ok _ t => edit :: accepted t edits
    | .error _ t => accepted t edits

theorem after_append (e : Element) (edits more : List Edit) :
    e.after (edits ++ more) = (e.after edits).after more := List.foldl_append

structure Holds (t e : Element) (edits : List Edit) : Prop where
  scalars : t.scalars = e.scalars ++ edits.filterMap Edit.scalar?
  children : t.children = e.children ++ edits.filterMap Edit.child?
  variants : t.variants = e.variants ++ edits.filterMap Edit.variant?
  node : t.node = (edits.filterMap Edit.node?).getLast?.or e.node

theorem filterMap_cons_eq {α β : Type} (f : α → Option β) (a : α) (l : List α) :
    (a :: l).filterMap f = (f a).toList ++ l.filterMap f := by
  rw [List.filterMap_cons]
  cases f a <;> rfl

theorem Holds.cons {u : Element} {edits : List Edit} (hgrows : e.Grows edit t)
    (h : u.Holds t edits) : u.Holds e (edit :: edits) where
  scalars := by rw [h.scalars, hgrows.scalars, filterMap_cons_eq, List.append_assoc]
  children := by rw [h.children, hgrows.children, filterMap_cons_eq, List.append_assoc]
  variants := by rw [h.variants, hgrows.variants, filterMap_cons_eq, List.append_assoc]
  node := by
    rw [h.node, hgrows.node, filterMap_cons_eq, List.getLast?_append, Option.or_assoc]
    cases edit.node? <;> rfl

theorem holds_after (e : Element) (edits : List Edit) :
    (e.after edits).Holds e (e.accepted edits) := by
  induction edits generalizing e with
  | nil => exact ⟨(List.append_nil _).symm, (List.append_nil _).symm, (List.append_nil _).symm, rfl⟩
  | cons edit edits ih =>
    rw [after, List.foldl_cons, ← after, accepted, left]
    rcases e.perform_cases edit with ⟨t, hok, hgrows⟩ | ⟨err, herror⟩
    · rw [hok]
      exact (ih t).cons hgrows
    · rw [herror]
      exact ih e

theorem exists_node_left (edit : Edit) (h : e.node = some n) :
    ∃ m, (e.left edit).node = some m ∧ m.kind = n.kind := by
  rw [left]
  rcases e.perform_cases edit with ⟨t, hok, hgrows⟩ | ⟨err, herror⟩
  · rw [hok]
    cases hnode : edit.node? with
    | none => exact ⟨n, by rw [hgrows.node, hnode, Option.none_or, h], rfl⟩
    | some m => exact ⟨m, by rw [hgrows.node, hnode, Option.some_or], hgrows.kind m n hnode h⟩
  · rw [herror]
    exact ⟨n, h, rfl⟩

theorem exists_node_after (edits : List Edit) (h : e.node = some n) :
    ∃ m, (e.after edits).node = some m ∧ m.kind = n.kind := by
  induction edits generalizing e n with
  | nil => exact ⟨n, h, rfl⟩
  | cons edit edits ih =>
    obtain ⟨m, hm, hkind⟩ := exists_node_left edit h
    obtain ⟨k, hk, hkinds⟩ := ih hm
    exact ⟨k, hk, hkinds.trans hkind⟩

end Element

section Compile

variable {r : Registry} {m : Members} {s : SelectionSet}

structure Node.Makes (n : Node) (f : Selection) : Prop where
  head : f.head = .plain n.kind.name
  single : (∃ part, f.shape = .object part) ↔ n.kind = .single
  list : (∃ item, f.shape = .list item) ↔ n.kind = .list

def SelectionSet.Lists (s : SelectionSet) (m : Members) : Prop :=
  ∃ leaves nested wrapped, s.fields = leaves ++ nested ++ wrapped ∧
    List.Forall₂ (fun a f => f.head = .plain a.name ∧ ∃ type, f.shape = .leaf type)
      m.scalars leaves ∧
    List.Forall₂ (fun e f => f.head = e.head ∧ ∃ part, f.shape = .object part) m.children nested ∧
    List.Forall₂ Node.Makes m.node.toList wrapped ∧
    List.Forall₂ (fun e f => f.typeName = e.name) m.variants s.fragments

theorem Node.makes_shape (n : Node) (part : SelectionSet) :
    n.Makes ⟨.plain n.kind.name, n.kind.shape part⟩ := by
  cases hkind : n.kind with
  | single =>
    exact ⟨by rw [hkind], by simp [NodeKind.shape, hkind], by simp [NodeKind.shape, hkind]⟩
  | list =>
    exact ⟨by rw [hkind], by simp [NodeKind.shape, hkind], by simp [NodeKind.shape, hkind]⟩

theorem Members.lists_of_select (h : m.select r = .ok s) : s.Lists m := by
  obtain ⟨leaves, nested, wrapped, hfields, hleaves, hnested, hwrapped, hfragments⟩ :=
    exists_fields_of_select h
  refine ⟨leaves, nested, wrapped, hfields, ?_, ?_, ?_, ?_⟩
  · refine forall₂_of_mapM hleaves fun a f hf => ?_
    obtain ⟨type, -, hf⟩ := bind_eq_ok_iff.1 hf
    cases hf
    exact ⟨rfl, type, rfl⟩
  · refine forall₂_of_mapM hnested fun e f hf => ?_
    obtain ⟨part, -, rfl⟩ := map_eq_ok_iff.1 hf
    exact ⟨rfl, part, rfl⟩
  · cases hnode : m.node with
    | none =>
      rw [hnode] at hwrapped
      cases hwrapped
      exact .nil
    | some n =>
      rw [hnode, selectNode] at hwrapped
      obtain ⟨part, -, hw⟩ := bind_eq_ok_iff.1 hwrapped
      cases hw
      exact .cons (n.makes_shape part) .nil
  · refine forall₂_of_mapM hfragments fun e f hf => ?_
    simp only [Element.selectVariant, bind_eq_ok_iff, map_eq_ok_iff] at hf
    obtain ⟨-, -, part, -, rfl⟩ := hf
    rfl

theorem Members.exists_part_of_select {part : SelectionSet} (h : m.select r = .ok s)
    (hpart : s.Part part) : ∃ inner, m.Part inner ∧ inner.select r = .ok part := by
  obtain ⟨leaves, nested, wrapped, hfields, hleaves, hnested, hwrapped, hfragments⟩ :=
    exists_fields_of_select h
  -- the set of a field, which no leaf has
  have hfield : ∀ f ∈ s.fields, (f.shape = .object part ∨ f.shape = .list (.object part)) →
      ∃ inner, m.Part inner ∧ inner.select r = .ok part := by
    intro f hf hshape
    rw [hfields, List.mem_append, List.mem_append] at hf
    rcases hf with (hf | hf) | hf
    · obtain ⟨a, -, ha⟩ := exists_of_mem_mapM hleaves hf
      obtain ⟨type, -, ha⟩ := bind_eq_ok_iff.1 ha
      cases ha
      rcases hshape with hshape | hshape
      · cases hshape
      · cases hshape
    · obtain ⟨e, he, hselect⟩ := exists_of_mem_mapM hnested hf
      obtain ⟨own, hown, rfl⟩ := map_eq_ok_iff.1 hselect
      rcases hshape with hshape | hshape
      · cases hshape
        exact ⟨e.members, .child he, by rw [← Element.select_eq, hown]⟩
      · cases hshape
    · cases hnode : m.node with
      | none =>
        rw [hnode] at hwrapped
        cases hwrapped
        cases hf
      | some n =>
        rw [hnode, selectNode] at hwrapped
        obtain ⟨own, hown, hw⟩ := bind_eq_ok_iff.1 hwrapped
        cases hw
        obtain rfl := List.mem_singleton.1 hf
        have hsame : own = part := by
          cases hkind : n.kind <;> simpa [NodeKind.shape, hkind] using hshape
        exact ⟨n.members m.owner, .node hnode, by rw [← Node.select_eq, hown, hsame]⟩
  cases hpart with
  | object hf hshape => exact hfield _ hf (.inl hshape)
  | list hf hshape => exact hfield _ hf (.inr hshape)
  | fragment hf =>
    obtain ⟨e, he, hselect⟩ := exists_of_mem_mapM hfragments hf
    simp only [Element.selectVariant, bind_eq_ok_iff, map_eq_ok_iff] at hselect
    obtain ⟨-, -, own, hown, rfl⟩ := hselect
    exact ⟨e.members, .variant he, by rw [← Element.select_eq, hown]⟩

theorem Members.exists_within_of_select {inner : SelectionSet} (h : m.select r = .ok s)
    (hwithin : s.Within inner) : ∃ part, m.Within part ∧ part.select r = .ok inner := by
  induction hwithin with
  | refl => exact ⟨m, .refl, h⟩
  | tail _ hpart ih =>
    obtain ⟨mid, hmid, hselect⟩ := ih
    obtain ⟨part, hlast, hinner⟩ := exists_part_of_select hselect hpart
    exact ⟨part, hmid.tail hlast, hinner⟩

end Compile

/-- After any edits a wrapper of the wrong kind is refused, then one beside a wrapper of the other
kind, and the kind of the one in place never changes. The element holds what was appended, in order,
and the wrapper placed last. The sets of a compiled document are those of the parts of its tree, and
each has the field of the wrapper last, as a list if the wrapper is one. -/
theorem Element.after_keeps_flavour (e : Element) (edits : List Edit) :
    (∀ expected n,
      (e.after edits).Places expected n ((perform (.node expected n)).run (e.after edits)) ∧
      (e.after edits).setNode expected n =
        match (perform (.node expected n)).run (e.after edits) with
        | .ok _ t => .ok t
        | .error err _ => .error err) ∧
    (∀ n more, (e.after edits).node = some n →
      ∃ m, (e.after (edits ++ more)).node = some m ∧ m.kind = n.kind) ∧
    (e.after edits).Holds e (e.accepted edits) ∧
    ∀ (root : Element) (r : Registry) d, root.compile r = .ok d →
      (∀ m, root.members.Within m →
        ∃ s, d.selections.Within s ∧ m.select r = .ok s ∧ s.Lists m) ∧
      ∀ s, d.selections.Within s →
        ∃ m, root.members.Within m ∧ m.select r = .ok s ∧ s.Lists m := by
  refine ⟨fun expected n =>
      ⟨(e.after edits).places expected n, (e.after edits).setNode_eq expected n⟩,
    fun n more hn => ?_, e.holds_after edits, fun root r d hd => ⟨fun m hm => ?_, fun s hs => ?_⟩⟩
  · rw [after_append]
    exact exists_node_after more hn
  · obtain ⟨s, hs, hwithin⟩ := Members.exists_select_of_within hm (select_of_compile hd)
    exact ⟨s, hwithin, hs, Members.lists_of_select hs⟩
  · obtain ⟨m, hm, hselect⟩ := Members.exists_within_of_select (select_of_compile hd) hs
    exact ⟨m, hm, hselect, Members.lists_of_select hselect⟩

def sampleEdits : List Edit :=
  [.scalar "name" "String", .node .list (.empty .list), .node .single (.empty .single),
    .node .single (.empty .list)]

def sampleLabels : Element :=
  (Element.ofName (.ofWord "labels")).after [.scalar "name" "String",
    .node .list ((Node.empty .list).addScalar ⟨.ofWord "hue", .ofWord "float"⟩)]

theorem after_keeps_flavour_sample :
    ((Element.ofName (.ofWord "labels")).after sampleEdits).node = some (.empty .list) ∧
    (∃ m, ((Element.ofName (.ofWord "labels")).after
      (sampleEdits ++ [.node .single (.empty .single)])).node = some m ∧ m.kind = .list) ∧
    ∃ d, sampleLabels.compile .standard = .ok d ∧
      ∃ s, d.selections.Within s ∧ s.Lists sampleLabels.members := by
  have hnode : ((Element.ofName (.ofWord "labels")).after sampleEdits).node =
      some (.empty .list) := by rfl
  obtain ⟨d, hd⟩ : ∃ d, sampleLabels.compile .standard = .ok d := ⟨_, by rfl⟩
  obtain ⟨-, hsticky, -, hsets⟩ :=
    Element.after_keeps_flavour (Element.ofName (.ofWord "labels")) sampleEdits
  obtain ⟨s, hwithin, -, hlists⟩ := (hsets _ _ d hd).1 _ .refl
  exact ⟨hnode, hsticky _ _ hnode, d, hd, s, hwithin, hlists⟩

end Docket.Query
