import Docket.Proofs.Faults
import Docket.Proofs.Members
/-!
Which trees compile. A tree is compiled if every scalar in it has a kind that the registry knows, no
variant carries arguments and nothing is left empty. Of other trees the first fault is reported, in
the order in which a tree is walked.
-/

namespace Docket.Query

def Registry.Resolves (r : Registry) (kind : String) : Prop :=
  ∃ claim ∈ r.resolvers, (claim (Text.lowered kind)).isSome

namespace Members

def IsEmpty (m : Members) : Prop :=
  m.scalars = [] ∧ m.children = [] ∧ m.node = none ∧ m.variants = []

structure Valid (r : Registry) (m : Members) : Prop where
  scalars : ∀ s ∈ m.scalars, r.Resolves s.kind.text
  variants : ∀ e ∈ m.variants, e.arguments.entries = []
  nonempty : ¬m.IsEmpty

/-- What is wrong within some members. Places follow the walk: scalars, children, the wrapper and
variants, each variant's arguments before its members, and emptiness last. -/
inductive Fault (r : Registry) : Members → Faults QueryError
  | scalar {m : Members} {i : Nat} {s : ScalarField} (hi : m.scalars[i]? = some s)
      (h : ¬r.Resolves s.kind.text) : Fault r m [0, i] (.unknownScalarKind s.kind.text)
  | child {m : Members} {i : Nat} {e : Element} {place : List Nat} {err : QueryError}
      (hi : m.children[i]? = some e) (h : Fault r e.members place err) :
      Fault r m (1 :: i :: place) err
  | node {m : Members} {n : Node} {place : List Nat} {err : QueryError} (hn : m.node = some n)
      (h : Fault r (n.members m.owner) place err) : Fault r m (2 :: place) err
  | arguments {m : Members} {i : Nat} {e : Element} {key : ArgumentKey} {value : ArgumentValue}
      {rest : List (ArgumentKey × ArgumentValue)} (hi : m.variants[i]? = some e)
      (h : e.arguments.entries = (key, value) :: rest) :
      Fault r m [3, i, 0] (.invalidArgument key (.onFragment e.name.text))
  | variant {m : Members} {i : Nat} {e : Element} {place : List Nat} {err : QueryError}
      (hi : m.variants[i]? = some e) (h : Fault r e.members place err) :
      Fault r m (3 :: i :: 1 :: place) err
  | empty {m : Members} (h : m.IsEmpty) : Fault r m [4] (.emptyObject m.owner)

end Members

inductive RootFault (r : Registry) (root : Element) : Faults QueryError
  | arguments (h : root.arguments.entries ≠ []) :
      RootFault r root [0] (.rootArguments root.name.text)
  | members {place : List Nat} {err : QueryError} (h : root.members.Fault r place err) :
      RootFault r root (1 :: place) err

open Members

section Valid

variable {r : Registry} {m part : Members}

theorem Members.Fault.of_part (h : m.Part part) {place : List Nat} {err : QueryError}
    (hpart : part.Fault r place err) : ∃ place', m.Fault r place' err := by
  cases h with
  | child he =>
    obtain ⟨i, hi⟩ := List.mem_iff_getElem?.1 he
    exact ⟨_, .child hi hpart⟩
  | node hn => exact ⟨_, .node hn hpart⟩
  | variant he =>
    obtain ⟨i, hi⟩ := List.mem_iff_getElem?.1 he
    exact ⟨_, .variant hi hpart⟩

theorem Members.Fault.of_within (h : m.Within part) {place : List Nat} {err : QueryError}
    (hpart : part.Fault r place err) : ∃ place', m.Fault r place' err := by
  induction h using Relation.ReflTransGen.head_induction_on with
  | refl => exact ⟨place, hpart⟩
  | head hstep _ ih =>
    obtain ⟨place', hplace'⟩ := ih
    exact hplace'.of_part hstep

theorem Members.exists_fault_of_not_valid (h : ¬m.Valid r) : ∃ place err, m.Fault r place err := by
  by_contra hnone
  apply h
  refine ⟨fun s hs => ?_, fun e he => ?_, fun hempty => hnone ⟨_, _, .empty hempty⟩⟩
  · by_contra hkind
    obtain ⟨i, hi⟩ := List.mem_iff_getElem?.1 hs
    exact hnone ⟨_, _, .scalar hi hkind⟩
  · cases hentries : e.arguments.entries with
    | nil => rfl
    | cons entry rest =>
      obtain ⟨i, hi⟩ := List.mem_iff_getElem?.1 he
      exact absurd ⟨_, _, .arguments hi hentries⟩ hnone

theorem Members.Fault.exists_not_valid {place : List Nat} {err : QueryError}
    (h : m.Fault r place err) : ∃ part, m.Within part ∧ ¬part.Valid r := by
  induction h with
  | scalar hi h =>
    exact ⟨_, .refl, fun hvalid => h (hvalid.scalars _ (List.mem_of_getElem? hi))⟩
  | child hi _ ih =>
    obtain ⟨part, hwithin, hpart⟩ := ih
    exact ⟨part, hwithin.head (.child (List.mem_of_getElem? hi)), hpart⟩
  | node hn _ ih =>
    obtain ⟨part, hwithin, hpart⟩ := ih
    exact ⟨part, hwithin.head (.node hn), hpart⟩
  | arguments hi h =>
    refine ⟨_, .refl, fun hvalid => ?_⟩
    rw [hvalid.variants _ (List.mem_of_getElem? hi)] at h
    cases h
  | variant hi _ ih =>
    obtain ⟨part, hwithin, hpart⟩ := ih
    exact ⟨part, hwithin.head (.variant (List.mem_of_getElem? hi)), hpart⟩
  | empty h => exact ⟨_, .refl, fun hvalid => hvalid.nonempty h⟩

theorem Members.forall_not_fault_iff :
    (∀ place err, ¬m.Fault r place err) ↔ ∀ part, m.Within part → part.Valid r := by
  constructor
  · intro hnone part hwithin
    by_contra hpart
    obtain ⟨place, err, hfault⟩ := exists_fault_of_not_valid hpart
    obtain ⟨place', hplace'⟩ := hfault.of_within hwithin
    exact hnone place' err hplace'
  · intro hvalid place err hfault
    obtain ⟨part, hwithin, hpart⟩ := hfault.exists_not_valid
    exact hpart (hvalid part hwithin)

end Valid

section Reports

variable {r : Registry} {m : Members}

theorem Registry.resolve_eq_ok_or (r : Registry) (kind : String) :
    (r.Resolves kind ∧ ∃ leaf, r.resolve kind = .ok leaf) ∨
      (¬r.Resolves kind ∧ r.resolve kind = .error (.unknownScalarKind kind)) := by
  unfold Registry.resolve
  cases h : r.resolvers.findSome? fun claim => claim (Text.lowered kind) with
  | none =>
    refine .inr ⟨?_, rfl⟩
    intro hresolves
    obtain ⟨claim, hclaim, hsome⟩ := hresolves
    rw [List.findSome?_eq_none_iff.1 h claim hclaim] at hsome
    cases hsome
  | some leaf =>
    obtain ⟨claim, hclaim, hsome⟩ := List.exists_of_findSome?_eq_some h
    exact .inl ⟨⟨claim, hclaim, by rw [hsome]; rfl⟩, leaf, rfl⟩

def scalarFaults (r : Registry) (s : ScalarField) : Faults QueryError :=
  .when (¬r.Resolves s.kind.text) (.unknownScalarKind s.kind.text)

def childFaults (r : Registry) (e : Element) : Faults QueryError := e.members.Fault r

def nodeFaults (r : Registry) (owner : String) (node : Option Node) : Faults QueryError :=
  fun place err => ∃ n, node = some n ∧ (n.members owner).Fault r place err

def argumentFaults (e : Element) : Faults QueryError := fun place err =>
  ∃ key value rest, e.arguments.entries = (key, value) :: rest ∧
    place = [] ∧ err = .invalidArgument key (.onFragment e.name.text)

def variantFaults (r : Registry) (e : Element) : Faults QueryError :=
  (Faults.under 0 (argumentFaults e)).or (.under 1 (e.members.Fault r))

theorem Members.fault_iff (place : List Nat) (err : QueryError) : m.Fault r place err ↔
    ((Faults.under 0 (.among 0 m.scalars (scalarFaults r))).or
      ((Faults.under 1 (.among 0 m.children (childFaults r))).or
        ((Faults.under 2 (nodeFaults r m.owner m.node)).or
          ((Faults.under 3 (.among 0 m.variants (variantFaults r))).or
            (Faults.under 4 (.when m.IsEmpty (.emptyObject m.owner))))))) place err := by
  constructor
  · intro h
    cases h with
    | scalar hi h => exact .inl ⟨_, rfl, _, _, _, hi, by rw [Nat.zero_add], h, rfl, rfl⟩
    | child hi h => exact .inr (.inl ⟨_, rfl, _, _, _, hi, by rw [Nat.zero_add], h⟩)
    | node hn h => exact .inr (.inr (.inl ⟨_, rfl, _, hn, h⟩))
    | arguments hi h =>
      exact .inr (.inr (.inr (.inl ⟨_, rfl, _, _, _, hi, by rw [Nat.zero_add],
        .inl ⟨_, rfl, _, _, _, h, rfl, rfl⟩⟩)))
    | variant hi h =>
      exact .inr (.inr (.inr (.inl ⟨_, rfl, _, _, _, hi, by rw [Nat.zero_add], .inr ⟨_, rfl, h⟩⟩)))
    | empty h => exact .inr (.inr (.inr (.inr ⟨_, rfl, h, rfl, rfl⟩)))
  · intro h
    rcases h with ⟨_, rfl, i, s, _, hi, rfl, h, rfl, rfl⟩ | ⟨_, rfl, i, e, _, hi, rfl, h⟩ |
      ⟨_, rfl, n, hn, h⟩ | ⟨_, rfl, i, e, _, hi, rfl, h⟩ | ⟨_, rfl, h, rfl, rfl⟩
    · rw [Nat.zero_add]
      exact .scalar hi h
    · rw [Nat.zero_add]
      exact .child hi h
    · exact .node hn h
    · rw [Nat.zero_add]
      rcases h with ⟨_, rfl, key, value, rest, hentries, rfl, rfl⟩ | ⟨_, rfl, h⟩
      · exact .arguments hi hentries
      · exact .variant hi h
    · exact .empty h

theorem reports_scalar (s : ScalarField) : Reports (s.select r) (scalarFaults r s) := by
  rw [ScalarField.select]
  rcases r.resolve_eq_ok_or s.kind.text with ⟨hresolves, leaf, hleaf⟩ | ⟨hnot, herror⟩
  · rw [hleaf]
    exact .when_ok _ (fun h => h hresolves)
  · rw [herror]
    exact .when_error hnot

theorem reports_node {owner : String} {node : Option Node}
    (h : ∀ n, node = some n → Reports ((n.members owner).select r) ((n.members owner).Fault r)) :
    Reports (selectNode r owner node) (nodeFaults r owner node) := by
  cases node with
  | none =>
    refine Reports.ok [] fun place err hfault => ?_
    obtain ⟨n, hn, -⟩ := hfault
    cases hn
  | some n =>
    refine Reports.congr (F := (n.members owner).Fault r) ?_ fun place err => ?_
    · have hmap : selectNode r owner (some n) = (n.select r owner).map fun s =>
          [⟨.plain n.kind.name, n.kind.shape s⟩] := by
        rw [selectNode]
        cases n.select r owner <;> rfl
      rw [hmap, n.select_eq]
      exact (h n rfl).map
    · constructor
      · intro hfault
        obtain ⟨n', hn', hfault⟩ := hfault
        cases hn'
        exact hfault
      · exact fun hfault => ⟨n, rfl, hfault⟩

theorem reports_refuseArguments (e : Element) : Reports e.refuseArguments (argumentFaults e) := by
  unfold Element.refuseArguments
  cases hentries : e.arguments.entries with
  | nil =>
    refine Reports.ok () fun place err hfault => ?_
    obtain ⟨key, value, rest, h, -⟩ := hfault
    rw [hentries] at h
    cases h
  | cons entry rest =>
    refine Reports.error [] fun other err => ?_
    constructor
    · intro hfault
      obtain ⟨key, value, rest', h, hplace, herr⟩ := hfault
      rw [hentries] at h
      cases h
      exact ⟨hplace, herr⟩
    · intro h
      exact ⟨entry.1, entry.2, rest, hentries, h.1, h.2⟩

theorem reports_variant {e : Element} (h : Reports (e.members.select r) (e.members.Fault r)) :
    Reports (e.selectVariant r) (variantFaults r e) := by
  rw [Element.selectVariant, e.select_eq]
  exact Reports.bind 0 (reports_refuseArguments e) (fun _ _ => h.map.under 1)
    (Faults.from_under 1 _)

theorem reports_close {s : SelectionSet} (hempty : s.isEmpty = true ↔ m.IsEmpty) :
    Reports (s.close m.owner) (.when m.IsEmpty (.emptyObject m.owner)) := by
  unfold SelectionSet.close
  split
  · rename_i h
    exact .when_error (hempty.1 h)
  · rename_i h
    exact .when_ok _ (fun hm => h (hempty.2 hm))

theorem Members.isEmpty_selected_iff {leaves nested wrapped : List Selection}
    {fragments : List Fragment}
    (hleaves : m.scalars.mapM (ScalarField.select r) = .ok leaves)
    (hnested : m.children.mapM (Element.selectChild r) = .ok nested)
    (hwrapped : selectNode r m.owner m.node = .ok wrapped)
    (hfragments : m.variants.mapM (Element.selectVariant r) = .ok fragments) :
    SelectionSet.isEmpty ⟨leaves ++ nested ++ wrapped, fragments⟩ = true ↔ m.IsEmpty := by
  have hnode : wrapped = [] ↔ m.node = none := by
    cases hn : m.node with
    | none =>
      rw [hn] at hwrapped
      cases hwrapped
      exact iff_of_true rfl rfl
    | some n =>
      rw [hn, selectNode] at hwrapped
      obtain ⟨s, _, h⟩ := bind_eq_ok_iff.1 hwrapped
      cases h
      exact iff_of_false nofun nofun
  rw [Members.IsEmpty, ← hnode, ← eq_nil_iff_of_mapM hleaves, ← eq_nil_iff_of_mapM hnested,
    ← eq_nil_iff_of_mapM hfragments]
  simp [SelectionSet.isEmpty, and_assoc]

theorem Members.reports_select (m : Members) : Reports (m.select r) (m.Fault r) := by
  induction m using Members.induct with
  | step m ih =>
    refine Reports.congr ?_ Members.fault_iff
    rw [Members.select]
    -- each step's faults stand under its number, and those of the steps after it under greater ones
    have hfrom₃ := Faults.from_under 4 (.when m.IsEmpty (QueryError.emptyObject m.owner))
    have hfrom₂ := hfrom₃.under_or (.among 0 m.variants (variantFaults r))
    have hfrom₁ := hfrom₂.under_or (nodeFaults r m.owner m.node)
    have hfrom₀ := hfrom₁.under_or (.among 0 m.children (childFaults r))
    refine Reports.bind 0 (Reports.mapM 0 fun s _ => reports_scalar s)
      (fun leaves hleaves => ?_) hfrom₀
    refine Reports.bind 1 (Reports.mapM 0 fun e he => ?_) (fun nested hnested => ?_) hfrom₁
    · rw [Element.selectChild, e.select_eq]
      exact (ih _ (.child he)).map
    refine Reports.bind 2 (reports_node fun n hn => ih _ (.node hn))
      (fun wrapped hwrapped => ?_) hfrom₂
    refine Reports.bind 3 (Reports.mapM 0 fun e he => reports_variant (ih _ (.variant he)))
      (fun fragments hfragments => ?_) hfrom₃
    exact (reports_close (isEmpty_selected_iff hleaves hnested hwrapped hfragments)).under 4

theorem reports_compile (root : Element) (r : Registry) :
    Reports (root.compile r) (RootFault r root) := by
  cases hentries : root.arguments.entries with
  | nil =>
    have hcompile : root.compile r = (root.select r).map (Document.mk root.name) := by
      rw [Element.compile, ArgumentSet.isEmpty, hentries]
      cases root.select r <;> rfl
    rw [hcompile, root.select_eq]
    refine ((reports_select root.members).map.under 1).congr fun place err => ?_
    constructor
    · intro h
      cases h with
      | arguments h => exact absurd hentries h
      | members h => exact ⟨_, rfl, h⟩
    · intro h
      obtain ⟨rest, rfl, h⟩ := h
      exact .members h
  | cons entry rest =>
    have hcompile : root.compile r = .error (.rootArguments root.name.text) := by
      rw [Element.compile, ArgumentSet.isEmpty, hentries]
      rfl
    have harguments : root.arguments.entries ≠ [] := by
      rw [hentries]
      exact List.cons_ne_nil entry rest
    rw [hcompile]
    constructor
    · intro d hd
      cases hd
    · intro err herr
      cases herr
      refine ⟨[0], .arguments harguments, fun other err h => ?_⟩
      cases h with
      | arguments _ => exact .inr ⟨rfl, rfl⟩
      | members _ => exact .inl (List.cons_lt_cons_iff.2 (.inl Nat.zero_lt_one))

end Reports

theorem exists_compile_iff {root : Element} {r : Registry} : (∃ d, root.compile r = .ok d) ↔
    root.arguments.entries = [] ∧ ∀ m, root.members.Within m → m.Valid r := by
  rw [(reports_compile root r).exists_ok_iff, ← forall_not_fault_iff]
  constructor
  · intro h
    refine ⟨?_, fun place err hfault => h _ _ (.members hfault)⟩
    by_contra harguments
    exact h _ _ (.arguments harguments)
  · intro h place err hfault
    cases hfault with
    | arguments harguments => exact harguments h.1
    | members hfault => exact h.2 _ _ hfault

/-- A tree compiles if its root has no arguments and all that lies within it is valid, and not
otherwise. The error is that of the first fault. -/
theorem Element.compile_reports_first (root : Element) (r : Registry) :
    ((∃ d, root.compile r = .ok d) ↔
      root.arguments.entries = [] ∧ ∀ m, root.members.Within m → m.Valid r) ∧
    ∀ err, root.compile r = .error err ↔ (RootFault r root).First err :=
  ⟨exists_compile_iff, fun _ => (reports_compile root r).error_iff⟩

-- An empty list of nodes is reported before the variant that stands beside it.
example :
    Element.compile
      ⟨.ofWord "desk", none, .empty, [], [⟨.ofWord "tickets", none, .empty, [], [],
        some (.empty .list),
        [⟨.ofWord "note", none, ⟨[(.first, .count 1)]⟩, [], [], none, []⟩]⟩], none, []⟩
      .standard = .error (.emptyObject "Tickets.nodes") := by rfl

end Docket.Query
