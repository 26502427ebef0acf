import Docket.Proofs.Except
import Docket.Proofs.Members
import Docket.Proofs.Names
/-!
How kinds are resolved. The earliest resolver that claims a kind decides it, in whatever casing the
kind is written; where no kind is claimed twice, the order of the resolvers does not matter. A tree
keeps its kinds in title case, and compiles each scalar to the type of its kind as it was written.
-/

namespace Docket

theorem Text.sameLetters_iff {s t : String} : sameLetters s t = true ↔ lowered s = lowered t := by
  rw [sameLetters, beq_iff_eq, lowered, lowered, String.ofList_inj]

namespace Query

namespace Registry

def IsApart (r : Registry) : Prop :=
  r.resolvers.Pairwise fun claim other =>
    ∀ kind, claim (Text.lowered kind) = none ∨ other (Text.lowered kind) = none

def Decides (r : Registry) (kind : String) (leaf : LeafType) : Prop :=
  ∃ before claim after, r.resolvers = before ++ claim :: after ∧
    (∀ other ∈ before, other (Text.lowered kind) = none) ∧ claim (Text.lowered kind) = some leaf

/-- Two registries find one type for two kinds, or both report the kind as it is written. -/
def Agree (r : Registry) (kind : String) (r' : Registry) (kind' : String) : Prop :=
  (∃ leaf, r.resolve kind = .ok leaf ∧ r'.resolve kind' = .ok leaf) ∨
    (r.resolve kind = .error (.unknownScalarKind kind) ∧
      r'.resolve kind' = .error (.unknownScalarKind kind'))

section Resolve

variable {r r' : Registry} {kind kind' : String} {leaf : LeafType}

theorem resolve_eq_ok_iff : r.resolve kind = .ok leaf ↔ r.Decides kind leaf := by
  have hfind : r.resolve kind = .ok leaf ↔
      (r.resolvers.findSome? fun claim => claim (Text.lowered kind)) = some leaf := by
    unfold resolve
    cases r.resolvers.findSome? fun claim => claim (Text.lowered kind) <;> simp
  rw [hfind, List.findSome?_eq_some_iff]
  constructor
  · intro h
    obtain ⟨before, claim, after, hsplit, hclaim, hbefore⟩ := h
    exact ⟨before, claim, after, hsplit, hbefore, hclaim⟩
  · intro h
    obtain ⟨before, claim, after, hsplit, hbefore, hclaim⟩ := h
    exact ⟨before, claim, after, hsplit, hclaim, hbefore⟩

theorem resolve_eq_error_iff {e : QueryError} : r.resolve kind = .error e ↔
    e = .unknownScalarKind kind ∧ ∀ claim ∈ r.resolvers, claim (Text.lowered kind) = none := by
  rw [← List.findSome?_eq_none_iff]
  unfold resolve
  cases r.resolvers.findSome? fun claim => claim (Text.lowered kind) <;> simp [eq_comm]

theorem IsApart.resolve_eq_ok_iff (h : r.IsApart) :
    r.resolve kind = .ok leaf ↔ ∃ claim ∈ r.resolvers, claim (Text.lowered kind) = some leaf := by
  rw [Registry.resolve_eq_ok_iff]
  constructor
  · intro hfirst
    obtain ⟨before, claim, after, hsplit, -, hclaim⟩ := hfirst
    have hmem : claim ∈ r.resolvers := by
      rw [hsplit]
      exact List.mem_append_right _ List.mem_cons_self
    exact ⟨claim, hmem, hclaim⟩
  · intro hsome
    obtain ⟨claim, hmem, hclaim⟩ := hsome
    obtain ⟨before, after, hsplit⟩ := List.append_of_mem hmem
    refine ⟨before, claim, after, hsplit, fun other hother => ?_, hclaim⟩
    rw [IsApart, hsplit, List.pairwise_append] at h
    rcases h.2.2 other hother claim List.mem_cons_self kind with hnone | hnone
    · exact hnone
    · rw [hnone] at hclaim
      cases hclaim

theorem IsApart.perm (h : r.IsApart) (hperm : r.resolvers.Perm r'.resolvers) : r'.IsApart :=
  hperm.pairwise h fun hapart kind => (hapart kind).symm

theorem IsApart.agree (h : r.IsApart) (hperm : r.resolvers.Perm r'.resolvers)
    (hkind : Text.lowered kind = Text.lowered kind') : r.Agree kind r' kind' := by
  cases hresolve : r.resolve kind with
  | ok leaf =>
    refine .inl ⟨leaf, hresolve, ?_⟩
    obtain ⟨claim, hmem, hclaim⟩ := h.resolve_eq_ok_iff.1 hresolve
    rw [hkind] at hclaim
    exact (h.perm hperm).resolve_eq_ok_iff.2 ⟨claim, hperm.mem_iff.1 hmem, hclaim⟩
  | error e =>
    obtain ⟨rfl, hnone⟩ := resolve_eq_error_iff.1 hresolve
    refine .inr ⟨hresolve, resolve_eq_error_iff.2 ⟨rfl, fun claim hmem => ?_⟩⟩
    rw [← hkind]
    exact hnone claim (hperm.mem_iff.2 hmem)

theorem Decides.register (h : r.Decides kind leaf) (claim : Resolver) :
    (r.register claim).Decides kind leaf := by
  obtain ⟨before, first, after, hsplit, hbefore, hfirst⟩ := h
  refine ⟨before, first, after ++ [claim], ?_, hbefore, hfirst⟩
  rw [Registry.register, hsplit, List.append_assoc, List.cons_append]

theorem Decides.foldl_register (h : r.Decides kind leaf) (claims : List Resolver) :
    (claims.foldl Registry.register r).Decides kind leaf := by
  induction claims generalizing r with
  | nil => exact h
  | cons claim claims ih => exact ih (h.register claim)

theorem resolve_eq_ok_congr (h : Text.lowered kind = Text.lowered kind') :
    r.resolve kind = .ok leaf ↔ r.resolve kind' = .ok leaf := by
  rw [resolve_eq_ok_iff, resolve_eq_ok_iff, Decides, Decides, h]

end Resolve

theorem standard_isApart : standard.IsApart := by
  refine List.pairwise_pair.2 fun kind => ?_
  by_cases hbuiltin : Resolver.builtin (Text.lowered kind) = none
  · exact .inl hbuiltin
  · refine .inr ?_
    unfold Resolver.builtin at hbuiltin
    split at hbuiltin
    case h_11 => exact absurd rfl hbuiltin
    all_goals
      rename_i hkind
      rw [hkind]
      rfl

end Registry

theorem ScalarField.read_eq_ok_iff {name kind : String} {s : ScalarField} :
    ScalarField.read name kind = .ok s ↔
      Identifier.read name = .ok s.name ∧ Identifier.read kind = .ok s.kind := by
  simp only [ScalarField.read, bind_eq_ok_iff, Except.ok.injEq]
  constructor
  · intro h
    obtain ⟨n, hname, k, hkind, rfl⟩ := h
    exact ⟨hname, hkind⟩
  · intro h
    obtain ⟨hname, hkind⟩ := h
    exact ⟨s.name, hname, s.kind, hkind, rfl⟩

theorem ScalarField.select_eq_ok_iff {r : Registry} {name kind : String} {s : ScalarField}
    (h : ScalarField.read name kind = .ok s) {f : Selection} :
    s.select r = .ok f ↔ ∃ leaf, r.resolve kind = .ok leaf ∧ f = ⟨.plain s.name, .leaf leaf⟩ := by
  have hkind := Identifier.lowered_of_read (ScalarField.read_eq_ok_iff.1 h).2
  simp only [ScalarField.select, bind_eq_ok_iff, Except.ok.injEq,
    Registry.resolve_eq_ok_congr hkind, eq_comm (b := f)]

namespace SelectionSet

inductive Part : SelectionSet → SelectionSet → Prop
  | object {s part : SelectionSet} {f : Selection} (hf : f ∈ s.fields)
      (h : f.shape = .object part) : Part s part
  | list {s part : SelectionSet} {f : Selection} (hf : f ∈ s.fields)
      (h : f.shape = .list (.object part)) : Part s part
  | fragment {s : SelectionSet} {f : Fragment} (hf : f ∈ s.fragments) : Part s f.selections

theorem Part.wrapper {s part : SelectionSet} {head : FieldHead} {kind : NodeKind}
    (hf : ⟨head, kind.shape part⟩ ∈ s.fields) : Part s part := by
  cases kind with
  | single => exact .object hf rfl
  | list => exact .list hf rfl

def Within : SelectionSet → SelectionSet → Prop := Relation.ReflTransGen Part

end SelectionSet

section Compile

variable {r : Registry} {m part : Members} {s : SelectionSet}

structure Members.Compiled (r : Registry) (m : Members) (s : SelectionSet) : Prop where
  scalar : ∀ (i : Nat) (f : ScalarField), m.scalars[i]? = some f →
    ∃ leaf, f.select r = .ok leaf ∧ s.fields[i]? = some leaf
  child : ∀ e ∈ m.children, ∃ part, e.select r = .ok part ∧ s.Part part
  node : ∀ n, m.node = some n → ∃ part, n.select r m.owner = .ok part ∧ s.Part part
  variant : ∀ e ∈ m.variants, ∃ part, e.select r = .ok part ∧ s.Part part

theorem Members.exists_fields_of_select (h : m.select r = .ok s) : ∃ leaves nested wrapped,
    s.fields = leaves ++ nested ++ wrapped ∧
    m.scalars.mapM (ScalarField.select r) = .ok leaves ∧
    m.children.mapM (Element.selectChild r) = .ok nested ∧
    selectNode r m.owner m.node = .ok wrapped ∧
    m.variants.mapM (Element.selectVariant r) = .ok s.fragments := by
  simp only [Members.select, bind_eq_ok_iff] at h
  obtain ⟨leaves, hleaves, nested, hnested, wrapped, hwrapped, fragments, hfragments, hclose⟩ := h
  unfold SelectionSet.close at hclose
  split at hclose
  · cases hclose
  · obtain rfl := Except.ok.inj hclose
    exact ⟨leaves, nested, wrapped, rfl, hleaves, hnested, hwrapped, hfragments⟩

theorem Members.compiled_of_select (h : m.select r = .ok s) : m.Compiled r s := by
  obtain ⟨leaves, nested, wrapped, hfields, hleaves, hnested, hwrapped, hfragments⟩ :=
    exists_fields_of_select h
  refine ⟨fun i f hi => ?_, fun e he => ?_, fun n hn => ?_, fun e he => ?_⟩
  · obtain ⟨leaf, hleaf, hget⟩ := getElem?_of_mapM hleaves hi
    have hlt := (List.getElem?_eq_some_iff.1 hget).1
    refine ⟨leaf, hleaf, ?_⟩
    rw [hfields, List.append_assoc, List.getElem?_append_left hlt, hget]
  · obtain ⟨i, hi⟩ := List.mem_iff_getElem?.1 he
    obtain ⟨f, hf, hget⟩ := getElem?_of_mapM hnested hi
    obtain ⟨part, hpart, rfl⟩ := map_eq_ok_iff.1 hf
    have hmem := List.mem_of_getElem? hget
    have hfield : ⟨e.head, .object part⟩ ∈ s.fields := by
      rw [hfields]
      exact List.mem_append_left _ (List.mem_append_right _ hmem)
    exact ⟨part, hpart, .object hfield rfl⟩
  · rw [hn, selectNode] at hwrapped
    obtain ⟨part, hpart, hw⟩ := bind_eq_ok_iff.1 hwrapped
    cases hw
    have hfield : ⟨.plain n.kind.name, n.kind.shape part⟩ ∈ s.fields := by
      rw [hfields]
      exact List.mem_append_right _ List.mem_cons_self
    exact ⟨part, hpart, .wrapper hfield⟩
  · obtain ⟨i, hi⟩ := List.mem_iff_getElem?.1 he
    obtain ⟨f, hf, hget⟩ := getElem?_of_mapM hfragments hi
    simp only [Element.selectVariant, bind_eq_ok_iff, map_eq_ok_iff] at hf
    obtain ⟨-, -, part, hpart, rfl⟩ := hf
    exact ⟨part, hpart, .fragment (f := ⟨e.name, part⟩) (List.mem_of_getElem? hget)⟩

theorem Members.exists_select_of_part (h : m.Part part) (hs : m.select r = .ok s) :
    ∃ inner, part.select r = .ok inner ∧ s.Part inner := by
  have hcompiled := compiled_of_select hs
  cases h with
  | child he =>
    obtain ⟨inner, hinner, hpart⟩ := hcompiled.child _ he
    exact ⟨inner, by rw [← Element.select_eq, hinner], hpart⟩
  | node hn =>
    obtain ⟨inner, hinner, hpart⟩ := hcompiled.node _ hn
    exact ⟨inner, by rw [← Node.select_eq, hinner], hpart⟩
  | variant he =>
    obtain ⟨inner, hinner, hpart⟩ := hcompiled.variant _ he
    exact ⟨inner, by rw [← Element.select_eq, hinner], hpart⟩

theorem Members.exists_select_of_within (h : m.Within part) (hs : m.select r = .ok s) :
    ∃ inner, part.select r = .ok inner ∧ s.Within inner := by
  induction h with
  | refl => exact ⟨s, hs, .refl⟩
  | tail _ hpart ih =>
    obtain ⟨mid, hmid, hwithin⟩ := ih
    obtain ⟨inner, hinner, hlast⟩ := exists_select_of_part hpart hmid
    exact ⟨inner, hinner, hwithin.tail hlast⟩

theorem Element.select_of_compile {root : Element} {d : Document} (h : root.compile r = .ok d) :
    root.members.select r = .ok d.selections := by
  unfold Element.compile at h
  split at h
  · cases h
  · obtain ⟨s, hs, hd⟩ := bind_eq_ok_iff.1 h
    cases hd
    rw [← Element.select_eq, hs]

end Compile

/-- Wherever a scalar of the kind stands in a compiled tree, its selection has the type that the
registry finds for the kind as it is written. -/
def Registry.Types (r : Registry) (root : Element) (name kind : String) : Prop :=
  ∀ d, root.compile r = .ok d → ∀ m, root.members.Within m →
    ∃ set, m.select r = .ok set ∧ d.selections.Within set ∧
      ∀ (i : Nat) (s : ScalarField), ScalarField.read name kind = .ok s → m.scalars[i]? = some s →
        ∃ leaf, r.resolve kind = .ok leaf ∧ set.fields[i]? = some ⟨.plain s.name, .leaf leaf⟩

theorem Registry.types (r : Registry) (root : Element) (name kind : String) :
    r.Types root name kind := by
  intro d hd m hwithin
  obtain ⟨set, hset, hinner⟩ :=
    Members.exists_select_of_within hwithin (Element.select_of_compile hd)
  refine ⟨set, hset, hinner, fun i s hs hi => ?_⟩
  obtain ⟨f, hf, hget⟩ := (Members.compiled_of_select hset).scalar i s hi
  obtain ⟨leaf, hleaf, rfl⟩ := (ScalarField.select_eq_ok_iff hs).1 hf
  exact ⟨leaf, hleaf, hget⟩

/-- The earliest resolver that claims a kind decides it, and with no claim the kind is reported; if
no kind is claimed twice, the order of the resolvers and the casing of the kind do not matter. A
resolver that is added later changes no kind that is known. A scalar has the type of its kind as
written. -/
theorem Registry.resolve_tells (r : Registry) :
    (∀ kind leaf, r.resolve kind = .ok leaf ↔ r.Decides kind leaf) ∧
    (∀ kind e, r.resolve kind = .error e ↔
      e = .unknownScalarKind kind ∧ ∀ claim ∈ r.resolvers, claim (Text.lowered kind) = none) ∧
    (r.IsApart → ∀ r' kind kind', r.resolvers.Perm r'.resolvers →
      Text.sameLetters kind kind' = true → r.Agree kind r' kind') ∧
    (∀ kind leaf, r.resolve kind = .ok leaf →
      ∀ claims : List Resolver, (claims.foldl register r).resolve kind = .ok leaf) ∧
    ∀ name kind, isWord name.toList = true → isWord kind.toList = true →
      (∃ s, ScalarField.read name kind = .ok s ∧ ∀ f, s.select r = .ok f ↔
        ∃ leaf, r.resolve kind = .ok leaf ∧ f = ⟨.plain s.name, .leaf leaf⟩) ∧
      ∀ root, r.Types root name kind := by
  refine ⟨fun _ _ => resolve_eq_ok_iff, fun _ _ => resolve_eq_error_iff, ?_, ?_, ?_⟩
  · intro hapart r' kind kind' hperm hkind
    exact hapart.agree hperm (Text.sameLetters_iff.1 hkind)
  · intro kind leaf hleaf claims
    exact resolve_eq_ok_iff.2 ((resolve_eq_ok_iff.1 hleaf).foldl_register claims)
  · intro name kind hname hkind
    obtain ⟨n, hn⟩ := Identifier.exists_read_iff.2 hname
    obtain ⟨k, hk⟩ := Identifier.exists_read_iff.2 hkind
    have hs : ScalarField.read name kind = .ok ⟨n, k⟩ := ScalarField.read_eq_ok_iff.2 ⟨hn, hk⟩
    exact ⟨⟨⟨n, k⟩, hs, fun _ => ScalarField.select_eq_ok_iff hs⟩,
      fun root => r.types root name kind⟩

theorem Registry.resolve_tells_swapped : standard.IsApart ∧
    standard.resolvers.Perm [Resolver.enums, Resolver.builtin] ∧
    Text.sameLetters "iD" "Id" = true ∧ Text.sameLetters "issuestate" "IssueState" = true ∧
    standard.Agree "iD" ⟨[Resolver.enums, Resolver.builtin]⟩ "Id" ∧
    standard.Agree "issuestate" ⟨[Resolver.enums, Resolver.builtin]⟩ "IssueState" := by
  have hperm : standard.resolvers.Perm [Resolver.enums, Resolver.builtin] := .swap _ _ []
  have hagree :=
    (resolve_tells standard).2.2.1 standard_isApart ⟨[Resolver.enums, Resolver.builtin]⟩
  exact ⟨standard_isApart, hperm, by decide, by decide, hagree _ _ hperm (by decide),
    hagree _ _ hperm (by decide)⟩

-- A kind that two resolvers claim has the type that the first of them gives it.
example : Registry.resolve ⟨[.only "date" .string, .builtin]⟩ "DATE" = .ok .string ∧
    Registry.resolve ⟨[.builtin, .only "date" .string]⟩ "DATE" = .ok .date := by
  decide

end Query

end Docket
