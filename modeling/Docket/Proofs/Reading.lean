import Docket.Proofs.Conformance
import Docket.Proofs.Response
import Mathlib.Data.List.Forall2
/-!
Entries of a decoded response as they are read, told from the JSON that they were decoded from.
Every key that was selected is there, and what is read depends on the member of that name alone.
-/

namespace Docket

namespace Json

variable (key : String) (members : List (String × Json))

def Has : Prop := ∃ j, lookup key members = some j ∧ j.isNull = false

def Lacks : Prop := ∀ j, lookup key members = some j → j.isNull = true

def HasCount : Prop :=
  ∃ n h, lookup key members = some (.number (.integer n h)) ∧ 0 ≤ n ∧ n < 9223372036854775808

def MayHave (Holds : List (String × Json) → Prop) : Prop :=
  Lacks key members ∨ ∃ inner, lookup key members = some (.object inner) ∧ Holds inner

variable {key members}

theorem Lacks.not_has (h : Lacks key members) : ¬Has key members := by
  intro hhas
  obtain ⟨j, hj, hnull⟩ := hhas
  rw [h j hj] at hnull
  cases hnull

theorem mayHave_of_object {o : List (String × Json)} (h : lookup key members = some (.object o))
    (Holds : List (String × Json) → Prop) : MayHave key members Holds ↔ Holds o := by
  constructor
  · intro hmay
    rcases hmay with hlacks | ⟨inner, hinner, hholds⟩
    · exact absurd ⟨_, h, rfl⟩ hlacks.not_has
    · rw [h] at hinner
      cases hinner
      exact hholds
  · exact fun hholds => .inr ⟨o, h, hholds⟩

end Json

namespace Result

open Query (Identifier LeafType Shape SelectionSet Selection Fragment typenameField)

/-- A reader that succeeds exactly under a condition, what it then gives, and that it finds every
key it looks for. -/
structure Reading {α : Type} (x : Except ResponseError α) (can : Prop) (Gives : α → Prop) :
    Prop where
  total : can → ∃ a, x = .ok a
  sound : ∀ a, x = .ok a → can ∧ Gives a
  found : ∀ key, x ≠ .error (.keyNotFound key)

namespace Reading

variable {α β : Type} {x : Except ResponseError α} {can can' : Prop} {Gives Gives' : α → Prop}

theorem congr (h : Reading x can Gives) (hcan : can ↔ can') (hgives : ∀ a, Gives a → Gives' a) :
    Reading x can' Gives' where
  total hc := h.total (hcan.2 hc)
  sound a ha := ⟨hcan.1 (h.sound a ha).1, hgives a (h.sound a ha).2⟩
  found := h.found

theorem ok (a : α) : Reading (.ok a) True fun b => b = a where
  total _ := ⟨a, rfl⟩
  sound b hb := by
    cases hb
    exact ⟨trivial, rfl⟩
  found key := by simp

theorem refuse {key : String} {expected : Expectation} (hcan : ¬can) :
    Reading (.error (.unexpectedShape key expected)) can Gives where
  total h := absurd h hcan
  sound a ha := by cases ha
  found key := by simp

theorem bind {f : α → Except ResponseError β} {Then : α → β → Prop} (h : Reading x can Gives)
    (hf : ∀ a, Gives a → Reading (f a) can' (Then a)) :
    Reading (x >>= f) (can ∧ can') fun b => ∃ a, Gives a ∧ Then a b := by
  cases hx : x with
  | ok a =>
    obtain ⟨hcan, ha⟩ := h.sound a hx
    exact (hf a ha).congr (and_iff_right hcan).symm fun b hb => ⟨a, ha, hb⟩
  | error e =>
    refine ⟨fun hcan => ?_, nofun, fun key hkey => ?_⟩
    · obtain ⟨a, ha⟩ := h.total hcan.1
      rw [hx] at ha
      cases ha
    · cases hkey
      exact h.found key hx

theorem map {f : α → β} (h : Reading x can Gives) :
    Reading (x.map f) can fun b => ∃ a, Gives a ∧ f a = b := by
  have hmap : x.map f = x >>= fun a => .ok (f a) := by
    cases x <;> rfl
  rw [hmap]
  refine (h.bind fun a _ => ok (f a)).congr (and_iff_left trivial) fun b hb => ?_
  obtain ⟨a, ha, hb⟩ := hb
  exact ⟨a, ha, hb.symm⟩

theorem mapM {γ : Type} {f : α → Except ResponseError β} {Can : γ → Prop} {Gives : γ → β → Prop}
    {js : List γ} {l : List α}
    (h : List.Forall₂ (fun j a => Reading (f a) (Can j) (Gives j)) js l) :
    Reading (l.mapM f) (∀ j ∈ js, Can j) fun bs => List.Forall₂ Gives js bs := by
  induction h with
  | nil => exact (ok []).congr (by simp) fun bs hbs => hbs ▸ .nil
  | @cons j a js l hj _ ih =>
    rw [List.mapM_cons]
    refine (hj.bind fun b _ => ih.bind fun bs _ => ok (b :: bs)).congr ?_ ?_
    · rw [List.forall_mem_cons, and_true]
    · intro bs h
      obtain ⟨b, hb, bs', hbs, rfl⟩ := h
      exact .cons hb hbs

end Reading

/-- The set selects a field under the key, and no later one of that name. -/
def Selects (s : SelectionSet) (key : String) (shape : Shape) : Prop :=
  ∃ f, lastWith fieldKey key s.fields = some f ∧ f.shape = shape

def Response.Holds (r : Response) (members : List (String × Json)) (key : String) (shape : Shape) :
    Prop :=
  ∃ path v, Entries.get? key r.entries = some v.toEntry ∧
    decodeMember shape path (Json.lookup key members) = .ok v

theorem Record.typeName_toResponse (r : Record) : r.toResponse.typeName = r.typeName := by
  cases r
  rfl

def DecodedObject (s : SelectionSet) (j : Json) (r : Response) : Prop :=
  ∃ members path q, j = .object members ∧ Decoded s members path q ∧ r = q.toResponse

theorem DecodedObject.exists_members {s : SelectionSet} {j : Json} {r : Response}
    (h : DecodedObject s j r) : ∃ members, j = .object members := by
  obtain ⟨members, -, -, hmembers, -⟩ := h
  exact ⟨members, hmembers⟩

theorem DecodedObject.holds {s : SelectionSet} {members : List (String × Json)} {r : Response}
    (h : DecodedObject s (.object members) r) {key : String} {shape : Shape}
    (hs : Selects s key shape) : r.Holds members key shape := by
  obtain ⟨_, path, q, hmembers, hdecoded, rfl⟩ := h
  cases hmembers
  obtain ⟨f, hf, rfl⟩ := hs
  obtain ⟨v, hv, hdecode⟩ := hdecoded.member hf
  exact ⟨_, v, by rw [q.get?_toResponse, hv]; rfl, hdecode⟩

section Holds

variable {r : Response} {members : List (String × Json)} {key : String} {shape : Shape}

theorem Response.Holds.null_or (h : r.Holds members key shape) :
    (Json.Lacks key members ∧ Entries.get? key r.entries = some .null) ∨
      ∃ j path v, Json.lookup key members = some j ∧ j.isNull = false ∧
        decodeShape shape j path = .ok v ∧ Entries.get? key r.entries = some v.toEntry := by
  obtain ⟨path, v, hget, hdecode⟩ := h
  rcases decodeMember_eq_ok_iff.1 hdecode with ⟨hnull, rfl⟩ | ⟨j, hj, hnull, hshape⟩
  · refine .inl ⟨fun j hj => ?_, hget⟩
    rw [hj] at hnull
    exact hnull
  · exact .inr ⟨j, path, v, hj, hnull, hshape, hget⟩

theorem reading_text {type : LeafType} {Shows : String → String → Prop}
    (hleaf : ∀ j v, decodeLeaf type j = .ok v →
      ∃ s t, j = .string s ∧ v.toEntry = .text t ∧ Shows s t)
    (h : r.Holds members key (.leaf type)) :
    Reading (r.text key) (Json.Has key members)
      fun t => ∃ s, Json.lookup key members = some (.string s) ∧ Shows s t := by
  rcases h.null_or with ⟨hlacks, hget⟩ | ⟨j, path, v, hj, hnull, hshape, hget⟩
  · simp only [Response.text, Response.get, hget]
    exact .refuse hlacks.not_has
  · rw [decodeShape] at hshape
    obtain ⟨s, t, rfl, ht, hshows⟩ := hleaf j v (placed_eq_ok_iff.1 hshape)
    rw [ht] at hget
    simp only [Response.text, Response.get, hget]
    refine (Reading.ok t).congr (iff_of_true trivial ⟨_, hj, hnull⟩) fun t' ht' => ?_
    exact ⟨s, hj, ht' ▸ hshows⟩

theorem decodeLeaf_string {j : Json} {v : Value} (h : decodeLeaf .string j = .ok v) :
    ∃ s t, j = .string s ∧ v.toEntry = .text t ∧ s = t := by
  cases j with
  | string s =>
    cases h
    exact ⟨s, s, rfl, rfl, rfl⟩
  | _ => cases h

theorem decodeLeaf_uri {j : Json} {v : Value} (h : decodeLeaf .uri j = .ok v) :
    ∃ s t, j = .string s ∧ v.toEntry = .text t ∧ ∃ u, Url.read s = .ok u ∧ t = u.write := by
  cases j with
  | string s =>
    cases hread : Url.read s with
    | ok u =>
      simp only [decodeLeaf, asText, bind, Except.bind, hread] at h
      cases h
      exact ⟨s, u.write, rfl, rfl, u, hread, rfl⟩
    | error e =>
      simp only [decodeLeaf, asText, bind, Except.bind, hread] at h
      cases h
  | _ => cases h

theorem decodeLeaf_dateTime {j : Json} {v : Value} (h : decodeLeaf .dateTime j = .ok v) :
    ∃ s t, j = .string s ∧ v.toEntry = .text t ∧
      ∃ i, Calendar.Instant.read s = .ok i ∧ t = i.write := by
  cases j with
  | string s =>
    cases hread : Calendar.Instant.read s with
    | ok i =>
      simp only [decodeLeaf, asText, bind, Except.bind, hread] at h
      cases h
      exact ⟨s, i.write, rfl, rfl, i, hread, rfl⟩
    | error e =>
      simp only [decodeLeaf, asText, bind, Except.bind, hread] at h
      cases h
  | _ => cases h

theorem reading_count (h : r.Holds members key (.leaf .int)) :
    Reading (r.count key) (Json.HasCount key members)
      fun n => ∃ hn, Json.lookup key members = some (.number (.integer n hn)) := by
  rcases h.null_or with ⟨hlacks, hget⟩ | ⟨j, path, v, hj, hnull, hshape, hget⟩
  · simp only [Response.count, Response.int, Response.get, hget]
    refine .refuse fun hcount => ?_
    obtain ⟨n, hn, hj, -⟩ := hcount
    exact hlacks.not_has ⟨_, hj, rfl⟩
  · rw [decodeShape] at hshape
    have hleaf := placed_eq_ok_iff.1 hshape
    rw [decodeLeaf] at hleaf
    cases hint : j.asInt? with
    | none =>
      rw [hint] at hleaf
      cases hleaf
    | some n =>
      rw [hint] at hleaf
      cases hleaf
      obtain ⟨hn, rfl, hlt⟩ := asInt?_eq_some_iff.1 hint
      have hcount : r.count key =
          if 0 ≤ n then .ok n.toNat else .error (.unexpectedShape key .natural) := by
        simp only [Response.count, Response.int, Response.get, hget]
        rfl
      rw [hcount]
      by_cases hpos : 0 ≤ n
      · rw [if_pos hpos]
        refine (Reading.ok n.toNat).congr (iff_of_true trivial ⟨n, hn, hj, hpos, hlt⟩)
          fun m hm => ?_
        obtain rfl : n = (m : Int) := by omega
        exact ⟨hn, hj⟩
      · rw [if_neg hpos]
        refine .refuse fun h => ?_
        obtain ⟨n', hn', hj', hpos', -⟩ := h
        rw [hj] at hj'
        cases hj'
        exact hpos hpos'

theorem Response.Holds.object_or {s : SelectionSet} (h : r.Holds members key (.object s)) :
    (Json.Lacks key members ∧ Entries.get? key r.entries = some .null) ∨
      ∃ inner o, Json.lookup key members = some (.object inner) ∧
        DecodedObject s (.object inner) o ∧
        Entries.get? key r.entries = some (.object o) := by
  rcases h.null_or with hnull | ⟨j, path, v, hj, -, hshape, hget⟩
  · exact .inl hnull
  · rw [decodeShape] at hshape
    obtain ⟨q, hq, rfl⟩ := map_eq_ok_iff.1 hshape
    obtain ⟨inner, rfl, hdecoded⟩ := decodeSet_ok hq
    exact .inr ⟨inner, q.toResponse, hj, ⟨inner, path, q, rfl, hdecoded, rfl⟩, hget⟩

theorem forall₂_of_decodeItems {decode : Json → Path → Except DecodeError Value} {path : Path}
    {i : Nat} {items : List Json} {vs : List Value} (h : decodeItems decode path i items = .ok vs) :
    List.Forall₂ (fun j v => (j.isNull = true ∧ v = .null) ∨
      (j.isNull = false ∧ ∃ p, decode j p = .ok v)) items vs := by
  obtain ⟨hlength, hall⟩ := decodeItems_ok h
  refine List.forall₂_iff_get.2 ⟨hlength.symm, fun k hk hk' => ?_⟩
  refine (hall k _ _ (List.getElem?_eq_getElem hk) (List.getElem?_eq_getElem hk')).imp_right ?_
  intro hdecode
  exact ⟨hdecode.1, _, hdecode.2⟩

theorem exists_objectsOf? {s : SelectionSet} {items : List Json} {vs : List Value}
    (h : List.Forall₂ (fun j v => (j.isNull = true ∧ v = .null) ∨
      (j.isNull = false ∧ ∃ p, decodeShape (.object s) j p = .ok v)) items vs) :
    ∃ os, Response.objectsOf? (vs.map Value.toEntry) = some os ∧
      List.Forall₂ (DecodedObject s) (items.filter fun j => !j.isNull) os := by
  induction h with
  | nil => exact ⟨[], rfl, .nil⟩
  | @cons j v items vs hv _ ih =>
    obtain ⟨os, hos, hdecoded⟩ := ih
    rcases hv with ⟨hnull, rfl⟩ | ⟨hnull, p, hv⟩
    · refine ⟨os, hos, ?_⟩
      rwa [List.filter_cons_of_neg (by simp [hnull])]
    · rw [decodeShape] at hv
      obtain ⟨q, hq, rfl⟩ := map_eq_ok_iff.1 hv
      obtain ⟨inner, rfl, hinner⟩ := decodeSet_ok hq
      refine ⟨q.toResponse :: os, ?_, ?_⟩
      · rw [List.map_cons, Value.toEntry, Response.objectsOf?, hos]
        rfl
      · rw [List.filter_cons_of_pos (by simp [hnull])]
        exact .cons ⟨inner, p, q, rfl, hinner, rfl⟩ hdecoded

theorem Response.Holds.list_or {s : SelectionSet} (h : r.Holds members key (.list (.object s))) :
    (Json.Lacks key members ∧ r.objects key = .error (.unexpectedShape key .list)) ∨
      ∃ items os, Json.lookup key members = some (.array items) ∧ r.objects key = .ok os ∧
        List.Forall₂ (DecodedObject s) (items.filter fun j => !j.isNull) os := by
  rcases h.null_or with ⟨hlacks, hget⟩ | ⟨j, path, v, hj, -, hshape, hget⟩
  · refine .inl ⟨hlacks, ?_⟩
    rw [Response.objects, Response.get, hget]
    rfl
  · obtain ⟨items, vs, rfl, rfl, hitems⟩ := decodeShape_list_ok hshape
    obtain ⟨os, hos, hdecoded⟩ := exists_objectsOf? (forall₂_of_decodeItems hitems)
    refine .inr ⟨items, os, hj, Response.objects_eq_ok_iff.2 ⟨_, hget, ?_⟩, hdecoded⟩
    rw [toEntries_eq_map, hos]

end Holds

end Result

end Docket
