import Docket.Proofs.Except
import Docket.Proofs.Names
import Docket.Result.Decode
import Mathlib.Tactic.Common
/-!
What decoding gives where it succeeds. A record is made of one entry for each field and each
fragment, put in one after the other, so that under a name taken twice the last one stays; fields
and fragments never take each other's names.
-/

namespace Docket

namespace Result

open Query (LeafType Shape SelectionSet Selection Fragment Document typenameField)

def lastWith {α : Type} (key : α → String) (k : String) (l : List α) : Option α :=
  l.reverse.find? fun a => key a == k

theorem lastWith_cons {α : Type} (key : α → String) (k : String) (a : α) (l : List α) :
    lastWith key k (a :: l) = (lastWith key k l).or (if key a = k then some a else none) := by
  by_cases h : key a = k <;> simp [lastWith, List.find?_append, h]

theorem mem_of_lastWith {α : Type} {key : α → String} {k : String} {a : α} {l : List α}
    (h : lastWith key k l = some a) : a ∈ l ∧ key a = k := by
  refine ⟨List.mem_reverse.1 (List.mem_of_find?_eq_some h), ?_⟩
  simpa using List.find?_some h

theorem lastWith_eq_none_iff {α : Type} {key : α → String} {k : String} {l : List α} :
    lastWith key k l = none ↔ k ∉ l.map key := by
  simp [lastWith]

theorem exists_lastWith {α : Type} {key : α → String} {k : String} {l : List α}
    (h : k ∈ l.map key) : ∃ a, lastWith key k l = some a :=
  Option.ne_none_iff_exists'.1 fun hnone => lastWith_eq_none_iff.1 hnone h

def entry {α ε β : Type} (key : α → String) (decode : α → Except ε β) (a : α) :
    Except ε (String × β) := (decode a).map fun v => (key a, v)

theorem entry_eq_ok_iff {α ε β : Type} {key : α → String} {decode : α → Except ε β} {a : α}
    {kv : String × β} : entry key decode a = .ok kv ↔ kv.1 = key a ∧ decode a = .ok kv.2 := by
  rw [entry, map_eq_ok_iff]
  constructor
  · rintro ⟨v, hv, rfl⟩
    exact ⟨rfl, hv⟩
  · rintro ⟨hkey, hv⟩
    exact ⟨kv.2, hv, by rw [← hkey]⟩

theorem map_fst_of_entries {α ε β : Type} {key : α → String} {decode : α → Except ε β}
    {l : List α} {kvs : List (String × β)} (h : l.map (entry key decode) = kvs.map .ok) :
    kvs.map Prod.fst = l.map key := by
  induction l generalizing kvs with
  | nil =>
    rw [List.map_eq_nil_iff.1 h.symm]
    rfl
  | cons a l ih =>
    cases kvs with
    | nil => cases h
    | cons kv kvs =>
      obtain ⟨ha, hl⟩ := List.cons.inj h
      rw [List.map_cons, List.map_cons, (entry_eq_ok_iff.1 ha).1, ih hl]

theorem lastWith_of_entries {α ε β : Type} {key : α → String} {decode : α → Except ε β}
    {l : List α} {kvs : List (String × β)} (h : l.map (entry key decode) = kvs.map .ok)
    {k : String} {a : α} (ha : lastWith key k l = some a) :
    ∃ v, lastWith Prod.fst k kvs = some (k, v) ∧ decode a = .ok v := by
  induction l generalizing kvs with
  | nil => cases ha
  | cons b l ih =>
    cases kvs with
    | nil => cases h
    | cons kv kvs =>
      obtain ⟨hb, hl⟩ := List.cons.inj h
      rw [lastWith_cons] at ha
      -- the first element counts only if no later one has its key
      cases hlast : lastWith key k l with
      | some c =>
        rw [hlast] at ha
        obtain rfl := Option.some.inj ha
        obtain ⟨v, hv, hdecode⟩ := ih hl hlast
        exact ⟨v, by rw [lastWith_cons, hv]; rfl, hdecode⟩
      | none =>
        rw [hlast, Option.none_or] at ha
        have hnone : lastWith Prod.fst k kvs = none := by
          rw [lastWith_eq_none_iff, map_fst_of_entries hl]
          exact lastWith_eq_none_iff.1 hlast
        obtain ⟨hkey, hdecode⟩ := entry_eq_ok_iff.1 hb
        split at ha
        · rename_i hk
          cases ha
          rw [hk] at hkey
          refine ⟨kv.2, ?_, hdecode⟩
          rw [lastWith_cons, hnone, Option.none_or, if_pos hkey, ← hkey]
        · cases ha

namespace Record

def insertAll (r : Record) (kvs : List (String × Value)) : Record :=
  kvs.foldl (fun r kv => r.insert kv.1 kv.2) r

theorem typeName_insertAll (r : Record) (kvs : List (String × Value)) :
    (r.insertAll kvs).typeName = r.typeName := by
  induction kvs generalizing r with
  | nil => rfl
  | cons kv kvs ih => exact ih _

theorem get?_insertAll (r : Record) (kvs : List (String × Value)) (k : String) :
    (r.insertAll kvs).get? k = ((lastWith Prod.fst k kvs).map Prod.snd).or (r.get? k) := by
  induction kvs generalizing r with
  | nil => rfl
  | cons kv kvs ih =>
    have hstep : (r.insert kv.1 kv.2).get? k = if kv.1 = k then some kv.2 else r.get? k := by
      by_cases h : kv.1 = k
      · simp [get?, insert, ← h, Entries.get?_put_self]
      · simp [get?, insert, h, Entries.get?_put_of_ne (Ne.symm h)]
    rw [insertAll, List.foldl_cons, ← insertAll, ih, hstep, lastWith_cons]
    cases lastWith Prod.fst k kvs with
    | none => by_cases h : kv.1 = k <;> simp [h]
    | some a => simp

theorem keys_insertAll (r : Record) (kvs : List (String × Value)) :
    Entries.keys (r.insertAll kvs).fields =
      Entries.keys r.fields ++
        ((kvs.map Prod.fst).removeAll (Entries.keys r.fields)).eraseDups := by
  induction kvs generalizing r with
  | nil => simp [insertAll, List.removeAll]
  | cons kv kvs ih =>
    have hput : Entries.keys (r.insert kv.1 kv.2).fields =
        if kv.1 ∈ Entries.keys r.fields then Entries.keys r.fields
        else Entries.keys r.fields ++ [kv.1] := Entries.keys_put kv.1 kv.2 r.fields
    rw [insertAll, List.foldl_cons, ← insertAll, List.map_cons, ih, hput]
    by_cases hmem : kv.1 ∈ Entries.keys r.fields
    · simp [hmem, List.removeAll]
    · have hrest : (kvs.map Prod.fst).removeAll (Entries.keys r.fields ++ [kv.1]) =
          ((kvs.map Prod.fst).removeAll (Entries.keys r.fields)).filter (!· == kv.1) := by
        rw [List.removeAll, List.removeAll, List.filter_filter]
        apply List.filter_congr
        intro k _
        simp [Bool.and_comm, Bool.beq_eq_decide_eq]
      have hcons : (kv.1 :: kvs.map Prod.fst).removeAll (Entries.keys r.fields) =
          kv.1 :: (kvs.map Prod.fst).removeAll (Entries.keys r.fields) := by
        simp [List.removeAll, hmem]
      rw [if_neg hmem, hrest, hcons, List.eraseDups_cons, List.append_assoc]
      rfl

theorem nodup_keys_insertAll (r : Record) (kvs : List (String × Value))
    (h : (Entries.keys r.fields).Nodup) : (Entries.keys (r.insertAll kvs).fields).Nodup := by
  induction kvs generalizing r with
  | nil => exact h
  | cons kv kvs ih => exact ih _ (Entries.nodup_keys_put h kv.1 kv.2)

end Record

def fieldKey (f : Selection) : String := f.head.responseKey

def fragmentKey (f : Fragment) : String := f.typeName.text

theorem fieldKey_ne_fragmentKey (f : Selection) (g : Fragment) : fieldKey f ≠ fragmentKey g :=
  Query.Identifier.fieldName_ne_text _ _

def decodeMember (shape : Shape) (path : Path) : Option Json → Except DecodeError Value
  | none => .ok .null
  | some j => if j.isNull then .ok .null else decodeShape shape j path

def decodeField (members : List (String × Json)) (path : Path) (f : Selection) :
    Except DecodeError Value :=
  decodeMember f.shape (path ++ [.key (fieldKey f)]) (Json.lookup (fieldKey f) members)

/-- A fragment of the concrete type is decoded from the same object, and one of another type is
null. -/
def decodeFragment (name : String) (j : Json) (path : Path) (f : Fragment) :
    Except DecodeError Value :=
  if fragmentKey f = name then (decodeSet f.selections j path).map .object else .ok .null

theorem decodeFields_eq (fields : List Selection) (members : List (String × Json)) (path : Path)
    (r : Record) : decodeFields fields members path r =
      (fields.mapM (entry fieldKey (decodeField members path))).map r.insertAll := by
  induction fields generalizing r with
  | nil => rfl
  | cons f fields ih =>
    obtain ⟨head, shape⟩ := f
    have hstep : decodeFields (⟨head, shape⟩ :: fields) members path r =
        entry fieldKey (decodeField members path) ⟨head, shape⟩ >>= fun kv =>
          decodeFields fields members path (r.insert kv.1 kv.2) := by
      rw [decodeFields, entry, decodeField]
      dsimp only [fieldKey]
      cases Json.lookup head.responseKey members with
      | none => rfl
      | some j =>
        rw [decodeMember]
        dsimp only
        split
        · rfl
        · cases decodeShape shape j (path ++ [.key head.responseKey]) <;> rfl
    rw [hstep, List.mapM_cons]
    cases entry fieldKey (decodeField members path) ⟨head, shape⟩ with
    | error e => rfl
    | ok kv =>
      show decodeFields fields members path (r.insert kv.1 kv.2) = _
      rw [ih]
      cases fields.mapM (entry fieldKey (decodeField members path)) <;> rfl

theorem decodeFragments_eq (fragments : List Fragment) (name : String) (j : Json) (path : Path)
    (r : Record) : decodeFragments fragments name j path r =
      (fragments.mapM (entry fragmentKey (decodeFragment name j path))).map r.insertAll := by
  induction fragments generalizing r with
  | nil => rfl
  | cons f fragments ih =>
    obtain ⟨typeName, set⟩ := f
    have hstep : decodeFragments (⟨typeName, set⟩ :: fragments) name j path r =
        entry fragmentKey (decodeFragment name j path) ⟨typeName, set⟩ >>= fun kv =>
          decodeFragments fragments name j path (r.insert kv.1 kv.2) := by
      rw [decodeFragments, entry, decodeFragment]
      dsimp only
      by_cases h : fragmentKey ⟨typeName, set⟩ = name
      · rw [if_pos h, if_pos (show typeName.text = name from h)]
        cases decodeSet set j path <;> rfl
      · rw [if_neg h, if_neg (show ¬typeName.text = name from h)]
        rfl
    rw [hstep, List.mapM_cons]
    cases entry fragmentKey (decodeFragment name j path) ⟨typeName, set⟩ with
    | error e => rfl
    | ok kv =>
      show decodeFragments fragments name j path (r.insert kv.1 kv.2) = _
      rw [ih]
      cases fragments.mapM (entry fragmentKey (decodeFragment name j path)) <;> rfl

theorem decodeItems_ok {decode : Json → Path → Except DecodeError Value} {path : Path} {i : Nat}
    {items : List Json} {vs : List Value} (h : decodeItems decode path i items = .ok vs) :
    vs.length = items.length ∧ ∀ (k : Nat) (j : Json) (v : Value), items[k]? = some j →
      vs[k]? = some v → (j.isNull = true ∧ v = .null) ∨
        (j.isNull = false ∧ decode j (path ++ [.index (i + k)]) = .ok v) := by
  induction items generalizing i vs with
  | nil =>
    cases h
    exact ⟨rfl, fun k j v hj => by cases hj⟩
  | cons item items ih =>
    have hstep : ∃ w ws, vs = w :: ws ∧ decodeItems decode path (i + 1) items = .ok ws ∧
        ((item.isNull = true ∧ w = .null) ∨
          (item.isNull = false ∧ decode item (path ++ [.index i]) = .ok w)) := by
      rw [decodeItems] at h
      cases hnull : item.isNull with
      | true =>
        simp only [hnull, if_true, bind_eq_ok_iff, Except.ok.injEq, exists_eq_left'] at h
        obtain ⟨ws, hws, rfl⟩ := h
        exact ⟨.null, ws, rfl, hws, .inl ⟨rfl, rfl⟩⟩
      | false =>
        simp only [hnull, Bool.false_eq_true, if_false, bind_eq_ok_iff, Except.ok.injEq] at h
        obtain ⟨w, hw, ws, hws, rfl⟩ := h
        exact ⟨w, ws, rfl, hws, .inr ⟨rfl, hw⟩⟩
    obtain ⟨w, ws, rfl, hws, hw⟩ := hstep
    obtain ⟨hlen, hall⟩ := ih hws
    refine ⟨by rw [List.length_cons, List.length_cons, hlen], fun k j v hj hv => ?_⟩
    cases k with
    | zero =>
      cases hj
      cases hv
      exact hw
    | succ k =>
      have hk := hall k j v hj hv
      rwa [Nat.add_assoc, Nat.add_comm 1 k] at hk

theorem decodeMember_eq_ok_iff {shape : Shape} {path : Path} {j : Option Json} {v : Value} :
    decodeMember shape path j = .ok v ↔ (j.all Json.isNull = true ∧ v = .null) ∨
      ∃ i, j = some i ∧ i.isNull = false ∧ decodeShape shape i path = .ok v := by
  have hnull : (.ok .null : Except DecodeError Value) = .ok v ↔ v = .null :=
    ⟨fun h => (Except.ok.inj h).symm, fun h => by rw [h]⟩
  cases j with
  | none => simp [decodeMember, hnull]
  | some i => cases hi : i.isNull <;> simp [decodeMember, hi, hnull]

theorem placed_eq_ok_iff {α : Type} {path : Path} {x : Except Mismatch α} {a : α} :
    placed path x = .ok a ↔ x = .ok a := by
  cases x <;> simp [placed]

theorem typenameOf_eq_ok_iff {members : List (String × Json)} {name : String} :
    typenameOf members = .ok name ↔ Json.lookup typenameField members = some (.string name) := by
  unfold typenameOf
  cases Json.lookup typenameField members with
  | none => simp
  | some j => cases j <;> simp [Json.asString?]

theorem decodeShape_list_ok {item : Shape} {j : Json} {path : Path} {v : Value}
    (h : decodeShape (.list item) j path = .ok v) :
    ∃ items vs, j = .array items ∧ v = .list vs ∧
      decodeItems (decodeShape item) path 0 items = .ok vs := by
  cases j with
  | array items =>
    obtain ⟨vs, hvs, rfl⟩ := map_eq_ok_iff.1 h
    exact ⟨items, vs, rfl, rfl, hvs⟩
  | _ => cases h

/-- What a record holds once a selection set is decoded from the members of an object. -/
structure Decoded (s : SelectionSet) (members : List (String × Json)) (path : Path)
    (r : Record) : Prop where
  keys : Entries.keys r.fields =
    (s.fields.map fieldKey).eraseDups ++ (s.fragments.map fragmentKey).eraseDups
  nodup : (Entries.keys r.fields).Nodup
  field : ∀ k f, lastWith fieldKey k s.fields = some f →
    ∃ v, r.get? k = some v ∧ decodeField members path f = .ok v
  plain : s.fragments = [] → r.typeName = none
  typed : s.fragments ≠ [] → ∃ name, typenameOf members = .ok name ∧ r.typeName = some name
  fragment : ∀ name k f, r.typeName = some name → lastWith fragmentKey k s.fragments = some f →
    ∃ v, r.get? k = some v ∧ decodeFragment name (.object members) path f = .ok v

namespace Decoded

variable {s : SelectionSet} {members : List (String × Json)} {path : Path} {r : Record}

theorem member (h : Decoded s members path r) {k : String} {f : Selection}
    (hf : lastWith fieldKey k s.fields = some f) :
    ∃ v, r.get? k = some v ∧
      decodeMember f.shape (path ++ [.key k]) (Json.lookup k members) = .ok v := by
  obtain ⟨v, hv, hdecode⟩ := h.field k f hf
  rw [decodeField, (mem_of_lastWith hf).2] at hdecode
  exact ⟨v, hv, hdecode⟩

theorem own (h : Decoded s members path r) {name : String} {f : Fragment}
    (hname : r.typeName = some name) (hf : lastWith fragmentKey name s.fragments = some f) :
    ∃ q, r.get? name = some (.object q) ∧
      decodeSet f.selections (.object members) path = .ok q := by
  obtain ⟨v, hv, hdecode⟩ := h.fragment name name f hname hf
  rw [decodeFragment, if_pos (mem_of_lastWith hf).2] at hdecode
  obtain ⟨q, hq, rfl⟩ := map_eq_ok_iff.1 hdecode
  exact ⟨q, hv, hq⟩

theorem other (h : Decoded s members path r) {name k : String} {f : Fragment}
    (hname : r.typeName = some name) (hf : lastWith fragmentKey k s.fragments = some f)
    (hne : k ≠ name) : r.get? k = some .null := by
  obtain ⟨v, hv, hdecode⟩ := h.fragment name k f hname hf
  rw [decodeFragment, (mem_of_lastWith hf).2, if_neg hne] at hdecode
  cases hdecode
  exact hv

end Decoded

theorem get?_insertAll_of_lastWith {kvs : List (String × Value)} {k : String} {v : Value}
    (h : lastWith Prod.fst k kvs = some (k, v)) (r : Record) :
    (r.insertAll kvs).get? k = some v := by
  rw [Record.get?_insertAll, h]
  rfl

theorem keys_insertAll_of_disjoint {r : Record} {kvs : List (String × Value)}
    (h : ∀ k ∈ kvs.map Prod.fst, k ∉ Entries.keys r.fields) :
    Entries.keys (r.insertAll kvs).fields =
      Entries.keys r.fields ++ (kvs.map Prod.fst).eraseDups := by
  have hnew : (kvs.map Prod.fst).removeAll (Entries.keys r.fields) = kvs.map Prod.fst := by
    apply List.filter_eq_self.2
    intro k hk
    simpa using h k hk
  rw [Record.keys_insertAll, hnew]

theorem decoded_insertAll {s : SelectionSet} {members : List (String × Json)} {path : Path}
    {kvs l : List (String × Value)} {q : Record}
    (hfields : s.fields.map (entry fieldKey (decodeField members path)) = kvs.map .ok)
    (hkeys' : l.map Prod.fst = s.fragments.map fragmentKey)
    (hq : q = (Record.empty.insertAll kvs).insertAll l) :
    Entries.keys q.fields =
        (s.fields.map fieldKey).eraseDups ++ (s.fragments.map fragmentKey).eraseDups ∧
      (Entries.keys q.fields).Nodup ∧
      ∀ k f, lastWith fieldKey k s.fields = some f →
        ∃ v, q.get? k = some v ∧ decodeField members path f = .ok v := by
  subst hq
  have hkeys : Entries.keys (Record.empty.insertAll kvs).fields =
      (s.fields.map fieldKey).eraseDups := by
    rw [keys_insertAll_of_disjoint (fun _ _ => List.not_mem_nil), map_fst_of_entries hfields]
    rfl
  have hapart : ∀ k ∈ l.map Prod.fst, k ∉ s.fields.map fieldKey := by
    intro k hk hk'
    rw [hkeys'] at hk
    obtain ⟨g, _, rfl⟩ := List.mem_map.1 hk
    obtain ⟨f, _, hf⟩ := List.mem_map.1 hk'
    exact fieldKey_ne_fragmentKey f g hf
  refine ⟨?_, ?_, fun k f hf => ?_⟩
  · have hnew : ∀ k ∈ l.map Prod.fst, k ∉ Entries.keys (Record.empty.insertAll kvs).fields := by
      intro k hk
      rw [hkeys, List.mem_eraseDups]
      exact hapart k hk
    rw [keys_insertAll_of_disjoint hnew, hkeys, hkeys']
  · exact Record.nodup_keys_insertAll _ _ (Record.nodup_keys_insertAll _ _ List.nodup_nil)
  · obtain ⟨v, hv, hdecode⟩ := lastWith_of_entries hfields hf
    refine ⟨v, ?_, hdecode⟩
    have hnone : lastWith Prod.fst k l = none := by
      rw [lastWith_eq_none_iff]
      intro hk
      obtain ⟨hmem, hkey⟩ := mem_of_lastWith hf
      exact hapart k hk (List.mem_map.2 ⟨f, hmem, hkey⟩)
    rw [Record.get?_insertAll, hnone, get?_insertAll_of_lastWith hv]
    rfl

theorem decodeSet_ok {s : SelectionSet} {j : Json} {path : Path} {r : Record}
    (h : decodeSet s j path = .ok r) :
    ∃ members, j = .object members ∧ Decoded s members path r := by
  obtain ⟨fields, fragments⟩ := s
  cases j with
  | object members =>
    refine ⟨members, rfl, ?_⟩
    rw [decodeSet, decodeFields_eq] at h
    obtain ⟨q, hq, h⟩ := bind_eq_ok_iff.1 h
    obtain ⟨kvs, hkvs, rfl⟩ := map_eq_ok_iff.1 hq
    have hfields := mapM_eq_ok_iff.1 hkvs
    cases fragments with
    | nil =>
      cases h
      obtain ⟨hkeys, hnodup, hfield⟩ := decoded_insertAll (s := ⟨fields, []⟩) (l := []) hfields
        rfl rfl
      exact {
        keys := hkeys
        nodup := hnodup
        field := hfield
        plain := fun _ => Record.typeName_insertAll _ _
        typed := fun hne => absurd rfl hne
        fragment := fun _ _ _ _ hf => by cases hf }
    | cons g rest =>
      obtain ⟨name, hname, h⟩ := bind_eq_ok_iff.1 h
      obtain ⟨q, hq, h⟩ := bind_eq_ok_iff.1 h
      cases h
      rw [decodeFragments_eq] at hq
      obtain ⟨kvs', hkvs', rfl⟩ := map_eq_ok_iff.1 hq
      have hfragments := mapM_eq_ok_iff.1 hkvs'
      obtain ⟨hkeys, hnodup, hfield⟩ := decoded_insertAll (s := ⟨fields, g :: rest⟩) hfields
        (map_fst_of_entries hfragments) rfl
      refine {
        keys := hkeys
        nodup := hnodup
        field := hfield
        plain := fun hnil => by cases hnil
        typed := fun _ => ⟨name, placed_eq_ok_iff.1 hname, rfl⟩
        fragment := fun _ k f hname hf => ?_ }
      cases hname
      obtain ⟨v, hv, hdecode⟩ := lastWith_of_entries hfragments hf
      exact ⟨v, get?_insertAll_of_lastWith hv _, hdecode⟩
  | _ => cases h

end Result

end Docket
