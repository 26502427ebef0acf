import Docket.Proofs.Conformance
import Docket.Proofs.Doubles
import Docket.Proofs.Response
import Docket.Proofs.Typed
import Mathlib.Logic.Relation
/-!
Converting a value twice. Equality of responses goes through objects by key and through lists in
order, and all entries but floats agree with themselves: two conversions are equal unless a float
somewhere in the value is no number. Decoding never makes such a float, since JSON has none.
-/

namespace Docket

open Query (Shape SelectionSet Document)

namespace Result

namespace Value

inductive Part : Value → Value → Prop
  | item {items : List Value} {v : Value} (h : v ∈ items) : Part (.list items) v
  | field {r : Record} {k : String} {v : Value} (h : (k, v) ∈ r.fields) : Part (.object r) v

def Within : Value → Value → Prop := Relation.ReflTransGen Part

theorem induct {P : Value → Prop} (step : ∀ v, (∀ part, v.Part part → P part) → P v)
    (v : Value) : P v := by
  have leaf : ∀ v : Value, (∀ part, ¬v.Part part) → P v :=
    fun v h => step v fun part hpart => absurd hpart (h part)
  refine @Value.rec P (fun r => ∀ k v, (k, v) ∈ r.fields → P v) (fun items => ∀ v ∈ items, P v)
    (fun fields => ∀ k v, (k, v) ∈ fields → P v) (fun field => P field.2) (leaf _ nofun)
    (fun _ => leaf _ nofun) (fun _ => leaf _ nofun) (fun _ => leaf _ nofun) (fun _ => leaf _ nofun)
    (fun _ => leaf _ nofun) (fun _ => leaf _ nofun) (fun _ => leaf _ nofun) (fun _ => leaf _ nofun)
    ?_ ?_ (fun _ _ h => h) nofun ?_ nofun ?_ (fun _ _ h => h) v
  · intro r hfields
    apply step
    intro part hpart
    cases hpart with
    | field h => exact hfields _ _ h
  · intro items hitems
    apply step
    intro part hpart
    cases hpart with
    | item h => exact hitems _ h
  · exact fun v items hv hitems => List.forall_mem_cons.2 ⟨hv, hitems⟩
  · intro field fields hfield hfields k v h
    rcases List.mem_cons.1 h with rfl | h
    · exact hfield
    · exact hfields k v h

def Every (Q : Value → Prop) (v : Value) : Prop := ∀ w, v.Within w → Q w

section Every

variable {Q : Value → Prop} {v : Value}

theorem every_iff : v.Every Q ↔ Q v ∧ ∀ part, v.Part part → part.Every Q := by
  constructor
  · exact fun h => ⟨h v .refl, fun part hpart w hw => h w (.head hpart hw)⟩
  · rintro ⟨hself, hparts⟩ w hw
    rcases Relation.ReflTransGen.cases_head hw with rfl | ⟨part, hpart, hw⟩
    · exact hself
    · exact hparts part hpart w hw

theorem every_of_not_part (hparts : ∀ part, ¬v.Part part) (h : Q v) : v.Every Q :=
  every_iff.2 ⟨h, fun part hpart => absurd hpart (hparts part)⟩

theorem every_list_iff {items : List Value} :
    (Value.list items).Every Q ↔ Q (.list items) ∧ ∀ v ∈ items, v.Every Q := by
  rw [every_iff]
  refine and_congr_right fun _ => ⟨fun h v hv => h v (.item hv), fun h part hpart => ?_⟩
  cases hpart with
  | item hv => exact h part hv

theorem every_object_iff {r : Record} :
    (Value.object r).Every Q ↔ Q (.object r) ∧ ∀ k v, (k, v) ∈ r.fields → v.Every Q := by
  rw [every_iff]
  refine and_congr_right fun _ => ⟨fun h k v hv => h v (.field hv), fun h part hpart => ?_⟩
  cases hpart with
  | field hv => exact h _ part hv

end Every

def HasDistinctKeys : Value → Prop
  | .object r => (Entries.keys r.fields).Nodup
  | _ => True

/-- Objects are filled key by key, so that each holds a key once. -/
def Populated (v : Value) : Prop := v.Every HasDistinctKeys

def NotNaN : Value → Prop
  | .float x => ¬x.IsNaN
  | _ => True

theorem every_notNaN_iff {v : Value} :
    v.Every NotNaN ↔ ∀ x : Decimal.Double, v.Within (.float x) → ¬x.IsNaN := by
  constructor
  · exact fun h x hx => h _ hx
  · intro h w hw
    cases w with
    | float x => exact h x hw
    | _ => trivial

theorem populated_empty : (Value.object .empty).Populated :=
  every_object_iff.2 ⟨List.nodup_nil, nofun⟩

theorem Populated.insert {r : Record} {v : Value} (hr : (Value.object r).Populated)
    (hv : v.Populated) (k : String) : (Value.object (r.insert k v)).Populated := by
  obtain ⟨hkeys, hfields⟩ := every_object_iff.1 hr
  refine every_object_iff.2 ⟨Entries.nodup_keys_put hkeys k v, fun k' v' hmem => ?_⟩
  rcases Entries.eq_or_mem_of_mem_put hmem with heq | hold
  · cases heq
    exact hv
  · exact hfields k' v' hold

theorem Populated.list {items : List Value} (h : ∀ v ∈ items, v.Populated) :
    (Value.list items).Populated :=
  every_list_iff.2 ⟨trivial, h⟩

end Value

theorem toFields_eq_map (fields : List (String × Value)) :
    toFields fields = fields.map fun field => (field.1, field.2.toEntry) := by
  induction fields with
  | nil => rfl
  | cons field rest ih => rw [toFields, ih, List.map_cons]

theorem keys_toFields (fields : List (String × Value)) :
    Entries.keys (toFields fields) = Entries.keys fields := by
  rw [toFields_eq_map, Entries.keys, List.map_map]
  rfl

/-! ### Equality -/

theorem equalItems_self_iff {items : List Entry} :
    equalItems items items = true ↔ ∀ e ∈ items, e.equal e = true := by
  induction items with
  | nil => simp [equalItems]
  | cons e rest ih => rw [equalItems, Bool.and_eq_true, ih, List.forall_mem_cons]

theorem equalFields_iff {fs gs : List (String × Entry)} : equalFields fs gs = true ↔
    ∀ f ∈ fs, ∃ b, Entries.get? f.1 gs = some b ∧ f.2.equal b = true := by
  induction fs with
  | nil => simp [equalFields]
  | cons f rest ih =>
    obtain ⟨k, a⟩ := f
    rw [equalFields, Bool.and_eq_true, ih, List.forall_mem_cons]
    refine and_congr_left fun _ => ?_
    cases Entries.get? k gs <;> simp

theorem Response.equal_self_iff {r : Response} (hkeys : (Entries.keys r.entries).Nodup) :
    r.equal r = true ↔ ∀ f ∈ r.entries, f.2.equal f.2 = true := by
  obtain ⟨typeName, entries⟩ := r
  have hget : ∀ f ∈ entries, Entries.get? f.1 entries = some f.2 :=
    fun f hf => (Entries.mem_iff_get? hkeys).1 hf
  simp only [equal, beq_self_eq_true, Bool.true_and, equalFields_iff]
  refine forall₂_congr fun f hf => ?_
  rw [hget f hf]
  simp

theorem Record.equal_self_iff {r : Record} (hkeys : (Entries.keys r.fields).Nodup) :
    r.toResponse.equal r.toResponse = true ↔
      ∀ k v, (k, v) ∈ r.fields → v.toEntry.equal v.toEntry = true := by
  have hentries : r.toResponse.entries = toFields r.fields := by
    cases r
    rfl
  have hnodup : (Entries.keys r.toResponse.entries).Nodup := by
    rwa [hentries, keys_toFields]
  rw [Response.equal_self_iff hnodup, hentries, toFields_eq_map, List.forall_mem_map, Prod.forall]

theorem equal_toEntry_iff {v : Value} (h : v.Populated) :
    v.toEntry.equal v.toEntry = true ↔ v.Every Value.NotNaN := by
  induction v using Value.induct with
  | step v ih =>
    cases v with
    | float x =>
      have hevery : (Value.float x).Every Value.NotNaN ↔ ¬x.IsNaN :=
        ⟨fun h => h _ .refl, fun h => Value.every_of_not_part (by rintro _ ⟨⟩) h⟩
      rw [Value.toEntry, Entry.equal, Decimal.Double.equal_self, hevery, ← Decimal.Double.isNaN_iff]
      simp
    | list items =>
      have hitems := (Value.every_list_iff.1 h).2
      rw [Value.toEntry, Entry.equal, equalItems_self_iff, toEntries_eq_map, List.forall_mem_map,
        Value.every_list_iff]
      simp only [Value.NotNaN, true_and]
      exact forall₂_congr fun v hv => ih v (.item hv) (hitems v hv)
    | object r =>
      obtain ⟨hkeys, hfields⟩ := Value.every_object_iff.1 h
      rw [Value.toEntry, Entry.equal, Record.equal_self_iff hkeys, Value.every_object_iff]
      simp only [Value.NotNaN, true_and]
      exact forall₃_congr fun k v hv => ih v (.field hv) (hfields k v hv)
    | _ =>
      refine iff_of_true (by simp [Value.toEntry, Entry.equal]) ?_
      exact Value.every_of_not_part (by rintro _ ⟨⟩) trivial

/-! ### Decoding -/

theorem not_part_of_decodeLeaf {type : Query.LeafType} {j : Json} {v : Value}
    (h : decodeLeaf type j = .ok v) (part : Value) : ¬v.Part part := by
  intro hpart
  have hadmits := decodeLeaf_admits h
  cases hpart with
  | item _ | field _ => cases type <;> cases hadmits

theorem hasDistinctKeys_of_decodeLeaf {type : Query.LeafType} {j : Json} {v : Value}
    (h : decodeLeaf type j = .ok v) : v.HasDistinctKeys := by
  cases v with
  | object r =>
    have hadmits := decodeLeaf_admits h
    cases type <;> cases hadmits
  | _ => trivial

theorem notNaN_of_decodeLeaf {type : Query.LeafType} {j : Json} {v : Value}
    (h : decodeLeaf type j = .ok v) : v.NotNaN := by
  cases v with
  | float x =>
    have htype : type = .float := by
      have hadmits := decodeLeaf_admits h
      cases type <;> first | rfl | cases hadmits
    subst htype
    unfold decodeLeaf at h
    cases j with
    | number n =>
      cases h
      intro hx
      have hnot := n.isNaN_toDouble
      rw [Decimal.Double.isNaN_iff.2 hx] at hnot
      cases hnot
    | _ => cases h
  | _ => trivial

theorem null_or_decoded_of_mem_items {decode : Json → Path → Except DecodeError Value} {path : Path}
    {items : List Json} {vs : List Value} (h : decodeItems decode path 0 items = .ok vs) {v : Value}
    (hv : v ∈ vs) : v = .null ∨ ∃ j p, decode j p = .ok v := by
  obtain ⟨hlength, hall⟩ := decodeItems_ok h
  obtain ⟨i, hi⟩ := List.mem_iff_getElem?.1 hv
  have hlt : i < items.length := by
    rw [← hlength]
    exact (List.getElem?_eq_some_iff.1 hi).1
  rcases hall i items[i] v (List.getElem?_eq_getElem hlt) hi with ⟨-, hnull⟩ | ⟨-, hdecode⟩
  · exact .inl hnull
  · exact .inr ⟨_, _, hdecode⟩

theorem Decoded.null_or_decoded_of_mem {s : SelectionSet} {members : List (String × Json)}
    {path : Path} {r : Record} (h : Decoded s members path r) {k : String} {v : Value}
    (hv : (k, v) ∈ r.fields) :
    v = .null ∨ (∃ f ∈ s.fields, ∃ j p, decodeShape f.shape j p = .ok v) ∨
      ∃ f ∈ s.fragments, ∃ j p, decodeShape (.object f.selections) j p = .ok v := by
  have hget : r.get? k = some v := (Entries.mem_iff_get? h.nodup).1 hv
  have hk : k ∈ Entries.keys r.fields := List.mem_map_of_mem hv
  rw [h.keys, List.mem_append, List.mem_eraseDups, List.mem_eraseDups] at hk
  rcases hk with hk | hk
  · obtain ⟨f, hf⟩ := exists_lastWith hk
    obtain ⟨w, hw, hdecode⟩ := h.member hf
    obtain rfl := Option.some.inj (hw.symm.trans hget)
    rcases decodeMember_eq_ok_iff.1 hdecode with ⟨-, hnull⟩ | ⟨j, -, -, hj⟩
    · exact .inl hnull
    · exact .inr (.inl ⟨f, (mem_of_lastWith hf).1, j, _, hj⟩)
  · obtain ⟨f, hf⟩ := exists_lastWith hk
    have hmem := (mem_of_lastWith hf).1
    obtain ⟨name, -, hname⟩ := h.typed (List.ne_nil_of_mem hmem)
    obtain ⟨w, hw, hdecode⟩ := h.fragment name k f hname hf
    obtain rfl := Option.some.inj (hw.symm.trans hget)
    unfold decodeFragment at hdecode
    split at hdecode
    · exact .inr (.inr ⟨f, hmem, _, _, hdecode⟩)
    · cases hdecode
      exact .inl rfl

/-- What holds of null, of leaves and lists as they are decoded, and of objects with distinct keys.
-/
structure HoldsOfDecoded (Q : Value → Prop) : Prop where
  null : Q .null
  leaf {type : Query.LeafType} {j : Json} {v : Value} (h : decodeLeaf type j = .ok v) : Q v
  list (items : List Value) : Q (.list items)
  object {r : Record} (hkeys : (Entries.keys r.fields).Nodup) : Q (.object r)

theorem hasDistinctKeys_of_decoded : HoldsOfDecoded Value.HasDistinctKeys where
  null := trivial
  leaf := hasDistinctKeys_of_decodeLeaf
  list _ := trivial
  object hkeys := hkeys

theorem notNaN_of_decoded : HoldsOfDecoded Value.NotNaN where
  null := trivial
  leaf := notNaN_of_decodeLeaf
  list _ := trivial
  object _ := trivial

theorem HoldsOfDecoded.every {Q : Value → Prop} (hQ : HoldsOfDecoded Q) (shape : Shape) :
    ∀ j path v, decodeShape shape j path = .ok v → v.Every Q := by
  have hnull : Value.null.Every Q := Value.every_of_not_part nofun hQ.null
  induction shape using Query.Shape.induct with
  | leaf type =>
    intro j path v h
    have hleaf := placed_eq_ok_iff.1 h
    exact Value.every_of_not_part (not_part_of_decodeLeaf hleaf) (hQ.leaf hleaf)
  | list item ih =>
    intro j path v h
    obtain ⟨items, vs, -, rfl, hitems⟩ := decodeShape_list_ok h
    refine Value.every_list_iff.2 ⟨hQ.list vs, fun v hv => ?_⟩
    rcases null_or_decoded_of_mem_items hitems hv with rfl | ⟨j, p, hdecode⟩
    · exact hnull
    · exact ih j p v hdecode
  | object s hfields hfragments =>
    intro j path v h
    obtain ⟨r, hr, rfl⟩ := map_eq_ok_iff.1 h
    obtain ⟨members, -, hdecoded⟩ := decodeSet_ok hr
    refine Value.every_object_iff.2 ⟨hQ.object hdecoded.nodup, fun k v hv => ?_⟩
    rcases hdecoded.null_or_decoded_of_mem hv with
      rfl | ⟨f, hf, j, p, hdecode⟩ | ⟨f, hf, j, p, hdecode⟩
    · exact hnull
    · exact hfields f hf j p v hdecode
    · exact hfragments f hf j p v hdecode

theorem every_of_decode {Q : Value → Prop} (hQ : HoldsOfDecoded Q) {d : Document} {data : Json}
    {v : Value} (h : d.decode data = .ok v) : v.Every Q := by
  obtain ⟨r, hr, rfl⟩ := map_eq_ok_iff.1 h
  exact hQ.every (.object d.selections) data [] _ (by rw [decodeShape, hr]; rfl)

theorem equal_toResponse_iff {r : Record} (h : (Value.object r).Populated) :
    r.toResponse.equal r.toResponse = true ↔
      ∀ x : Decimal.Double, (Value.object r).Within (.float x) → ¬x.IsNaN := by
  have hentry := equal_toEntry_iff h
  rw [Value.toEntry, Entry.equal] at hentry
  rw [hentry, Value.every_notNaN_iff]

namespace Response

/-- Two conversions of an object are equal unless a float in it, however deep, is no number; what is
decoded from JSON is an object whose two conversions are equal. -/
theorem equal_reconverted :
    (∀ r : Record, (Value.object r).Populated →
      ∃ first second, ofValue? (some (.object r)) = .ok first ∧
        ofValue? (some (.object r)) = .ok second ∧
        (first.equal second = true ↔
          ∀ x : Decimal.Double, (Value.object r).Within (.float x) → ¬x.IsNaN)) ∧
      ∀ (d : Document) (data : Json) (v : Value), d.decode data = .ok v →
        v.Populated ∧ ∃ first second, ofValue? (some v) = .ok first ∧
          ofValue? (some v) = .ok second ∧ first.equal second = true := by
  refine ⟨fun r h => ⟨_, _, rfl, rfl, equal_toResponse_iff h⟩, fun d data v h => ?_⟩
  have hpopulated : v.Populated := every_of_decode hasDistinctKeys_of_decoded h
  have hnumbers := Value.every_notNaN_iff.1 (every_of_decode notNaN_of_decoded h)
  obtain ⟨r, -, rfl⟩ := map_eq_ok_iff.1 h
  exact ⟨hpopulated, _, _, rfl, rfl, (equal_toResponse_iff hpopulated).2 hnumbers⟩

def sampleRatio (x : Decimal.Double) : Record := Record.empty.insert "ratio" (.float x)

def sampleReadings (x : Decimal.Double) : Record :=
  Record.empty.insert "readings" (.list [.null, .object (sampleRatio x)])

theorem populated_sampleReadings (x : Decimal.Double) :
    (Value.object (sampleReadings x)).Populated := by
  have hnull : Value.null.Populated := Value.every_of_not_part nofun trivial
  have hfloat : (Value.float x).Populated := Value.every_of_not_part nofun trivial
  have hratio : (Value.object (sampleRatio x)).Populated :=
    Value.populated_empty.insert hfloat "ratio"
  have hreadings : (Value.list [.null, .object (sampleRatio x)]).Populated :=
    .list (List.forall_mem_cons.2 ⟨hnull, List.forall_mem_singleton.2 hratio⟩)
  exact Value.populated_empty.insert hreadings "readings"

theorem within_sampleReadings (x : Decimal.Double) :
    (Value.object (sampleReadings x)).Within (.float x) := by
  have hreadings :
      (Value.object (sampleReadings x)).Part (.list [.null, .object (sampleRatio x)]) :=
    .field (List.mem_singleton_self ("readings", _))
  have hratio : (Value.object (sampleRatio x)).Part (.float x) :=
    .field (List.mem_singleton_self ("ratio", _))
  exact .head hreadings (.head (.item (by simp)) (.single hratio))

theorem equal_reconverted_sample :
    (∃ first second, ofValue? (some (.object (sampleReadings ⟨0x7FF8000000000000⟩))) = .ok first ∧
      ofValue? (some (.object (sampleReadings ⟨0x7FF8000000000000⟩))) = .ok second ∧
      first.equal second = false) ∧
    Document.decode ⟨.ofWord "desk", sampleSelections⟩ sampleData = .ok sampleValue ∧
      ∃ first second, ofValue? (some sampleValue) = .ok first ∧
        ofValue? (some sampleValue) = .ok second ∧ first.equal second = true := by
  have hdecode : Document.decode ⟨.ofWord "desk", sampleSelections⟩ sampleData =
      .ok sampleValue := by rfl
  refine ⟨?_, hdecode, (equal_reconverted.2 _ _ _ hdecode).2⟩
  obtain ⟨first, second, hfirst, hsecond, hiff⟩ :=
    equal_reconverted.1 _ (populated_sampleReadings ⟨0x7FF8000000000000⟩)
  refine ⟨first, second, hfirst, hsecond, Bool.eq_false_iff.2 fun hequal => ?_⟩
  exact hiff.1 hequal _ (within_sampleReadings _) (by decide)

end Response

end Result

end Docket
