import Docket.Proofs.Decode
/-!
Decoded values have the types that were asked for. Each object holds the names selected, in the
order in which they were first selected, and under each name what its last selection says.
-/

namespace Docket

open Query (LeafType Shape SelectionSet Selection Fragment Document)
open Result (Value Record)

def Query.LeafType.admits : LeafType → Value → Bool
  | .string, .string _ => true
  | .html, .string _ => true
  | .id, .string _ => true
  | .int, .int _ => true
  | .float, .float _ => true
  | .boolean, .bool _ => true
  | .uri, .uri _ => true
  | .date, .date _ => true
  | .dateTime, .dateTime _ => true
  | .enum type, .enum member => type.accepts member
  | _, _ => false

namespace Result

theorem decodeLeaf_admits {type : LeafType} {j : Json} {v : Value}
    (h : decodeLeaf type j = .ok v) : type.admits v = true := by
  cases type with
  | string | html =>
    obtain ⟨s, _, rfl⟩ := map_eq_ok_iff.1 h
    rfl
  | id =>
    unfold decodeLeaf at h
    dsimp only at h
    split at h
    · cases h
      rfl
    · obtain ⟨s, _, rfl⟩ := map_eq_ok_iff.1 h
      rfl
  | int | float | boolean =>
    unfold decodeLeaf at h
    dsimp only at h
    split at h
    · cases h
      rfl
    · cases h
  | uri | date | dateTime =>
    obtain ⟨s, _, h⟩ := bind_eq_ok_iff.1 h
    split at h
    · cases h
      rfl
    · cases h
  | enum e =>
    obtain ⟨s, _, h⟩ := bind_eq_ok_iff.1 h
    split at h
    · rename_i hmember
      cases h
      exact hmember
    · cases h

/-- Values of a shape, where the JSON they come from is not null. -/
inductive Fits : Shape → Json → Value → Prop
  | leaf {type : LeafType} {j : Json} {v : Value} (admits : type.admits v = true) :
      Fits (.leaf type) j v
  | list {item : Shape} {items : List Json} {vs : List Value}
      (length : vs.length = items.length)
      (null : ∀ (i : Nat) (j : Json) (v : Value), items[i]? = some j → vs[i]? = some v →
        (v = .null ↔ j.isNull = true))
      (fits : ∀ (i : Nat) (j : Json) (v : Value), items[i]? = some j → vs[i]? = some v →
        j.isNull = false → Fits item j v) :
      Fits (.list item) (.array items) (.list vs)
  | object {s : SelectionSet} {members : List (String × Json)} {r : Record}
      (keys : Entries.keys r.fields =
        (s.fields.map fieldKey).eraseDups ++ (s.fragments.map fragmentKey).eraseDups)
      (nodup : (Entries.keys r.fields).Nodup)
      (null : ∀ k f, lastWith fieldKey k s.fields = some f →
        ∃ v, r.get? k = some v ∧ (v = .null ↔ (Json.lookup k members).all Json.isNull = true))
      (field : ∀ k f j v, lastWith fieldKey k s.fields = some f → r.get? k = some v →
        Json.lookup k members = some j → j.isNull = false → Fits f.shape j v)
      (plain : s.fragments = [] → r.typeName = none)
      (typed : s.fragments ≠ [] →
        ∃ name, typenameOf members = .ok name ∧ r.typeName = some name)
      -- a fragment of the concrete type is an object, and one of another type is null
      (own : ∀ name f, r.typeName = some name → lastWith fragmentKey name s.fragments = some f →
        ∃ q, r.get? name = some (.object q))
      (other : ∀ name k f, r.typeName = some name → lastWith fragmentKey k s.fragments = some f →
        k ≠ name → r.get? k = some .null)
      (fragment : ∀ name f v, r.typeName = some name →
        lastWith fragmentKey name s.fragments = some f → r.get? name = some v →
          Fits (.object f.selections) (.object members) v) :
      Fits (.object s) (.object members) (.object r)

theorem Fits.ne_null {shape : Shape} {j : Json} {v : Value} (h : Fits shape j v) : v ≠ .null := by
  rintro rfl
  cases h with
  | leaf admits =>
    rename_i type
    cases type <;> cases admits

theorem fits_of_decodeMember {shape : Shape} {path : Path} {j : Option Json} {v : Value}
    (hshape : ∀ j v, decodeShape shape j path = .ok v → Fits shape j v)
    (h : decodeMember shape path j = .ok v) :
    (v = .null ↔ j.all Json.isNull = true) ∧
      ∀ i, j = some i → i.isNull = false → Fits shape i v := by
  rcases decodeMember_eq_ok_iff.1 h with ⟨hnull, rfl⟩ | ⟨i, rfl, hnull, hi⟩
  · refine ⟨⟨fun _ => hnull, fun _ => rfl⟩, fun i hi hnot => ?_⟩
    subst hi
    simp [hnot] at hnull
  · have hfits := hshape i v hi
    refine ⟨⟨fun hv => absurd hv hfits.ne_null, fun hv => ?_⟩, fun k hk _ => ?_⟩
    · simp [hnull] at hv
    · cases hk
      exact hfits

theorem fits_of_decodeItems {item : Shape} {path : Path} {items : List Json} {vs : List Value}
    (hitem : ∀ j p v, decodeShape item j p = .ok v → Fits item j v)
    (h : decodeItems (decodeShape item) path 0 items = .ok vs) :
    Fits (.list item) (.array items) (.list vs) := by
  obtain ⟨hlength, hall⟩ := decodeItems_ok h
  refine .list hlength (fun k j v hj hv => ?_) (fun k j v hj hv hnull => ?_)
  · rcases hall k j v hj hv with ⟨hnull, rfl⟩ | ⟨hnull, hdecode⟩
    · exact ⟨fun _ => hnull, fun _ => rfl⟩
    · refine ⟨fun hv => absurd hv (hitem _ _ _ hdecode).ne_null, fun hj => ?_⟩
      rw [hnull] at hj
      cases hj
  · rcases hall k j v hj hv with ⟨hj, _⟩ | ⟨_, hdecode⟩
    · rw [hnull] at hj
      cases hj
    · exact hitem _ _ _ hdecode

theorem Decoded.fits {s : SelectionSet} {members : List (String × Json)} {path : Path} {r : Record}
    (h : Decoded s members path r)
    (hfields : ∀ f ∈ s.fields, ∀ j p v, decodeShape f.shape j p = .ok v → Fits f.shape j v)
    (hfragments : ∀ f ∈ s.fragments, ∀ j p q, decodeSet f.selections j p = .ok q →
      Fits (.object f.selections) j (.object q)) :
    Fits (.object s) (.object members) (.object r) := by
  have hmember : ∀ k f, lastWith fieldKey k s.fields = some f → ∃ v, r.get? k = some v ∧
      (v = .null ↔ (Json.lookup k members).all Json.isNull = true) ∧
        ∀ j, Json.lookup k members = some j → j.isNull = false → Fits f.shape j v := by
    intro k f hf
    obtain ⟨v, hv, hdecode⟩ := h.member hf
    exact ⟨v, hv, fits_of_decodeMember (fun j v => hfields f (mem_of_lastWith hf).1 j _ v) hdecode⟩
  refine .object h.keys h.nodup (fun k f hf => ?_) (fun k f j v hf hv hj hnull => ?_) h.plain
    h.typed (fun name f hname hf => ?_) (fun name k f hname hf hne => h.other hname hf hne)
    (fun name f v hname hf hv => ?_)
  · obtain ⟨v, hv, hnull, _⟩ := hmember k f hf
    exact ⟨v, hv, hnull⟩
  · obtain ⟨w, hw, _, hfits⟩ := hmember k f hf
    rw [hw] at hv
    cases hv
    exact hfits j hj hnull
  · obtain ⟨q, hq, _⟩ := h.own hname hf
    exact ⟨q, hq⟩
  · obtain ⟨q, hq, hdecode⟩ := h.own hname hf
    rw [hq] at hv
    cases hv
    exact hfragments f (mem_of_lastWith hf).1 _ _ _ hdecode

mutual

theorem decodeShape_fits : ∀ (shape : Shape) (j : Json) (path : Path) (v : Value),
    decodeShape shape j path = .ok v → Fits shape j v
  | .leaf type, j, path, v, h => .leaf (decodeLeaf_admits (placed_eq_ok_iff.1 h))
  | .object s, j, path, v, h => by
    obtain ⟨r, hr, rfl⟩ := map_eq_ok_iff.1 h
    exact decodeSet_fits s j path r hr
  | .list item, j, path, v, h => by
    obtain ⟨items, vs, rfl, rfl, hitems⟩ := decodeShape_list_ok h
    exact fits_of_decodeItems (decodeShape_fits item) hitems

theorem decodeSet_fits : ∀ (s : SelectionSet) (j : Json) (path : Path) (r : Record),
    decodeSet s j path = .ok r → Fits (.object s) j (.object r)
  | ⟨fields, fragments⟩, j, path, r, h => by
    obtain ⟨members, rfl, hdecoded⟩ := decodeSet_ok h
    exact hdecoded.fits (fields_fit fields) (fragments_fit fragments)

theorem fields_fit : ∀ (fields : List Selection), ∀ f ∈ fields, ∀ (j : Json) (path : Path)
    (v : Value), decodeShape f.shape j path = .ok v → Fits f.shape j v
  | ⟨head, shape⟩ :: rest, f, hf => by
    cases hf with
    | head => exact decodeShape_fits shape
    | tail _ hf => exact fields_fit rest f hf

theorem fragments_fit : ∀ (fragments : List Fragment), ∀ f ∈ fragments, ∀ (j : Json)
    (path : Path) (r : Record), decodeSet f.selections j path = .ok r →
      Fits (.object f.selections) j (.object r)
  | ⟨typeName, s⟩ :: rest, f, hf => by
    cases hf with
    | head => exact decodeSet_fits s
    | tail _ hf => exact fragments_fit rest f hf

end

end Result

/-- What a document decodes from any data is a record that fits its selections, at every depth. -/
theorem Query.Document.decode_fits {d : Document} {data : Json} {v : Value}
    (h : d.decode data = .ok v) : Result.Fits (.object d.selections) data v := by
  obtain ⟨r, hr, rfl⟩ := map_eq_ok_iff.1 h
  exact Result.decodeSet_fits d.selections data [] r hr

namespace Result

def sampleSelections : SelectionSet where
  fields := [
    ⟨.plain (.ofWord "tally"), .leaf .id⟩,
    ⟨.plain (.ofWord "tally"), .leaf .int⟩,
    ⟨.plain Query.NodeKind.list.name, .list (.object {
      fields := [⟨.plain (.ofWord "summary"), .leaf .string⟩]
      fragments := [
        ⟨.ofWord "Ticket",
          ⟨[⟨.plain (.ofWord "stage"), .leaf (.enum Query.Resolver.issueState)⟩], []⟩⟩,
        ⟨.ofWord "Person", ⟨[⟨.plain (.ofWord "nickname"), .leaf .string⟩], []⟩⟩] })⟩]
  fragments := []

def sampleData : Json := .object [
  ("tally", .ofInt 2),
  ("nodes", .array [.null, .object
    [("summary", .null), ("__typename", .string "Ticket"), ("stage", .string "OPEN")]])]

def sampleValue : Value := .object ⟨none, [
  ("tally", .int 2),
  ("nodes", .list [.null, .object ⟨some "Ticket", [
    ("summary", .null),
    ("Ticket", .object ⟨none, [("stage", .enum "OPEN")]⟩),
    ("Person", .null)]⟩])]⟩

theorem decode_fits_sample :
    Document.decode ⟨.ofWord "desk", sampleSelections⟩ sampleData = .ok sampleValue ∧
      Fits (.object sampleSelections) sampleData sampleValue :=
  ⟨by rfl, Document.decode_fits (d := ⟨.ofWord "desk", sampleSelections⟩) (by rfl)⟩

end Result

end Docket
