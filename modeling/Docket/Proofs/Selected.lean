import Docket.Proofs.Typed
import Docket.Query.Compile
/-!
Where a selected field is found in what was decoded. Of several selections under one name only the
last is decoded into the record, so a path through the last ones leads to what its field stands for,
and a path through an earlier one may lead nowhere.
-/

namespace Docket

namespace Result

open Query (LeafType Shape SelectionSet Selection Fragment Document)

def Value.at? : Value → Path → Option Value
  | v, [] => some v
  | .object r, .key k :: p => (r.get? k).bind fun v => v.at? p
  | .list vs, .index i :: p => vs[i]?.bind fun v => v.at? p
  | _, _ :: _ => none

inductive Choice
  | any
  | last

def Choice.Allows {α : Type} (key : α → String) (k : String) (l : List α) (a : α) : Choice → Prop
  | .any => a ∈ l ∧ key a = k
  | .last => lastWith key k l = some a

/-- The paths through selected fields, list items and fragments of the concrete type, each to a
selected field with the JSON found for it; no JSON on the way is null. -/
inductive Leads (choice : Choice) : Shape → Json → Path → Shape → Option Json → Prop
  | field {s : SelectionSet} {members : List (String × Json)} {k : String} {f : Selection}
      (hf : choice.Allows fieldKey k s.fields f) :
      Leads choice (.object s) (.object members) [.key k] f.shape (Json.lookup k members)
  | inside {s : SelectionSet} {members : List (String × Json)} {k : String} {f : Selection}
      {j : Json} {p : Path} {shape : Shape} {found : Option Json}
      (hf : choice.Allows fieldKey k s.fields f)
      (hj : Json.lookup k members = some j) (hnull : j.isNull = false)
      (rest : Leads choice f.shape j p shape found) :
      Leads choice (.object s) (.object members) (.key k :: p) shape found
  | fragment {s : SelectionSet} {members : List (String × Json)} {name : String} {f : Fragment}
      {p : Path} {shape : Shape} {found : Option Json}
      (hf : choice.Allows fragmentKey name s.fragments f) (hname : typenameOf members = .ok name)
      (rest : Leads choice (.object f.selections) (.object members) p shape found) :
      Leads choice (.object s) (.object members) (.key name :: p) shape found
  | item {s : Shape} {items : List Json} {i : Nat} {j : Json} {p : Path} {shape : Shape}
      {found : Option Json} (hj : items[i]? = some j) (hnull : j.isNull = false)
      (rest : Leads choice s j p shape found) :
      Leads choice (.list s) (.array items) (.index i :: p) shape found

/-- What decoding has made of the JSON of a field; the place it was at matters to errors alone. -/
def Holds (v : Value) (p : Path) (shape : Shape) (found : Option Json) : Prop :=
  ∃ w place, v.at? p = some w ∧ decodeMember shape place found = .ok w

theorem Holds.key {r : Record} {k : String} {v : Value} {p : Path} {shape : Shape}
    {found : Option Json} (hk : r.get? k = some v) (h : Holds v p shape found) :
    Holds (.object r) (.key k :: p) shape found := by
  obtain ⟨w, place, hw, hdecode⟩ := h
  refine ⟨w, place, ?_, hdecode⟩
  rw [Value.at?, hk]
  exact hw

theorem decodeShape_object_ok {s : SelectionSet} {members : List (String × Json)} {place : Path}
    {v : Value} (h : decodeShape (.object s) (.object members) place = .ok v) :
    ∃ r, v = .object r ∧ Decoded s members place r := by
  obtain ⟨r, hr, rfl⟩ := map_eq_ok_iff.1 h
  obtain ⟨_, hmembers, hdecoded⟩ := decodeSet_ok hr
  cases hmembers
  exact ⟨r, rfl, hdecoded⟩

theorem Leads.holds {s shape : Shape} {j : Json} {p place : Path} {found : Option Json} {v : Value}
    (h : Leads .last s j p shape found) (hdecode : decodeShape s j place = .ok v) :
    Holds v p shape found := by
  -- along the path, with whatever is decoded at the place it has come to
  induction h generalizing place v with
  | @field s members k f hf =>
    obtain ⟨r, rfl, hdecoded⟩ := decodeShape_object_ok hdecode
    obtain ⟨w, hw, hmember⟩ := hdecoded.member hf
    exact .key hw ⟨w, _, rfl, hmember⟩
  | @inside s members k f i p shape found hf hi hnull _ ih =>
    obtain ⟨r, rfl, hdecoded⟩ := decodeShape_object_ok hdecode
    obtain ⟨w, hw, hmember⟩ := hdecoded.member hf
    rw [hi, decodeMember, hnull] at hmember
    exact .key hw (ih hmember)
  | @fragment s members name f p shape found hf hname _ ih =>
    obtain ⟨r, rfl, hdecoded⟩ := decodeShape_object_ok hdecode
    have hne := List.ne_nil_of_mem (mem_of_lastWith hf).1
    obtain ⟨name', hname', htype⟩ := hdecoded.typed hne
    rw [hname] at hname'
    cases hname'
    obtain ⟨q, hq, hdecode⟩ := hdecoded.own htype hf
    have hshape : decodeShape (.object f.selections) (.object members) place =
        .ok (.object q) := map_eq_ok_iff.2 ⟨q, hdecode, rfl⟩
    exact .key hq (ih hshape)
  | @item s items i j p shape found hj hnull _ ih =>
    obtain ⟨_, vs, hitems, rfl, hdecode⟩ := decodeShape_list_ok hdecode
    cases hitems
    obtain ⟨hlength, hall⟩ := decodeItems_ok hdecode
    have hi : i < vs.length := by
      rw [hlength]
      exact (List.getElem?_eq_some_iff.1 hj).1
    have hv := List.getElem?_eq_getElem hi
    rcases hall i j _ hj hv with ⟨hj, _⟩ | ⟨_, hj⟩
    · rw [hnull] at hj
      cases hj
    · obtain ⟨w, place, hw, hmember⟩ := ih hj
      refine ⟨w, place, ?_, hmember⟩
      rw [Value.at?, hv]
      exact hw

end Result

open Result Query

/-- Whatever the last selections of their names lead to is in the decoded value. -/
theorem Query.Document.decode_holds {d : Query.Document} {data : Json} {v : Value} {p : Path}
    {shape : Query.Shape} {found : Option Json} (h : d.decode data = .ok v)
    (hp : Leads .last (.object d.selections) data p shape found) : Holds v p shape found := by
  have hshape : decodeShape (.object d.selections) data [] = .ok v := by
    rw [decodeShape]
    exact h
  exact hp.holds hshape

namespace Result

theorem decode_holds_sample :
    Document.decode ⟨.ofWord "desk", sampleSelections⟩ sampleData = .ok sampleValue ∧
      Holds sampleValue [.key "nodes", .index 1, .key "Ticket", .key "stage"]
        (.leaf (.enum Query.Resolver.issueState)) (some (.string "OPEN")) := by
  have hdecode : Document.decode ⟨.ofWord "desk", sampleSelections⟩ sampleData =
      .ok sampleValue := by rfl
  refine ⟨hdecode, Document.decode_holds hdecode ?_⟩
  refine .inside (by rfl) (by rfl) (by rfl) ?_
  refine .item (i := 1) (by rfl) (by rfl) ?_
  refine .fragment (by rfl) (by rfl) ?_
  exact .field (f := ⟨.plain (.ofWord "stage"), .leaf (.enum Query.Resolver.issueState)⟩) (by rfl)

def twiceRoot : Query.Element :=
  ((Query.Element.ofName (.ofWord "object")).addVariant
    ((Query.Element.ofName (.ofWord "Blob")).addScalar
      ⟨.ofWord "byteSize", .ofWord "integer"⟩)).addVariant
    ((Query.Element.ofName (.ofWord "Blob")).addScalar ⟨.ofWord "text", .ofWord "string"⟩)

def twiceData : Json :=
  .object [("__typename", .string "Blob"), ("byteSize", .ofInt 7), ("text", .string "t")]

theorem exists_leads_not_holds : ∃ d v, twiceRoot.compile .standard = .ok d ∧
    d.decode twiceData = .ok v ∧
    Leads .any (.object d.selections) twiceData [.key "Blob", .key "byteSize"] (.leaf .int)
      (some (.ofInt 7)) ∧
    ¬Holds v [.key "Blob", .key "byteSize"] (.leaf .int) (some (.ofInt 7)) := by
  refine ⟨_, _, by rfl, by rfl, ?_, ?_⟩
  · refine .fragment ⟨List.mem_cons_self, by rfl⟩ (by rfl) ?_
    exact .field (f := ⟨.plain (.ofWord "byteSize"), .leaf .int⟩) ⟨List.mem_cons_self, by rfl⟩
  · rintro ⟨w, place, hw, _⟩
    cases hw

end Result

end Docket
