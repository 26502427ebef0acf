import Docket.Proofs.Decode
import Docket.Proofs.Path
/-!
Which data a document decodes, and what is said of other data. Data that conforms to the selections
is decoded. Of other data the first offender is reported, fields before the concrete type and the
concrete type before the fragments for it, at a path that leads to JSON which the message is true
of.
-/

namespace Docket

open Query (LeafType Shape SelectionSet Selection Fragment Document EnumType typenameField)

theorem Query.Shape.induct {P : Shape → Prop} (leaf : ∀ type, P (.leaf type))
    (list : ∀ item, P item → P (.list item))
    (object : ∀ s : SelectionSet, (∀ f ∈ s.fields, P f.shape) →
      (∀ f ∈ s.fragments, P (.object f.selections)) → P (.object s)) (shape : Shape) : P shape := by
  refine @Query.Shape.rec P (fun s => P (.object s)) (fun f => P f.shape)
    (fun f => P (.object f.selections)) (fun fs => ∀ f ∈ fs, P f.shape)
    (fun fs => ∀ f ∈ fs, P (.object f.selections)) leaf (fun _ h => h) list
    (fun fields fragments => object ⟨fields, fragments⟩) (fun _ _ h => h) (fun _ _ h => h)
    nofun ?_ nofun ?_ shape
  · exact fun f fs hf hfs => List.forall_mem_cons.2 ⟨hf, hfs⟩
  · exact fun f fs hf hfs => List.forall_mem_cons.2 ⟨hf, hfs⟩

namespace Result

inductive Accepts : LeafType → Json → Prop
  | string (s : String) : Accepts .string (.string s)
  | html (s : String) : Accepts .html (.string s)
  | idText (s : String) : Accepts .id (.string s)
  | idNumber (n : Json.Number) : Accepts .id (.number n)
  | int {n : Int} {h : Json.InWord n} (hn : n < 9223372036854775808) :
      Accepts .int (.number (.integer n h))
  | float (n : Json.Number) : Accepts .float (.number n)
  | boolean (b : Bool) : Accepts .boolean (.bool b)
  | uri {s : String} {u : Url} (h : Url.read s = .ok u) : Accepts .uri (.string s)
  | date {s : String} {d : Calendar.Date} (h : Calendar.Date.read s = .ok d) :
      Accepts .date (.string s)
  | dateTime {s : String} {t : Calendar.Instant} (h : Calendar.Instant.read s = .ok t) :
      Accepts .dateTime (.string s)
  | enum {type : EnumType} {s : String} (h : s ∈ type.members) : Accepts (.enum type) (.string s)

def isTextual : LeafType → Bool
  | .id | .int | .float | .boolean => false
  | _ => true

inductive Refuses : LeafType → Json → Mismatch → Prop
  | text {type : LeafType} {j : Json} (htype : isTextual type = true) (h : ∀ s, j ≠ .string s) :
      Refuses type j .notString
  | id {j : Json} (h : ∀ s, j ≠ .string s) (hn : ∀ n, j ≠ .number n) : Refuses .id j .notString
  | int {j : Json} (h : ∀ n hw, j = .number (.integer n hw) → 9223372036854775808 ≤ n) :
      Refuses .int j .notInteger
  | float {j : Json} (h : ∀ n, j ≠ .number n) : Refuses .float j .notNumber
  | boolean {j : Json} (h : ∀ b, j ≠ .bool b) : Refuses .boolean j .notBoolean
  | uri {s : String} {e : UrlError} (h : Url.read s = .error e) :
      Refuses .uri (.string s) (.notUri e)
  | date {s : String} {e : Calendar.ReadError} (h : Calendar.Date.read s = .error e) :
      Refuses .date (.string s) (.notDate e)
  | dateTime {s : String} {e : Calendar.ReadError} (h : Calendar.Instant.read s = .error e) :
      Refuses .dateTime (.string s) (.notTimestamp e)
  | enum {type : EnumType} {s : String} (h : s ∉ type.members) :
      Refuses (.enum type) (.string s) (.notMember s type.name)

theorem asInt?_eq_some_iff {j : Json} {n : Int} :
    j.asInt? = some n ↔ ∃ h, j = .number (.integer n h) ∧ n < 9223372036854775808 := by
  cases j with
  | number x =>
    cases x with
    | integer k h =>
      simp only [Json.asInt?, Json.Number.toInt?, Json.number.injEq, Json.Number.integer.injEq]
      constructor
      · intro hk
        split at hk
        · rename_i hlt
          obtain rfl := Option.some.inj hk
          exact ⟨h, rfl, by omega⟩
        · cases hk
      · intro hk
        obtain ⟨-, rfl, hlt⟩ := hk
        rw [if_pos (by omega)]
    | float x h => simp [Json.asInt?, Json.Number.toInt?]
  | _ => simp [Json.asInt?]

theorem asInt?_eq_none_iff {j : Json} :
    j.asInt? = none ↔ ∀ n hw, j = .number (.integer n hw) → 9223372036854775808 ≤ n := by
  constructor
  · intro h n hw hj
    subst hj
    by_contra hlt
    rw [asInt?_eq_some_iff.2 ⟨hw, rfl, by omega⟩] at h
    cases h
  · intro h
    cases hj : j.asInt? with
    | none => rfl
    | some n =>
      obtain ⟨hw, rfl, hlt⟩ := asInt?_eq_some_iff.1 hj
      have hge := h n hw rfl
      omega

theorem decodeLeaf_notString {type : LeafType} {j : Json} (htype : isTextual type = true)
    (h : ∀ s, j ≠ .string s) : decodeLeaf type j = .error .notString := by
  have htext : asText j = .error .notString := by
    cases j with
    | string s => exact absurd rfl (h s)
    | _ => rfl
  cases type with
  | id | int | float | boolean => cases htype
  | _ => rw [decodeLeaf, htext]; rfl

theorem decodeLeaf_of_accepts {type : LeafType} {j : Json} (h : Accepts type j) :
    ∃ v, decodeLeaf type j = .ok v := by
  cases h with
  | string s | html s | idText s | idNumber n | float n | boolean b => exact ⟨_, rfl⟩
  | @int n hw hn =>
    have hj := asInt?_eq_some_iff.2 ⟨hw, rfl, hn⟩
    exact ⟨.int n, by simp only [decodeLeaf, hj]⟩
  | uri h | date h | dateTime h =>
    simp only [decodeLeaf, asText, bind, Except.bind, h]
    exact ⟨_, rfl⟩
  | @enum type s h =>
    have hs : type.accepts s = true := by simpa [EnumType.accepts] using h
    exact ⟨.enum s, by simp only [decodeLeaf, asText, bind, Except.bind, hs, if_true]⟩

theorem decodeLeaf_of_refuses {type : LeafType} {j : Json} {m : Mismatch} (h : Refuses type j m) :
    decodeLeaf type j = .error m := by
  cases h with
  | text htype h => exact decodeLeaf_notString htype h
  | id h hn =>
    cases j with
    | string s => exact absurd rfl (h s)
    | number n => exact absurd rfl (hn n)
    | _ => rfl
  | int h => simp only [decodeLeaf, asInt?_eq_none_iff.2 h]
  | float h =>
    cases j with
    | number n => exact absurd rfl (h n)
    | _ => rfl
  | boolean h =>
    cases j with
    | bool b => exact absurd rfl (h b)
    | _ => rfl
  | uri h | date h | dateTime h => simp only [decodeLeaf, asText, bind, Except.bind, h]
  | @enum type s h =>
    have hs : type.accepts s = false := by simpa [EnumType.accepts] using h
    simp only [decodeLeaf, asText, bind, Except.bind, hs, Bool.false_eq_true, if_false]

theorem accepts_or_refuses (type : LeafType) (j : Json) :
    Accepts type j ∨ ∃ m, Refuses type j m := by
  by_cases htype : isTextual type = true
  · by_cases hj : ∃ s, j = .string s
    · obtain ⟨s, rfl⟩ := hj
      cases type with
      | string => exact .inl (.string s)
      | html => exact .inl (.html s)
      | uri =>
        cases h : Url.read s with
        | ok u => exact .inl (.uri h)
        | error e => exact .inr ⟨_, .uri h⟩
      | date =>
        cases h : Calendar.Date.read s with
        | ok d => exact .inl (.date h)
        | error e => exact .inr ⟨_, .date h⟩
      | dateTime =>
        cases h : Calendar.Instant.read s with
        | ok t => exact .inl (.dateTime h)
        | error e => exact .inr ⟨_, .dateTime h⟩
      | enum e =>
        by_cases h : s ∈ e.members
        · exact .inl (.enum h)
        · exact .inr ⟨_, .enum h⟩
      | _ => cases htype
    · exact .inr ⟨_, .text htype (not_exists.1 hj)⟩
  · cases type with
    | id =>
      cases j with
      | string s => exact .inl (.idText s)
      | number n => exact .inl (.idNumber n)
      | _ => exact .inr ⟨_, .id (by simp) (by simp)⟩
    | int =>
      cases hj : j.asInt? with
      | none => exact .inr ⟨_, .int (asInt?_eq_none_iff.1 hj)⟩
      | some n =>
        obtain ⟨hw, rfl, hlt⟩ := asInt?_eq_some_iff.1 hj
        exact .inl (.int hlt)
    | float =>
      cases j with
      | number n => exact .inl (.float n)
      | _ => exact .inr ⟨_, .float (by simp)⟩
    | boolean =>
      cases j with
      | bool b => exact .inl (.boolean b)
      | _ => exact .inr ⟨_, .boolean (by simp)⟩
    | _ => exact absurd rfl htype

theorem decodeLeaf_error_iff {type : LeafType} {j : Json} {m : Mismatch} :
    decodeLeaf type j = .error m ↔ Refuses type j m := by
  constructor
  · intro hm
    rcases accepts_or_refuses type j with h | ⟨m', h⟩
    · obtain ⟨v, hv⟩ := decodeLeaf_of_accepts h
      rw [hv] at hm
      cases hm
    · rw [decodeLeaf_of_refuses h] at hm
      cases hm
      exact h
  · exact decodeLeaf_of_refuses

inductive Conforms : Shape → Json → Prop
  | leaf {type : LeafType} {j : Json} (h : Accepts type j) : Conforms (.leaf type) j
  | list {item : Shape} {items : List Json}
      (h : ∀ j ∈ items, j.isNull = false → Conforms item j) : Conforms (.list item) (.array items)
  | object {s : SelectionSet} {members : List (String × Json)}
      (fields : ∀ f ∈ s.fields, ∀ j, Json.lookup (fieldKey f) members = some j →
        j.isNull = false → Conforms f.shape j)
      (typename : s.fragments ≠ [] →
        ∃ name, Json.lookup typenameField members = some (.string name))
      (fragments : ∀ f ∈ s.fragments,
        Json.lookup typenameField members = some (.string (fragmentKey f)) →
          Conforms (.object f.selections) (.object members)) :
      Conforms (.object s) (.object members)

/-- What is wrong with JSON at a path into it. The places of offenders are numbered in the order in
which they are looked for: fields, the concrete type, and fragments. -/
inductive Offends : Shape → Json → List Nat → Path → Mismatch → Prop
  | leaf {type : LeafType} {j : Json} {m : Mismatch} (h : Refuses type j m) :
      Offends (.leaf type) j [] [] m
  | notList {item : Shape} {j : Json} (h : ∀ items, j ≠ .array items) :
      Offends (.list item) j [] [] .notList
  | item {item : Shape} {items : List Json} {i : Nat} {j : Json} {place : List Nat} {p : Path}
      {m : Mismatch} (hi : items[i]? = some j) (hnull : j.isNull = false)
      (h : Offends item j place p m) :
      Offends (.list item) (.array items) (i :: place) (.index i :: p) m
  | notObject {s : SelectionSet} {j : Json} (h : ∀ members, j ≠ .object members) :
      Offends (.object s) j [] [] .notObject
  | field {s : SelectionSet} {members : List (String × Json)} {i : Nat} {f : Selection} {j : Json}
      {place : List Nat} {p : Path} {m : Mismatch} (hi : s.fields[i]? = some f)
      (hj : Json.lookup (fieldKey f) members = some j) (hnull : j.isNull = false)
      (h : Offends f.shape j place p m) :
      Offends (.object s) (.object members) (0 :: i :: place) (.key (fieldKey f) :: p) m
  | typename {s : SelectionSet} {members : List (String × Json)} (hs : s.fragments ≠ [])
      (h : ∀ name, Json.lookup typenameField members ≠ some (.string name)) :
      Offends (.object s) (.object members) [1] [] .noTypename
  | fragment {s : SelectionSet} {members : List (String × Json)} {i : Nat} {f : Fragment}
      {place : List Nat} {p : Path} {m : Mismatch} (hi : s.fragments[i]? = some f)
      (hname : Json.lookup typenameField members = some (.string (fragmentKey f)))
      (h : Offends (.object f.selections) (.object members) place p m) :
      Offends (.object s) (.object members) (2 :: i :: place) p m

theorem offends_leaf_iff {type : LeafType} {j : Json} {m : Mismatch}
    (h : decodeLeaf type j = .error m) (place : List Nat) (p : Path) (m' : Mismatch) :
    Offends (.leaf type) j place p m' ↔ place = [] ∧ p = [] ∧ m' = m := by
  constructor
  · intro hoffends
    cases hoffends with
    | leaf hrefuses =>
      rw [decodeLeaf_of_refuses hrefuses] at h
      cases h
      exact ⟨rfl, rfl, rfl⟩
  · intro heq
    obtain ⟨rfl, rfl, rfl⟩ := heq
    exact .leaf (decodeLeaf_error_iff.1 h)

theorem offends_notList_iff {item : Shape} {j : Json} (h : ∀ items, j ≠ .array items)
    (place : List Nat) (p : Path) (m : Mismatch) :
    Offends (.list item) j place p m ↔ place = [] ∧ p = [] ∧ m = .notList := by
  constructor
  · intro hoffends
    cases hoffends with
    | notList _ => exact ⟨rfl, rfl, rfl⟩
    | item _ _ _ => exact absurd rfl (h _)
  · intro heq
    obtain ⟨rfl, rfl, rfl⟩ := heq
    exact .notList h

theorem offends_notObject_iff {s : SelectionSet} {j : Json} (h : ∀ members, j ≠ .object members)
    (place : List Nat) (p : Path) (m : Mismatch) :
    Offends (.object s) j place p m ↔ place = [] ∧ p = [] ∧ m = .notObject := by
  constructor
  · intro hoffends
    cases hoffends with
    | notObject _ => exact ⟨rfl, rfl, rfl⟩
    | field _ _ _ _ | typename _ _ | fragment _ _ _ => exact absurd rfl (h _)
  · intro heq
    obtain ⟨rfl, rfl, rfl⟩ := heq
    exact .notObject h

theorem Conforms.not_offends {shape : Shape} {j : Json} {place : List Nat} {p : Path}
    {m : Mismatch} (h : Offends shape j place p m) : ¬Conforms shape j := by
  intro hconf
  induction h with
  | leaf hrefuses =>
    cases hconf with
    | leaf haccepts =>
      obtain ⟨v, hv⟩ := decodeLeaf_of_accepts haccepts
      rw [decodeLeaf_of_refuses hrefuses] at hv
      cases hv
  | notList hlist =>
    cases hconf with
    | list => exact hlist _ rfl
  | item hi hnull _ ih =>
    cases hconf with
    | list hall => exact ih (hall _ (List.mem_of_getElem? hi) hnull)
  | notObject hobject =>
    cases hconf with
    | object => exact hobject _ rfl
  | field hi hj hnull _ ih =>
    cases hconf with
    | object hfields => exact ih (hfields _ (List.mem_of_getElem? hi) _ hj hnull)
  | typename hs hname =>
    cases hconf with
    | object _ htypename =>
      obtain ⟨name, hlookup⟩ := htypename hs
      exact hname name hlookup
  | fragment hi hname _ ih =>
    cases hconf with
    | object _ _ hfragments => exact ih (hfragments _ (List.mem_of_getElem? hi) hname)

theorem conforms_of_not_offends (shape : Shape) :
    ∀ j, (∀ place p m, ¬Offends shape j place p m) → Conforms shape j := by
  induction shape using Query.Shape.induct with
  | leaf type =>
    intro j h
    rcases accepts_or_refuses type j with haccepts | ⟨m, hrefuses⟩
    · exact .leaf haccepts
    · exact absurd (.leaf hrefuses) (h _ _ _)
  | list item ih =>
    intro j h
    cases j with
    | array items =>
      refine .list fun j hj hnull => ih j fun place p m hoffends => ?_
      obtain ⟨i, hi⟩ := List.mem_iff_getElem?.1 hj
      exact h _ _ _ (.item hi hnull hoffends)
    | _ => exact absurd (.notList nofun) (h _ _ _)
  | object s hfields hfragments =>
    intro j h
    cases j with
    | object members =>
      refine .object (fun f hf j hj hnull => ?_) (fun hs => ?_) (fun f hf hname => ?_)
      · obtain ⟨i, hi⟩ := List.mem_iff_getElem?.1 hf
        exact hfields f hf j fun place p m hoffends => h _ _ _ (.field hi hj hnull hoffends)
      · by_contra hname
        exact h _ _ _ (.typename hs (not_exists.1 hname))
      · obtain ⟨i, hi⟩ := List.mem_iff_getElem?.1 hf
        exact hfragments f hf _ fun place p m hoffends => h _ _ _ (.fragment hi hname hoffends)
    | _ => exact absurd (.notObject nofun) (h _ _ _)

theorem conforms_iff {shape : Shape} {j : Json} :
    Conforms shape j ↔ ∀ place p m, ¬Offends shape j place p m := by
  constructor
  · exact fun h place p m hoffends => h.not_offends hoffends
  · exact conforms_of_not_offends shape j

def Mismatch.Blames : Mismatch → Json → Prop
  | .notObject, j => ∀ members, j ≠ .object members
  | .notList, j => ∀ items, j ≠ .array items
  | .noTypename, j => ∃ members, j = .object members ∧
      ∀ name, Json.lookup typenameField members ≠ some (.string name)
  | .notString, j => ∀ s, j ≠ .string s
  | .notInteger, j => ∀ n hw, j = .number (.integer n hw) → 9223372036854775808 ≤ n
  | .notNumber, j => ∀ n, j ≠ .number n
  | .notBoolean, j => ∀ b, j ≠ .bool b
  | .notUri e, j => ∃ s, j = .string s ∧ Url.read s = .error e
  | .notDate e, j => ∃ s, j = .string s ∧ Calendar.Date.read s = .error e
  | .notTimestamp e, j => ∃ s, j = .string s ∧ Calendar.Instant.read s = .error e
  | .notMember text enum, j => j = .string text ∧
      ∃ type : EnumType, type.name = enum ∧ text ∉ type.members

theorem Refuses.blames {type : LeafType} {j : Json} {m : Mismatch} (h : Refuses type j m) :
    m.Blames j := by
  cases h with
  | text _ h => exact h
  | id h _ => exact h
  | int h => exact h
  | float h => exact h
  | boolean h => exact h
  | uri h => exact ⟨_, rfl, h⟩
  | date h => exact ⟨_, rfl, h⟩
  | dateTime h => exact ⟨_, rfl, h⟩
  | enum h => exact ⟨rfl, _, rfl, h⟩

theorem Offends.exists_at? {shape : Shape} {j : Json} {place : List Nat} {p : Path} {m : Mismatch}
    (h : Offends shape j place p m) : ∃ i, j.at? p = some i ∧ m.Blames i := by
  induction h with
  | leaf h => exact ⟨_, rfl, h.blames⟩
  | notList h => exact ⟨_, rfl, h⟩
  | notObject h => exact ⟨_, rfl, h⟩
  | typename _ h => exact ⟨_, rfl, _, rfl, h⟩
  | item hi _ _ ih =>
    obtain ⟨i, hat, hblames⟩ := ih
    exact ⟨i, by rw [Json.at?, hi, Option.bind_some, hat], hblames⟩
  | field _ hj _ _ ih =>
    obtain ⟨i, hat, hblames⟩ := ih
    exact ⟨i, by rw [Json.at?, hj, Option.bind_some, hat], hblames⟩
  | fragment _ _ _ ih => exact ih

theorem Offends.isPlain {shape : Shape} {j : Json} {place : List Nat} {p : Path} {m : Mismatch}
    (h : Offends shape j place p m) : ∀ step ∈ p, step.IsPlain := by
  induction h with
  | item _ _ _ ih => exact List.forall_mem_cons.2 ⟨trivial, ih⟩
  | @field _ _ _ f _ _ _ _ _ _ _ _ ih =>
    have hword : PathStep.IsPlain (.key (fieldKey f)) := Query.Identifier.isWord_fieldName _
    exact List.forall_mem_cons.2 ⟨hword, ih⟩
  | fragment _ _ _ ih => exact ih
  | _ => exact nofun

end Result

end Docket
