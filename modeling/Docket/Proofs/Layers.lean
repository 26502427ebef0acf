import Docket.Settings.Basic
import Mathlib.Tactic.Common
/-!
What layers of settings come to. For each field the last layer that has it decides, whatever stands
in earlier layers: only objects are merged, and no field takes an object.
-/

namespace Docket

namespace Json

/-- JSON without what is in it where it is an object. -/
def hollow : Json → Json
  | .object _ => .object []
  | j => j

theorem lookup_cons (key : String) (m : String × Json) (members : List (String × Json)) :
    lookup key (m :: members) =
      (lookup key members).or (if m.1 = key then some m.2 else none) := by
  by_cases h : m.1 = key <;> simp [lookup, List.find?_append, h]

theorem lookup_eq_get? {members : List (String × Json)} (h : (Entries.keys members).Nodup)
    (key : String) : lookup key members = Entries.get? key members := by
  induction members with
  | nil => rfl
  | cons m members ih =>
    obtain ⟨hm, hrest⟩ := List.nodup_cons.1 h
    rw [lookup_cons, Entries.get?, ih hrest]
    by_cases hkey : m.1 = key
    · have hnone : Entries.get? key members = none := by
        rw [← Option.not_isSome_iff_eq_none, Entries.isSome_get?_iff, ← hkey]
        exact hm
      rw [if_pos hkey, if_pos hkey, hnone, Option.none_or]
    · rw [if_neg hkey, if_neg hkey, Option.or_none]

end Json

namespace Layer

def last? (key : String) (layers : List Layer) : Option Json :=
  layers.reverse.findSome? (Json.lookup key)

theorem last?_cons (key : String) (l : Layer) (layers : List Layer) :
    last? key (l :: layers) = (last? key layers).or (Json.lookup key l) := by
  simp [last?, List.findSome?_append]

theorem hollow_overlayValue (base : Option Json) (j : Json) :
    (overlayValue base j).hollow = j.hollow := by
  cases j with
  | object members =>
    unfold overlayValue
    split <;> rfl
  | _ => rfl

theorem get?_overlay (key : String) (base l : Layer) :
    (Entries.get? key (overlay base l)).map Json.hollow =
      ((Json.lookup key l).or (Entries.get? key base)).map Json.hollow := by
  induction l generalizing base with
  | nil => rfl
  | cons m l ih =>
    obtain ⟨k, j⟩ := m
    rw [overlay, ih, Json.lookup_cons, Option.or_assoc]
    -- the member put first decides only where no later one has its key
    cases Json.lookup key l with
    | some _ => rfl
    | none =>
      rw [Option.none_or, Option.none_or]
      by_cases hk : k = key
      · rw [hk, Entries.get?_put_self, if_pos rfl, Option.some_or, Option.map_some, Option.map_some,
          hollow_overlayValue]
      · rw [Entries.get?_put_of_ne (Ne.symm hk), if_neg hk, Option.none_or]

theorem nodup_keys_overlay {base : Layer} (h : (Entries.keys base).Nodup) (l : Layer) :
    (Entries.keys (overlay base l)).Nodup := by
  induction l generalizing base with
  | nil => exact h
  | cons m l ih => exact ih (Entries.nodup_keys_put h _ _)

theorem overlay_eq_nil_iff {base l : Layer} : overlay base l = [] ↔ base = [] ∧ l = [] := by
  induction l generalizing base with
  | nil => simp [overlay]
  | cons m l ih => simp [overlay, ih, Entries.put_ne_nil]

theorem get?_foldl_overlay (key : String) (base : Layer) (layers : List Layer) :
    (Entries.get? key (layers.foldl overlay base)).map Json.hollow =
      ((last? key layers).or (Entries.get? key base)).map Json.hollow := by
  induction layers generalizing base with
  | nil => rfl
  | cons l layers ih =>
    rw [List.foldl_cons, ih, last?_cons, Option.or_assoc]
    cases last? key layers with
    | some _ => rfl
    | none => exact get?_overlay key base l

theorem nodup_keys_foldl_overlay {base : Layer} (h : (Entries.keys base).Nodup)
    (layers : List Layer) : (Entries.keys (layers.foldl overlay base)).Nodup := by
  induction layers generalizing base with
  | nil => exact h
  | cons l layers ih => exact ih (nodup_keys_overlay h l)

theorem foldl_overlay_eq_nil_iff {base : Layer} {layers : List Layer} :
    layers.foldl overlay base = [] ↔ base = [] ∧ ∀ l ∈ layers, l = [] := by
  induction layers generalizing base with
  | nil => simp
  | cons l layers ih =>
    rw [List.foldl_cons, ih, overlay_eq_nil_iff, List.forall_mem_cons, and_assoc]

theorem lookup_merge (key : String) (layers : List Layer) :
    (Json.lookup key (merge layers)).map Json.hollow = (last? key layers).map Json.hollow := by
  have hnodup : (Entries.keys (merge layers)).Nodup :=
    @nodup_keys_foldl_overlay [] List.nodup_nil layers
  rw [Json.lookup_eq_get? hnodup, merge, get?_foldl_overlay, Entries.get?, Option.or_none]

theorem merge_eq_nil_iff {layers : List Layer} : merge layers = [] ↔ ∀ l ∈ layers, l = [] := by
  rw [merge, foldl_overlay_eq_nil_iff, eq_self, true_and]

end Layer

namespace Settings

inductive SpellsText : Json → Option String → Prop
  | null : SpellsText .null none
  | text (t : String) : SpellsText (.string t) (some t)

inductive SpellsWord : Json → Nat → Prop
  | integer {n : Nat} {h : Json.InWord n} (hn : n < 4294967296) :
      SpellsWord (.number (.integer n h)) n

inductive SpellsLimit : Json → Option Nat → Prop
  | null : SpellsLimit .null none
  | word {j : Json} {n : Nat} (h : SpellsWord j n) : SpellsLimit j (some n)

def Holds (s : Settings) : Field → Json → Prop
  | .token, j => SpellsText j s.token
  | .username, j => SpellsText j s.username
  | .enterpriseUrl, j => SpellsText j s.enterpriseUrl
  | .organizations, j => SpellsText j s.organizations
  | .pageSize, j => SpellsWord j s.pageSize
  | .maxPagesPerScope, j => SpellsLimit j s.maxPagesPerScope

namespace Field

def Accepts : Field → Json → Prop
  | .pageSize, j => ∃ n, SpellsWord j n
  | .maxPagesPerScope, j => ∃ n, SpellsLimit j n
  | _, j => ∃ t, SpellsText j t

def unset : Field → Json
  | .pageSize => .ofInt Sidebar.maxPageSize
  | _ => .null

end Field

theorem holds_standard_unset (f : Field) : standard.Holds f f.unset := by
  cases f with
  | pageSize => exact .integer (by decide)
  | _ => exact .null

theorem exists_holds_iff {value : Field → Json} :
    (∃ s : Settings, ∀ f, s.Holds f (value f)) ↔ ∀ f : Field, f.Accepts (value f) := by
  constructor
  · rintro ⟨s, hs⟩ f
    have hf := hs f
    cases f <;> exact ⟨_, hf⟩
  · intro h
    obtain ⟨token, htoken⟩ := h .token
    obtain ⟨username, husername⟩ := h .username
    obtain ⟨enterpriseUrl, henterpriseUrl⟩ := h .enterpriseUrl
    obtain ⟨organizations, horganizations⟩ := h .organizations
    obtain ⟨pageSize, hpageSize⟩ := h .pageSize
    obtain ⟨maxPagesPerScope, hmaxPagesPerScope⟩ := h .maxPagesPerScope
    refine ⟨⟨token, username, enterpriseUrl, organizations, pageSize, maxPagesPerScope⟩, ?_⟩
    intro f
    cases f <;> assumption

theorem Field.accepts_unset (f : Field) : f.Accepts f.unset :=
  exists_holds_iff.1 ⟨standard, holds_standard_unset⟩ f

theorem optText?_eq_some_iff {j : Option Json} {t : Option String} :
    Json.optText? j = some t ↔ SpellsText (j.getD .null) t := by
  constructor
  · intro h
    unfold Json.optText? at h
    split at h
    · cases h
      exact .null
    · cases h
      exact .null
    · cases h
      exact .text _
    · cases h
  · intro h
    cases j with
    | none =>
      cases h
      rfl
    | some j =>
      cases h <;> rfl

theorem word?_eq_some_iff {j : Json} {n : Nat} : word? j = some n ↔ SpellsWord j n := by
  rw [word?, Option.filter_eq_some_iff]
  constructor
  · rintro ⟨hn, hfits⟩
    unfold Json.asNat? at hn
    split at hn
    · rename_i k hk
      split at hn
      · rename_i hpos
        obtain rfl := Option.some.inj hn
        obtain ⟨n, rfl⟩ := Int.eq_ofNat_of_zero_le hpos
        exact .integer (by simpa [fits] using hfits)
      · cases hn
    · cases hn
  · rintro ⟨hn⟩
    simp [Json.asNat?, fits, hn]

theorem pageSize?_eq_some_iff {j : Option Json} {n : Nat} :
    pageSize? j = some n ↔ SpellsWord (j.getD Field.pageSize.unset) n := by
  cases j with
  | none =>
    rw [← word?_eq_some_iff]
    rfl
  | some j => exact word?_eq_some_iff

theorem optWord?_eq_some_iff {j : Option Json} {n : Option Nat} :
    optWord? j = some n ↔ SpellsLimit (j.getD .null) n := by
  constructor
  · intro h
    unfold optWord? at h
    split at h
    · cases h
      exact .null
    · cases h
      exact .null
    · obtain ⟨n, hn, rfl⟩ := Option.map_eq_some_iff.1 h
      exact .word (word?_eq_some_iff.1 hn)
  · intro h
    cases j with
    | none =>
      cases h with
      | null => rfl
      | word h => cases h
    | some j =>
      cases h with
      | null => rfl
      | word h =>
        have hn := word?_eq_some_iff.2 h
        cases h
        exact congrArg (Option.map some) hn

theorem ofLayer?_eq_some_iff {l : Layer} {s : Settings} :
    ofLayer? l = some s ↔ ∀ f, s.Holds f ((member f l).getD f.unset) := by
  simp only [ofLayer?, Option.bind_eq_bind, Option.bind_eq_some_iff, Option.some.injEq,
    optText?_eq_some_iff, pageSize?_eq_some_iff, optWord?_eq_some_iff]
  constructor
  · rintro ⟨token, htoken, username, husername, enterpriseUrl, henterpriseUrl, organizations,
      horganizations, pageSize, hpageSize, maxPagesPerScope, hmaxPagesPerScope, rfl⟩ f
    cases f <;> assumption
  · intro h
    exact ⟨_, h .token, _, h .username, _, h .enterpriseUrl, _, h .organizations, _, h .pageSize,
      _, h .maxPagesPerScope, rfl⟩

theorem holds_hollow_iff {s : Settings} {f : Field} {j : Json} :
    s.Holds f j.hollow ↔ s.Holds f j := by
  cases j with
  | object members =>
    cases f with
    | maxPagesPerScope =>
      have hnot : ∀ ms n, ¬SpellsLimit (.object ms) n := by
        intro ms n h
        cases h with
        | word h => cases h
      exact iff_of_false (hnot _ _) (hnot _ _)
    | _ => exact ⟨nofun, nofun⟩
  | _ => exact Iff.rfl

def given (layers : List Layer) (f : Field) : Option Json := Layer.last? f.key layers

theorem mapM_ofJson?_object (layers : List Layer) :
    (layers.map Json.object).mapM Layer.ofJson? = some layers := by
  induction layers with
  | nil => rfl
  | cons l layers ih => rw [List.map_cons, List.mapM_cons, ih]; rfl

theorem load_object_eq_ok_iff {layers : List Layer} {s : Settings} :
    load (layers.map .object) = .ok s ↔
      Layer.merge layers ≠ [] ∧ ofLayer? (Layer.merge layers) = some s := by
  have hload : load (layers.map .object) = .ok s ↔ ofLayers? (layers.map .object) = some s := by
    rw [load]
    cases ofLayers? (layers.map .object) <;> simp
  rw [hload, ofLayers?, mapM_ofJson?_object]
  show (if (Layer.merge layers).isEmpty then none else ofLayer? (Layer.merge layers)) = some s ↔ _
  cases Layer.merge layers <;> simp

theorem holds_merge_iff {layers : List Layer} {s : Settings} {f : Field} :
    s.Holds f ((member f (Layer.merge layers)).getD f.unset) ↔
      s.Holds f ((given layers f).getD f.unset) := by
  rw [← holds_hollow_iff, ← Option.getD_map Json.hollow, member, Layer.lookup_merge,
    Option.getD_map, holds_hollow_iff, given]

theorem load_eq_ok_iff {layers : List Layer} {s : Settings} :
    load (layers.map .object) = .ok s ↔
      (∃ l ∈ layers, l ≠ []) ∧ ∀ f, s.Holds f ((given layers f).getD f.unset) := by
  rw [load_object_eq_ok_iff, ofLayer?_eq_some_iff, Ne, Layer.merge_eq_nil_iff]
  simp only [holds_merge_iff, not_forall, exists_prop]

/-- Labelled layers are read if one of them says something and, of each field that some layer has,
the last value is of the field's type. The settings hold those values, and elsewhere the standard
ones. -/
theorem load_layers {κ : Type} (layers : List (κ × Layer)) :
    ((∃ s, load (layers.map fun l => .object l.2) = .ok s) ↔
      (∃ l ∈ layers, l.2 ≠ []) ∧
        ∀ f j, given (layers.map Prod.snd) f = some j → f.Accepts j) ∧
    ∀ s, load (layers.map fun l => .object l.2) = .ok s →
      ∀ f, s.Holds f ((given (layers.map Prod.snd) f).getD f.unset) := by
  have hlayers : (layers.map fun l => Json.object l.2) = (layers.map Prod.snd).map .object := by
    rw [List.map_map]
    rfl
  have hsome : (∃ l ∈ layers.map Prod.snd, l ≠ []) ↔ ∃ l ∈ layers, l.2 ≠ [] := by
    simp only [List.mem_map, exists_exists_and_eq_and]
  rw [hlayers]
  refine ⟨?_, fun s hs => (load_eq_ok_iff.1 hs).2⟩
  simp only [load_eq_ok_iff, exists_and_left, exists_holds_iff, hsome]
  refine and_congr_right fun _ => forall_congr' fun f => ?_
  cases hgiven : given (layers.map Prod.snd) f with
  | none => simpa using f.accepts_unset
  | some j => simp

example : load [
    .object [("page_size", .string "many"), ("token", .string "t")],
    .object [("page_size", .ofInt 50), ("token", .null), ("theme", .object [])]] =
      .ok { standard with pageSize := 50 } := by rfl

end Settings

end Docket
