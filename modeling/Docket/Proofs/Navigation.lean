import Docket.Proofs.Except
import Docket.Proofs.Response
import Mathlib.Data.List.Forall2
/-!
Paths through the dictionary view of a decoded result. A path in the view leads where the same path
leads in the result itself, and what is found there is the view of the record found there: to enter
a view and to make one are steps that may be taken in either order.
-/

namespace Docket.Result

/-- A step down from an object: to the object under a key, or to one of the objects listed under it,
counted without the nulls among them. -/
inductive Hop
  | object (key : String)
  | item (key : String) (index : Nat)
  deriving DecidableEq

namespace Response

def enter? (r : Response) : Hop → Option Response
  | .object key => (r.object key).toOption
  | .item key index => (r.objects key).toOption.bind fun os => os[index]?

def follow? : Response → List Hop → Option Response
  | r, [] => some r
  | r, hop :: path => (r.enter? hop).bind fun inner => inner.follow? path

end Response

namespace Record

inductive Enters (r : Record) : Hop → Record → Prop
  | object {key : String} {o : Record} (h : r.get? key = some (.object o)) :
      Enters r (.object key) o
  | item {key : String} {index : Nat} {items : List Value} {inner : List Record} {o : Record}
      (h : r.get? key = some (.list items))
      (hitems : items.filter (fun v => !v.isNull) = inner.map .object)
      (ho : inner[index]? = some o) : Enters r (.item key index) o

inductive Follows : Record → List Hop → Record → Prop
  | here {r : Record} : Follows r [] r
  | step {r next o : Record} {hop : Hop} {path : List Hop} (h : r.Enters hop next)
      (rest : Follows next path o) : Follows r (hop :: path) o

end Record

mutual

/-- How values are shown: what is not text by itself is shown by its text, lists keep their length
and nesting, and all else stays as it is. -/
inductive Value.ShownAs : Value → Entry → Prop
  | null : Value.ShownAs .null .null
  | bool (b : Bool) : Value.ShownAs (.bool b) (.bool b)
  | int (n : Int) : Value.ShownAs (.int n) (.int n)
  | float (x : Decimal.Double) : Value.ShownAs (.float x) (.float x)
  | string (s : String) : Value.ShownAs (.string s) (.text s)
  | enum (m : String) : Value.ShownAs (.enum m) (.text m)
  | uri (u : Url) : Value.ShownAs (.uri u) (.text u.write)
  | date (d : Calendar.Date) : Value.ShownAs (.date d) (.text d.write)
  | dateTime (t : Calendar.Instant) : Value.ShownAs (.dateTime t) (.text t.write)
  | object {r : Record} {view : Response} (h : Record.ShownAs r view) :
      Value.ShownAs (.object r) (.object view)
  | list {items : List Value} {entries : List Entry}
      (h : List.Forall₂ Value.ShownAs items entries) : Value.ShownAs (.list items) (.list entries)

inductive Record.ShownAs : Record → Response → Prop
  | intro {r : Record} {view : Response} (typeName : view.typeName = r.typeName)
      (keys : view.keys = Entries.keys r.fields)
      (entries : List.Forall₂ Value.ShownAs (r.fields.map Prod.snd) (view.entries.map Prod.snd)) :
      Record.ShownAs r view

end

mutual

theorem Value.shownAs_iff (v : Value) (e : Entry) : v.ShownAs e ↔ e = v.toEntry := by
  cases v with
  | object r =>
    constructor
    · intro h
      cases h with
      | object h => exact congrArg Entry.object ((r.shownAs_iff _).1 h)
    · intro h
      subst h
      exact .object ((r.shownAs_iff _).2 rfl)
  | list items =>
    constructor
    · intro h
      cases h with
      | list h => exact congrArg Entry.list ((forall₂_shownAs_iff items _).1 h)
    · intro h
      subst h
      exact .list ((forall₂_shownAs_iff items _).2 rfl)
  | _ =>
    constructor
    · intro h
      cases h
      rfl
    · intro h
      subst h
      constructor

theorem Record.shownAs_iff (r : Record) (view : Response) :
    r.ShownAs view ↔ view = r.toResponse := by
  obtain ⟨typeName, fields⟩ := r
  obtain ⟨shownName, entries⟩ := view
  constructor
  · intro h
    cases h with
    | intro htypeName hkeys hentries =>
      obtain rfl : shownName = typeName := htypeName
      exact congrArg (Response.mk shownName)
        ((fields_shownAs_iff fields entries).1 ⟨hkeys, hentries⟩)
  · intro h
    obtain ⟨rfl, hentries⟩ := Response.mk.inj h
    obtain ⟨hkeys, hall⟩ := (fields_shownAs_iff fields entries).2 hentries
    exact .intro rfl hkeys hall

theorem forall₂_shownAs_iff (items : List Value) (entries : List Entry) :
    List.Forall₂ Value.ShownAs items entries ↔ entries = toEntries items := by
  cases items with
  | nil => exact List.forall₂_nil_left_iff
  | cons v rest =>
    cases entries with
    | nil => simp [toEntries]
    | cons e entries =>
      rw [List.forall₂_cons, v.shownAs_iff, forall₂_shownAs_iff rest, toEntries, List.cons.injEq]

theorem fields_shownAs_iff (fields : List (String × Value)) (entries : List (String × Entry)) :
    Entries.keys entries = Entries.keys fields ∧
      List.Forall₂ Value.ShownAs (fields.map Prod.snd) (entries.map Prod.snd) ↔
        entries = toFields fields := by
  cases fields with
  | nil => cases entries <;> simp [Entries.keys, toFields]
  | cons field rest =>
    obtain ⟨k, v⟩ := field
    cases entries with
    | nil => simp [Entries.keys, toFields]
    | cons entry entries =>
      obtain ⟨l, e⟩ := entry
      have hrest := fields_shownAs_iff rest entries
      have hv := v.shownAs_iff e
      simp only [Entries.keys] at hrest
      simp only [Entries.keys, toFields, List.map_cons, List.cons.injEq, List.forall₂_cons,
        Prod.mk.injEq, hv, ← hrest]
      tauto

end

section Steps

variable {r : Record} {key : String} {hop : Hop}

theorem toEntry_eq_object_iff {v : Value} {view : Response} :
    v.toEntry = .object view ↔ ∃ o, v = .object o ∧ view = o.toResponse := by
  cases v <;> simp [Value.toEntry, eq_comm]

theorem toEntry_eq_list_iff {v : Value} {entries : List Entry} :
    v.toEntry = .list entries ↔ ∃ items, v = .list items ∧ entries = toEntries items := by
  cases v <;> simp [Value.toEntry, eq_comm]

theorem object_toResponse_eq_ok_iff {view : Response} : r.toResponse.object key = .ok view ↔
    ∃ o, r.get? key = some (.object o) ∧ view = o.toResponse := by
  rw [Response.object_eq_ok_iff, Record.get?_toResponse, Option.map_eq_some_iff]
  simp only [toEntry_eq_object_iff]
  constructor
  · intro h
    obtain ⟨_, hv, o, rfl, hview⟩ := h
    exact ⟨o, hv, hview⟩
  · intro h
    obtain ⟨o, ho, hview⟩ := h
    exact ⟨_, ho, o, rfl, hview⟩

theorem map_toEntry_eq_map_object_iff {items : List Value} {views : List Response} :
    items.map Value.toEntry = views.map .object ↔
      ∃ inner : List Record, items = inner.map .object ∧ views = inner.map Record.toResponse := by
  induction items generalizing views with
  | nil => simp [eq_comm]
  | cons v items ih =>
    constructor
    · intro h
      cases views with
      | nil => cases h
      | cons view views =>
        obtain ⟨hv, hitems⟩ := List.cons.inj h
        obtain ⟨o, rfl, rfl⟩ := toEntry_eq_object_iff.1 hv
        obtain ⟨inner, rfl, rfl⟩ := ih.1 hitems
        exact ⟨o :: inner, rfl, rfl⟩
    · intro h
      obtain ⟨inner, hinner, rfl⟩ := h
      rw [hinner, List.map_map, List.map_map]
      rfl

theorem objects_toResponse_eq_ok_iff {views : List Response} :
    r.toResponse.objects key = .ok views ↔
      ∃ (items : List Value) (inner : List Record), r.get? key = some (.list items) ∧
        items.filter (fun v => !v.isNull) = inner.map .object ∧
          views = inner.map Record.toResponse := by
  have hnulls : (fun e : Entry => !e.isNull) ∘ Value.toEntry = fun v => !v.isNull := by
    funext v
    rw [Function.comp_apply, isNull_toEntry]
  have hfilter : ∀ items : List Value, (toEntries items).filter (fun e => !e.isNull) =
      (items.filter fun v => !v.isNull).map Value.toEntry := by
    intro items
    rw [toEntries_eq_map, List.filter_map, hnulls]
  simp only [Response.objects_eq_ok_iff, Record.get?_toResponse, Option.map_eq_some_iff,
    toEntry_eq_list_iff, Response.objectsOf?_eq_some_iff]
  constructor
  · intro h
    obtain ⟨entries, ⟨v, hv, items, rfl, rfl⟩, hviews⟩ := h
    rw [hfilter, map_toEntry_eq_map_object_iff] at hviews
    obtain ⟨inner, hinner, rfl⟩ := hviews
    exact ⟨items, inner, hv, hinner, rfl⟩
  · intro h
    obtain ⟨items, inner, hitems, hinner, rfl⟩ := h
    refine ⟨toEntries items, ⟨_, hitems, items, rfl, rfl⟩, ?_⟩
    rw [hfilter, map_toEntry_eq_map_object_iff]
    exact ⟨inner, hinner, rfl⟩

theorem enter?_toResponse {view : Response} :
    r.toResponse.enter? hop = some view ↔ ∃ o, r.Enters hop o ∧ view = o.toResponse := by
  cases hop with
  | object key =>
    rw [Response.enter?, toOption_eq_some_iff, object_toResponse_eq_ok_iff]
    constructor
    · intro h
      obtain ⟨o, ho, hview⟩ := h
      exact ⟨o, .object ho, hview⟩
    · intro h
      obtain ⟨o, henters, hview⟩ := h
      cases henters with
      | object ho => exact ⟨o, ho, hview⟩
  | item key index =>
    simp only [Response.enter?, Option.bind_eq_some_iff, toOption_eq_some_iff,
      objects_toResponse_eq_ok_iff]
    constructor
    · intro h
      obtain ⟨views, ⟨items, inner, hitems, hinner, rfl⟩, hview⟩ := h
      rw [List.getElem?_map, Option.map_eq_some_iff] at hview
      obtain ⟨o, ho, rfl⟩ := hview
      exact ⟨o, .item hitems hinner ho, rfl⟩
    · intro h
      obtain ⟨o, henters, rfl⟩ := h
      cases henters with
      | @item key index items inner o hitems hinner ho =>
        refine ⟨_, ⟨items, inner, hitems, hinner, rfl⟩, ?_⟩
        rw [List.getElem?_map, ho, Option.map_some]

theorem Record.Enters.unique {o o' : Record} (h : r.Enters hop o) (h' : r.Enters hop o') :
    o' = o := by
  cases h with
  | object ho =>
    cases h' with
    | object ho' =>
      rw [ho] at ho'
      cases ho'
      rfl
  | @item key index items inner o hitems hinner ho =>
    cases h' with
    | @item _ _ items' inner' o' hitems' hinner' ho' =>
      rw [hitems] at hitems'
      cases hitems'
      have hobject : Function.Injective Value.object := fun _ _ => Value.object.inj
      have hsame : inner' = inner := List.map_injective_iff.2 hobject (hinner'.symm.trans hinner)
      rw [hsame, ho] at ho'
      exact (Option.some.inj ho').symm

end Steps

theorem Record.Follows.unique {r o o' : Record} {path : List Hop} (h : r.Follows path o)
    (h' : r.Follows path o') : o' = o := by
  induction h with
  | here =>
    cases h'
    rfl
  | step henters _ ih =>
    cases h' with
    | step henters' rest' =>
      obtain rfl := henters.unique henters'
      exact ih rest'

theorem follow?_toResponse {r : Record} {path : List Hop} {view : Response} :
    r.toResponse.follow? path = some view ↔ ∃ o, r.Follows path o ∧ view = o.toResponse := by
  induction path generalizing r with
  | nil =>
    rw [Response.follow?, Option.some.injEq]
    constructor
    · intro h
      exact ⟨r, .here, h.symm⟩
    · intro h
      obtain ⟨o, hfollows, rfl⟩ := h
      cases hfollows
      rfl
  | cons hop path ih =>
    simp only [Response.follow?, Option.bind_eq_some_iff, enter?_toResponse]
    constructor
    · intro h
      obtain ⟨_, ⟨next, henters, rfl⟩, hrest⟩ := h
      obtain ⟨o, hfollows, hview⟩ := ih.1 hrest
      exact ⟨o, .step henters hfollows, hview⟩
    · intro h
      obtain ⟨o, hfollows, hview⟩ := h
      cases hfollows with
      | step henters rest => exact ⟨_, ⟨_, henters, rfl⟩, ih.2 ⟨o, rest, hview⟩⟩

theorem get_toResponse_eq_ok_iff {r : Record} {key : String} {e : Entry} :
    r.toResponse.get key = .ok e ↔ ∃ v, r.get? key = some v ∧ v.ShownAs e := by
  have hget : r.toResponse.get key = .ok e ↔ (r.get? key).map Value.toEntry = some e := by
    rw [Response.get, Record.get?_toResponse]
    cases (r.get? key).map Value.toEntry <;> simp
  rw [hget, Option.map_eq_some_iff]
  simp only [Value.shownAs_iff, eq_comm]

/-- A path leads somewhere in a view if it does in the record, and then to the view of the one
record that it leads to there. -/
theorem Record.follow_commutes (r : Record) :
    ∃ view, Response.ofValue? (some (.object r)) = .ok view ∧ ∀ path,
      ((∃ reached, view.follow? path = some reached) ↔ ∃! o, r.Follows path o) ∧
      ∀ o, r.Follows path o → ∃ reached, view.follow? path = some reached ∧
        Response.ofValue? (some (.object o)) = .ok reached ∧ o.ShownAs reached ∧
        ∀ key e, reached.get key = .ok e ↔ ∃ v, o.get? key = some v ∧ v.ShownAs e := by
  refine ⟨r.toResponse, rfl, fun path => ⟨?_, fun o hfollows => ?_⟩⟩
  · constructor
    · intro h
      obtain ⟨reached, hreached⟩ := h
      obtain ⟨o, hfollows, -⟩ := follow?_toResponse.1 hreached
      exact ⟨o, hfollows, fun o' hfollows' => hfollows.unique hfollows'⟩
    · intro h
      obtain ⟨o, hfollows, -⟩ := h
      exact ⟨o.toResponse, follow?_toResponse.2 ⟨o, hfollows, rfl⟩⟩
  · have hreached : r.toResponse.follow? path = some o.toResponse :=
      follow?_toResponse.2 ⟨o, hfollows, rfl⟩
    have hshown : o.ShownAs o.toResponse := (o.shownAs_iff _).2 rfl
    exact ⟨o.toResponse, hreached, rfl, hshown, fun _ _ => get_toResponse_eq_ok_iff⟩

-- The second of the objects listed comes after two nulls.
example :
    let label (name : String) : Value := .object ⟨none, [("name", .string name)]⟩
    let r : Record := ⟨none, [("nodes", .list [.null, label "bug", .null, label "ui"])]⟩
    (r.toResponse.follow? [.item "nodes" 1]).map Response.entries =
      some [("name", .text "ui")] := by
  rfl

end Docket.Result
