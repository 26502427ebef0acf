import Docket.Result.Response
import Mathlib.Tactic.Common
/-!
What it takes for an entry of a response to be read: the key is there and its value has the shape
that was asked for.
-/

namespace Docket.Result

theorem get?_toFields (key : String) (fields : List (String × Value)) :
    Entries.get? key (toFields fields) = (Entries.get? key fields).map Value.toEntry := by
  induction fields with
  | nil => rfl
  | cons field rest ih =>
    by_cases h : field.1 = key <;> simp [toFields, Entries.get?, h, ih]

theorem Record.get?_toResponse (r : Record) (key : String) :
    Entries.get? key r.toResponse.entries = (r.get? key).map Value.toEntry := by
  cases r
  exact get?_toFields key _

theorem toEntries_eq_map (values : List Value) : toEntries values = values.map Value.toEntry := by
  induction values with
  | nil => rfl
  | cons v rest ih => rw [toEntries, ih, List.map_cons]

theorem isNull_toEntry (v : Value) : v.toEntry.isNull = v.isNull := by
  cases v <;> rfl

namespace Response

theorem object_eq_ok_iff {r o : Response} {key : String} :
    r.object key = .ok o ↔ Entries.get? key r.entries = some (.object o) := by
  unfold object get
  cases Entries.get? key r.entries with
  | none => simp [bind, Except.bind]
  | some e => cases e <;> simp [bind, Except.bind]

theorem bool_eq_ok_iff {r : Response} {key : String} {b : Bool} :
    r.bool key = .ok b ↔ Entries.get? key r.entries = some (.bool b) := by
  unfold bool get
  cases Entries.get? key r.entries with
  | none => simp [bind, Except.bind]
  | some e => cases e <;> simp [bind, Except.bind]

theorem optText_eq_ok_iff {r : Response} {key : String} {t : Option String} :
    r.optText key = .ok t ↔ Entries.get? key r.entries = some (t.elim .null .text) := by
  unfold optText get
  cases Entries.get? key r.entries with
  | none => simp [bind, Except.bind]
  | some e => cases e <;> cases t <;> simp [bind, Except.bind]

theorem optObject_eq_ok_iff {r : Response} {key : String} {o : Option Response} :
    r.optObject key = .ok o ↔ Entries.get? key r.entries = some (o.elim .null .object) := by
  unfold optObject get
  cases Entries.get? key r.entries with
  | none => simp [bind, Except.bind]
  | some e => cases e <;> cases o <;> simp [bind, Except.bind]

theorem objects_eq_ok_iff {r : Response} {key : String} {os : List Response} :
    r.objects key = .ok os ↔
      ∃ items, Entries.get? key r.entries = some (.list items) ∧ objectsOf? items = some os := by
  unfold objects get
  cases Entries.get? key r.entries with
  | none => simp [bind, Except.bind]
  | some e =>
    cases e with
    | list items => cases h : objectsOf? items <;> simp [bind, Except.bind, h]
    | _ => simp [bind, Except.bind]

theorem objectsOf?_eq_some_iff {items : List Entry} {os : List Response} :
    objectsOf? items = some os ↔ items.filter (fun e => !e.isNull) = os.map .object := by
  induction items generalizing os with
  | nil => cases os <;> simp [objectsOf?]
  | cons e rest ih =>
    cases e with
    | null => simpa [objectsOf?, Entry.isNull] using ih
    | object o => cases os <;> simp [objectsOf?, Entry.isNull, ih, and_comm]
    | _ => cases os <;> simp [objectsOf?, Entry.isNull]

end Response

end Docket.Result
