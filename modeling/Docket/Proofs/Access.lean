import Docket.Proofs.Response
/-!
How the readers of an entry agree with each other and with its kind. A reader fails for want of the
key or by the shape of the entry, and which shapes it takes is all that tells the readers apart: so
who asks for the kind first never fails in reading.
-/

namespace Docket.Result

inductive Access
  | entry
  | kind
  | text
  | optText
  | int
  | bool
  | object
  | optObject
  | objects
  deriving DecidableEq

namespace Access

/-- How a reading ends, whatever it gives. -/
def attempt (a : Access) (r : Response) (key : String) : Except ResponseError Unit :=
  match a with
  | .entry => (r.get key).map fun _ => ()
  | .kind => (r.childKind key).map fun _ => ()
  | .text => (r.text key).map fun _ => ()
  | .optText => (r.optText key).map fun _ => ()
  | .int => (r.int key).map fun _ => ()
  | .bool => (r.bool key).map fun _ => ()
  | .object => (r.object key).map fun _ => ()
  | .optObject => (r.optObject key).map fun _ => ()
  | .objects => (r.objects key).map fun _ => ()

def Succeeds (a : Access) (r : Response) (key : String) : Prop := a.attempt r key = .ok ()

def definite : List Access := [.text, .int, .bool, .object, .objects]

def Takes : Access → Entry → Prop
  | .entry, _ => True
  | .kind, _ => True
  | .text, e => ∃ t, e = .text t
  | .optText, e => (∃ t, e = .text t) ∨ e = .null
  | .int, e => ∃ n, e = .int n
  | .bool, e => ∃ b, e = .bool b
  | .object, e => ∃ o, e = .object o
  | .optObject, e => (∃ o, e = .object o) ∨ e = .null
  | .objects, e => ∃ items, e = .list items ∧ ∀ i ∈ items, i.isRecord = true ∨ i.isNull = true

end Access

def Entry.access? : Entry → Option Access
  | .null => none
  | .bool _ => some .bool
  | .int _ => some .int
  | .float _ => none
  | .text _ => some .text
  | .object _ => some .object
  | .list _ => some .objects

theorem Response.objectsOf?_eq_none_iff {items : List Entry} :
    objectsOf? items = none ↔ ¬∀ i ∈ items, i.isRecord = true ∨ i.isNull = true := by
  induction items with
  | nil => simp [objectsOf?]
  | cons e rest ih =>
    cases e with
    | null => simpa [objectsOf?, Entry.isNull] using ih
    | object o => simpa [objectsOf?, Entry.isRecord] using ih
    | _ => simp [objectsOf?, Entry.isRecord, Entry.isNull]

theorem Entry.kind_eq_singleObject_iff {e : Entry} :
    e.kind = .singleObject ↔ Access.object.Takes e := by
  cases e with
  | list items =>
    simp only [kind]
    split <;> simp [Access.Takes]
  | _ => simp [kind, Access.Takes]

theorem Entry.kind_eq_objectList_iff {e : Entry} :
    e.kind = .objectList ↔ Access.objects.Takes e := by
  cases e with
  | list items =>
    simp only [kind, Access.Takes, Entry.list.injEq, exists_eq_left', ← Bool.or_eq_true]
    rw [← List.all_eq_true]
    split <;> simp_all
  | _ => simp [kind, Access.Takes]

theorem Entry.kind_eq_other_iff {e : Entry} :
    e.kind = .other ↔ ¬Access.object.Takes e ∧ ¬Access.objects.Takes e := by
  rw [← kind_eq_singleObject_iff, ← kind_eq_objectList_iff]
  cases e.kind <;> simp

namespace Access

variable {r : Response} {key : String}

theorem attempt_absent (a : Access) (h : Entries.get? key r.entries = none) :
    a.attempt r key = .error (.keyNotFound key) := by
  have hget : r.get key = .error (.keyNotFound key) := by rw [Response.get, h]
  cases a <;>
    simp [attempt, Response.childKind, Response.text, Response.optText, Response.int,
      Response.bool, Response.object, Response.optObject, Response.objects, hget, bind,
      Except.bind, Except.map]

theorem attempt_present (a : Access) {e : Entry} (h : Entries.get? key r.entries = some e) :
    a.Takes e ∧ a.attempt r key = .ok () ∨
      ¬a.Takes e ∧ ∃ expected, a.attempt r key = .error (.unexpectedShape key expected) := by
  have hget : r.get key = .ok e := by rw [Response.get, h]
  cases a with
  | objects =>
    cases e with
    | list items =>
      cases hos : Response.objectsOf? items with
      | none =>
        have hnot := Response.objectsOf?_eq_none_iff.1 hos
        right
        simpa [Takes, attempt, Response.objects, hget, bind, Except.bind, Except.map, hos]
          using hnot
      | some os =>
        have hall : ∀ i ∈ items, i.isRecord = true ∨ i.isNull = true := by
          by_contra hnot
          rw [Response.objectsOf?_eq_none_iff.2 hnot] at hos
          cases hos
        left
        simpa [Takes, attempt, Response.objects, hget, bind, Except.bind, Except.map, hos]
          using hall
    | _ => simp [Takes, attempt, Response.objects, hget, bind, Except.bind, Except.map]
  | _ =>
    cases e <;>
      simp [Takes, attempt, Response.childKind, Response.text, Response.optText, Response.int,
        Response.bool, Response.object, Response.optObject, hget, bind, Except.bind, Except.map]

theorem succeeds_iff_takes (a : Access) {e : Entry} (h : Entries.get? key r.entries = some e) :
    a.Succeeds r key ↔ a.Takes e := by
  unfold Succeeds
  rcases a.attempt_present h with ⟨htakes, hok⟩ | ⟨hnot, expected, herror⟩
  · simp [htakes, hok]
  · simp [hnot, herror]

theorem access?_of_takes {a : Access} {e : Entry} (ha : a ∈ definite) (h : a.Takes e) :
    e.access? = some a := by
  simp only [definite, List.mem_cons, List.not_mem_nil, or_false] at ha
  rcases ha with rfl | rfl | rfl | rfl | rfl
  case inr.inr.inr.inr =>
    obtain ⟨items, rfl, _⟩ := h
    rfl
  all_goals
    obtain ⟨_, rfl⟩ := h
    rfl

end Access

namespace Response

/-- Every reader fails where the key is missing, and else only by the shape of the entry. The kind
of an entry tells which of the readers of dictionaries takes it, no two readers of one shape take
the same entry, and the optional readers take nulls besides. -/
theorem readers_agree (r : Response) (key : String) :
    (Entries.get? key r.entries = none →
      ∀ a : Access, a.attempt r key = .error (.keyNotFound key)) ∧
    ∀ e, Entries.get? key r.entries = some e →
      (r.childKind key = .ok .singleObject ↔ Access.object.Succeeds r key) ∧
      (r.childKind key = .ok .objectList ↔ Access.objects.Succeeds r key) ∧
      (r.childKind key = .ok .other ↔
        ¬Access.object.Succeeds r key ∧ ¬Access.objects.Succeeds r key) ∧
      (∀ a ∈ Access.definite, ∀ b ∈ Access.definite,
        a.Succeeds r key → b.Succeeds r key → a = b) ∧
      ((e = .null ∨ ∃ x, e = .float x) → ∀ a ∈ Access.definite, ¬a.Succeeds r key) ∧
      (Access.optText.Succeeds r key ↔ Access.text.Succeeds r key ∨ e = .null) ∧
      (r.optText key = .ok none ↔ e = .null) ∧
      (Access.optObject.Succeeds r key ↔ Access.object.Succeeds r key ∨ e = .null) ∧
      (r.optObject key = .ok none ↔ e = .null) ∧
      (∀ (a : Access) error, a.attempt r key = .error error →
        ∃ expected, error = .unexpectedShape key expected) ∧
      ∀ os, r.objects key = .ok os →
        ∃ items, e = .list items ∧ items.filter (fun i => !i.isNull) = os.map .object := by
  refine ⟨fun h a => a.attempt_absent h, fun e he => ?_⟩
  have hkind : r.childKind key = .ok e.kind := by
    rw [childKind, get, he]
    rfl
  have htakes : ∀ a : Access, a.Succeeds r key ↔ a.Takes e := fun a => a.succeeds_iff_takes he
  simp only [hkind, htakes, Except.ok.injEq]
  refine ⟨Entry.kind_eq_singleObject_iff, Entry.kind_eq_objectList_iff, Entry.kind_eq_other_iff,
    ?_, ?_, Iff.rfl, ?_, Iff.rfl, ?_, ?_, ?_⟩
  · intro a ha b hb hta htb
    have haccess := Access.access?_of_takes ha hta
    rw [Access.access?_of_takes hb htb] at haccess
    exact (Option.some.inj haccess).symm
  · rintro hshapeless a ha hta
    have haccess := Access.access?_of_takes ha hta
    rcases hshapeless with rfl | ⟨x, rfl⟩ <;> cases haccess
  · rw [optText_eq_ok_iff, he, Option.some.injEq]
    rfl
  · rw [optObject_eq_ok_iff, he, Option.some.injEq]
    rfl
  · intro a error herror
    rcases a.attempt_present he with ⟨_, hok⟩ | ⟨_, expected, hexpected⟩
    · rw [hok] at herror
      cases herror
    · rw [hexpected] at herror
      cases herror
      exact ⟨expected, rfl⟩
  · intro os hos
    obtain ⟨items, hitems, hsome⟩ := objects_eq_ok_iff.1 hos
    rw [he] at hitems
    exact ⟨items, Option.some.inj hitems, objectsOf?_eq_some_iff.1 hsome⟩

end Response

end Docket.Result
