import Docket.Query.Argument
import Mathlib.Data.List.Induction
import Mathlib.Tactic.Common
/-!
Argument sets in use. Whatever requests are made of a set, in any order and with any of them
failing, it holds valid values only, each key once, and never `first` beside `last`. It also tells
which requests have succeeded: its keys stand in the order in which they were first set, and each
holds what the last successful request for it asks for.
-/

namespace Docket

namespace Query

def NonBlank (text : String) : Prop := ∃ c ∈ text.toList, Text.isWhite c = false

inductive Setting.Asks : Setting → ArgumentValue → Prop
  | first (n : Nat) : Asks (.first n) (.count n)
  | last (n : Nat) : Asks (.last n) (.count n)
  | before (cursor : String) : Asks (.before cursor) (.cursor cursor)
  | after (cursor : String) : Asks (.after cursor) (.cursor cursor)
  | query (text : String) : Asks (.query text) (.text text)
  | type {text : String} {t : SearchType} (h : Text.sameLetters t.text (Text.trim text) = true) :
      Asks (.type text) (.search t)
  | bind (key : ArgumentKey) (x : VariableName) : Asks (.bind key x.text) (.variable x)

inductive Setting.Invalid : Setting → Prop
  | first : Invalid (.first 0)
  | last : Invalid (.last 0)
  | before {cursor : String} (h : ¬NonBlank cursor) : Invalid (.before cursor)
  | after {cursor : String} (h : ¬NonBlank cursor) : Invalid (.after cursor)
  | query {text : String} (h : ¬NonBlank text) : Invalid (.query text)
  | type {text : String} (h : ∀ t : SearchType, Text.sameLetters t.text (Text.trim text) = false) :
      Invalid (.type text)
  | bindType (name : String) : Invalid (.bind .type name)
  | bindName (key : ArgumentKey) {name : String} (h : isWord name.toList = false) :
      Invalid (.bind key name)

inductive ArgumentKey.Allows : ArgumentKey → ArgumentValue → Prop
  | first {n : Nat} (h : 0 < n) : Allows .first (.count n)
  | last {n : Nat} (h : 0 < n) : Allows .last (.count n)
  | before {cursor : String} (h : NonBlank cursor) : Allows .before (.cursor cursor)
  | after {cursor : String} (h : NonBlank cursor) : Allows .after (.cursor cursor)
  | query {text : String} (h : NonBlank text) : Allows .query (.text text)
  | type (t : SearchType) : Allows .type (.search t)
  | variable {key : ArgumentKey} (h : key ≠ .type) (x : VariableName) : Allows key (.variable x)

theorem positive_cases (key : ArgumentKey) (n : Nat) :
    (0 < n ∧ Setting.positive key n = .ok (.count n)) ∨
      (n = 0 ∧ ∃ e, Setting.positive key n = .error e) := by
  unfold Setting.positive
  by_cases h : n = 0
  · exact .inr ⟨h, _, if_pos h⟩
  · exact .inl ⟨Nat.pos_of_ne_zero h, if_neg h⟩

theorem nonBlank_cases (key : ArgumentKey) (wrap : String → ArgumentValue) (s : String) :
    (NonBlank s ∧ Setting.nonBlank key wrap s = .ok (wrap s)) ∨
      (¬NonBlank s ∧ ∃ e, Setting.nonBlank key wrap s = .error e) := by
  have hblank : Text.isBlank s = true ↔ ¬NonBlank s := by
    simp [Text.isBlank, NonBlank]
  unfold Setting.nonBlank
  by_cases h : Text.isBlank s = true
  · exact .inr ⟨hblank.1 h, _, if_pos h⟩
  · exact .inl ⟨not_not.1 (mt hblank.2 h), if_neg h⟩

theorem SearchType.read_cases (s : String) :
    (∃ t, Text.sameLetters t.text (Text.trim s) = true ∧ SearchType.read s = .ok t) ∨
      ((∀ t : SearchType, Text.sameLetters t.text (Text.trim s) = false) ∧
        ∃ e, SearchType.read s = .error e) := by
  unfold SearchType.read SearchType.ofString?
  cases h : SearchType.all.find? fun t => Text.sameLetters t.text (Text.trim s) with
  | some t => exact .inl ⟨t, by simpa using List.find?_some h, rfl⟩
  | none =>
    refine .inr ⟨fun t => ?_, _, rfl⟩
    have hall := List.find?_eq_none.1 h t (by cases t <;> decide)
    simpa using hall

theorem VariableName.read_cases (s : String) :
    (∃ x : VariableName, x.text = s ∧ VariableName.read s = .ok x) ∨
      (isWord s.toList = false ∧ ∃ e, VariableName.read s = .error e) := by
  unfold VariableName.read
  by_cases h : isWord s.toList = true
  · exact .inl ⟨⟨s, h⟩, rfl, dif_pos h⟩
  · exact .inr ⟨by simpa using h, _, dif_neg h⟩

theorem Setting.value_cases (r : Setting) :
    (∃ v, r.value = .ok v ∧ r.Asks v ∧ r.key.Allows v ∧ ¬r.Invalid) ∨
      ∃ e, r.value = .error e ∧ r.Invalid := by
  cases r with
  | first n =>
    rcases positive_cases .first n with ⟨h, hv⟩ | ⟨rfl, e, he⟩
    · exact .inl ⟨_, hv, .first n, .first h, by rintro ⟨⟩; exact Nat.lt_irrefl 0 h⟩
    · exact .inr ⟨e, he, .first⟩
  | last n =>
    rcases positive_cases .last n with ⟨h, hv⟩ | ⟨rfl, e, he⟩
    · exact .inl ⟨_, hv, .last n, .last h, by rintro ⟨⟩; exact Nat.lt_irrefl 0 h⟩
    · exact .inr ⟨e, he, .last⟩
  | before cursor =>
    rcases nonBlank_cases .before .cursor cursor with ⟨h, hv⟩ | ⟨h, e, he⟩
    · exact .inl ⟨_, hv, .before cursor, .before h, by rintro ⟨⟩; contradiction⟩
    · exact .inr ⟨e, he, .before h⟩
  | after cursor =>
    rcases nonBlank_cases .after .cursor cursor with ⟨h, hv⟩ | ⟨h, e, he⟩
    · exact .inl ⟨_, hv, .after cursor, .after h, by rintro ⟨⟩; contradiction⟩
    · exact .inr ⟨e, he, .after h⟩
  | query text =>
    rcases nonBlank_cases .query .text text with ⟨h, hv⟩ | ⟨h, e, he⟩
    · exact .inl ⟨_, hv, .query text, .query h, by rintro ⟨⟩; contradiction⟩
    · exact .inr ⟨e, he, .query h⟩
  | type text =>
    rcases SearchType.read_cases text with ⟨t, ht, hv⟩ | ⟨h, e, he⟩
    · refine .inl ⟨.search t, by rw [value, hv]; rfl, .type ht, .type t, ?_⟩
      rintro ⟨⟩
      rename_i h
      rw [h t] at ht
      cases ht
    · exact .inr ⟨e, by rw [value, he]; rfl, .type h⟩
  | bind key name =>
    by_cases hkey : key = .type
    · subst hkey
      exact .inr ⟨_, rfl, .bindType name⟩
    · have hvalue : (Setting.bind key name).value = (VariableName.read name).map .variable := by
        cases key <;> first | rfl | contradiction
      rcases VariableName.read_cases name with ⟨x, rfl, hv⟩ | ⟨h, e, he⟩
      · refine .inl ⟨.variable x, by rw [hvalue, hv]; rfl, .bind key x, .variable hkey x, ?_⟩
        rintro ⟨⟩
        · exact hkey rfl
        · rename_i h
          rw [x.isWord_text] at h
          cases h
      · exact .inr ⟨e, by rw [hvalue, he]; rfl, .bindName key h⟩

namespace ArgumentSet

def Bars (s : ArgumentSet) (key : ArgumentKey) : Prop :=
  (key = .first ∧ .last ∈ Entries.keys s.entries) ∨ (key = .last ∧ .first ∈ Entries.keys s.entries)

theorem conflict?_cases (s : ArgumentSet) (key : ArgumentKey) :
    (s.conflict? key = none ∧ ¬s.Bars key) ∨
      ∃ rival, s.conflict? key = some rival ∧ s.Bars key := by
  have hget : ∀ k, (s.get? k).isSome = true ↔ k ∈ Entries.keys s.entries := fun _ =>
    Entries.isSome_get?_iff
  cases key with
  | first =>
    by_cases h : .last ∈ Entries.keys s.entries
    · exact .inr ⟨.last, by simp [conflict?, ArgumentKey.rival?, hget, h], .inl ⟨rfl, h⟩⟩
    · exact .inl ⟨by simp [conflict?, ArgumentKey.rival?, hget, h], by simp [Bars, h]⟩
  | last =>
    by_cases h : .first ∈ Entries.keys s.entries
    · exact .inr ⟨.first, by simp [conflict?, ArgumentKey.rival?, hget, h], .inr ⟨rfl, h⟩⟩
    · exact .inl ⟨by simp [conflict?, ArgumentKey.rival?, hget, h], by simp [Bars, h]⟩
  | _ => exact .inl ⟨rfl, by simp [Bars]⟩

theorem run_perform (s : ArgumentSet) (r : Setting) :
    (perform r).run s = match r.value with
      | .error e => .error e s
      | .ok v => match s.conflict? r.key with
        | some existing => .error (.conflictingPagination r.key existing) s
        | none => .ok () ⟨Entries.put r.key v s.entries⟩ := by
  unfold perform
  cases r.value with
  | error e => rfl
  | ok v =>
    change EStateM.run (match s.conflict? r.key with
      | some existing => _
      | none => _) s = _
    cases s.conflict? r.key <;> rfl

/-- On a set that is not kept in use a request gives the same set or the same failure. -/
theorem set_eq (s : ArgumentSet) (r : Setting) :
    s.set r = match (perform r).run s with
      | .ok _ t => .ok t
      | .error e _ => .error e := by
  rw [run_perform, set]
  cases r.value with
  | error e => rfl
  | ok v =>
    change (match s.conflict? r.key with
      | some existing => _
      | none => _) = _
    cases s.conflict? r.key <;> rfl

theorem perform_cases (s : ArgumentSet) (r : Setting) :
    (∃ v, (perform r).run s = .ok () ⟨Entries.put r.key v s.entries⟩ ∧ r.Asks v ∧ r.key.Allows v ∧
      ¬r.Invalid ∧ ¬s.Bars r.key) ∨
    ∃ e, (perform r).run s = .error e s ∧ (r.Invalid ∨ s.Bars r.key) := by
  rw [run_perform]
  rcases r.value_cases with ⟨v, hv, hasks, hallows, hvalid⟩ | ⟨e, he, hinvalid⟩
  · rcases s.conflict?_cases r.key with ⟨hnone, hfree⟩ | ⟨rival, hrival, hbars⟩
    · exact .inl ⟨v, by rw [hv, hnone], hasks, hallows, hvalid, hfree⟩
    · exact .inr ⟨_, by rw [hv, hrival], .inr hbars⟩
  · exact .inr ⟨e, by rw [he], .inl hinvalid⟩

structure IsSound (s : ArgumentSet) : Prop where
  nodup : (Entries.keys s.entries).Nodup
  apart : ¬(.first ∈ Entries.keys s.entries ∧ .last ∈ Entries.keys s.entries)
  allows : ∀ e ∈ s.entries, e.1.Allows e.2

theorem isSound_empty : empty.IsSound := ⟨List.nodup_nil, by simp [empty, Entries.keys], nofun⟩

theorem IsSound.put {s : ArgumentSet} (h : s.IsSound) {key : ArgumentKey} {v : ArgumentValue}
    (hv : key.Allows v) (hfree : ¬s.Bars key) : IsSound ⟨Entries.put key v s.entries⟩ where
  nodup := Entries.nodup_keys_put h.nodup key v
  apart := by
    have hapart := h.apart
    unfold Bars at hfree
    show ¬(_ ∈ Entries.keys (Entries.put key v s.entries) ∧
      _ ∈ Entries.keys (Entries.put key v s.entries))
    rw [Entries.keys_put]
    split
    · exact hapart
    · simp only [List.mem_append, List.mem_singleton]
      rintro ⟨hfirst | hfirst, hlast | hlast⟩
      · exact hapart ⟨hfirst, hlast⟩
      · exact hfree (.inr ⟨hlast.symm, hfirst⟩)
      · exact hfree (.inl ⟨hfirst.symm, hlast⟩)
      · cases hfirst.trans hlast.symm
  allows e he := by
    rcases Entries.eq_or_mem_of_mem_put he with rfl | he
    · exact hv
    · exact h.allows e he

def lastFor (key : ArgumentKey) (rs : List Setting) : Option Setting :=
  rs.reverse.find? fun r => r.key = key

/-- The set tells what was asked of it: its keys in the order of the first request for each, and
under each key what the last one asks for. -/
structure Tells (s : ArgumentSet) (rs : List Setting) : Prop where
  keys : Entries.keys s.entries = (rs.map Setting.key).eraseDups
  value : ∀ key r, lastFor key rs = some r → ∃ v, s.get? key = some v ∧ r.Asks v

theorem eraseDups_concat {α : Type} [DecidableEq α] (l : List α) (a : α) :
    (l ++ [a]).eraseDups = if a ∈ l then l.eraseDups else l.eraseDups ++ [a] := by
  rw [List.eraseDups_append]
  split <;> rename_i h <;> simp [List.removeAll, List.eraseDups_cons, h]

theorem tells_empty : empty.Tells [] := ⟨rfl, nofun⟩

theorem Tells.put {s : ArgumentSet} {rs : List Setting} (h : s.Tells rs) {r : Setting}
    {v : ArgumentValue} (hv : r.Asks v) : Tells ⟨Entries.put r.key v s.entries⟩ (rs ++ [r]) where
  keys := by
    show Entries.keys (Entries.put r.key v s.entries) = _
    rw [Entries.keys_put, h.keys, List.map_append, List.map_singleton, eraseDups_concat]
    simp only [List.mem_eraseDups]
  value key q hq := by
    rw [lastFor, List.reverse_append, List.reverse_singleton, List.singleton_append,
      List.find?_cons] at hq
    by_cases hkey : r.key = key
    · simp only [hkey, decide_true, Option.some.injEq] at hq
      subst hkey hq
      exact ⟨v, Entries.get?_put_self r.key v s.entries, hv⟩
    · simp only [hkey, decide_false] at hq
      obtain ⟨w, hw, hasks⟩ := h.value key q hq
      exact ⟨w, by rw [get?, Entries.get?_put_of_ne (Ne.symm hkey)]; exact hw, hasks⟩

def acceptedOn : ArgumentSet → List Setting → List Setting
  | _, [] => []
  | s, r :: rs =>
    match (perform r).run s with
    | .ok _ t => r :: acceptedOn t rs
    | .error _ t => acceptedOn t rs

def accepted (rs : List Setting) : List Setting := acceptedOn empty rs

theorem after_concat (rs : List Setting) (r : Setting) : after (rs ++ [r]) = (after rs).left r := by
  simp [after, List.foldl_append]

theorem acceptedOn_concat (s : ArgumentSet) (rs : List Setting) (r : Setting) :
    acceptedOn s (rs ++ [r]) = acceptedOn s rs ++ acceptedOn (rs.foldl left s) [r] := by
  induction rs generalizing s with
  | nil => rfl
  | cons q rs ih =>
    rw [List.cons_append, acceptedOn, acceptedOn, List.foldl_cons, left]
    cases (perform q).run s with
    | ok _ t => exact congrArg (q :: ·) (ih t)
    | error _ t => exact ih t

theorem isSound_and_tells_after (rs : List Setting) :
    (after rs).IsSound ∧ (after rs).Tells (accepted rs) := by
  -- by the last request: the set it is made of has been used by those before it
  induction rs using List.reverseRecOn with
  | nil => exact ⟨isSound_empty, tells_empty⟩
  | append_singleton rs r ih =>
    obtain ⟨hsound, htells⟩ := ih
    have haccepted : accepted (rs ++ [r]) = accepted rs ++ acceptedOn (after rs) [r] :=
      acceptedOn_concat empty rs r
    rw [after_concat, haccepted]
    rcases (after rs).perform_cases r with ⟨v, hok, hasks, hallows, -, hfree⟩ | ⟨e, herror, -⟩
    · rw [left, acceptedOn, hok]
      exact ⟨hsound.put hallows hfree, htells.put hasks⟩
    · simp only [left, acceptedOn, herror, List.append_nil]
      exact ⟨hsound, htells⟩

theorem acceptedOn_sublist (s : ArgumentSet) (rs : List Setting) :
    (acceptedOn s rs).Sublist rs := by
  induction rs generalizing s with
  | nil => exact .slnil
  | cons r rs ih =>
    rw [acceptedOn]
    split
    · exact (ih _).cons_cons r
    · exact (ih _).cons r

theorem foldlM_set_eq_ok_iff {s t : ArgumentSet} {rs : List Setting} :
    rs.foldlM set s = .ok t ↔ acceptedOn s rs = rs ∧ rs.foldl left s = t := by
  induction rs generalizing s with
  | nil => simp [pure, Except.pure, acceptedOn]
  | cons r rs ih =>
    rw [List.foldlM_cons, set_eq, acceptedOn, List.foldl_cons, left]
    cases (perform r).run s with
    | ok _ u => simpa [bind, Except.bind] using ih
    | error e u =>
      have hshort := (acceptedOn_sublist u rs).length_le
      refine iff_of_false nofun fun h => ?_
      have hlength : (acceptedOn u rs).length = (r :: rs).length := congrArg List.length h.1
      rw [List.length_cons] at hlength
      omega

theorem ofSettings_eq_ok_iff {s : ArgumentSet} {rs : List Setting} :
    ofSettings rs = .ok s ↔ accepted rs = rs ∧ after rs = s :=
  foldlM_set_eq_ok_iff

theorem isSound_and_tells_of_ofSettings {s : ArgumentSet} {rs : List Setting}
    (h : ofSettings rs = .ok s) : s.IsSound ∧ s.Tells rs := by
  obtain ⟨hall, rfl⟩ := ofSettings_eq_ok_iff.1 h
  obtain ⟨hsound, htells⟩ := isSound_and_tells_after rs
  rw [hall] at htells
  exact ⟨hsound, htells⟩

/-- The set left by any requests is sound and tells which of them succeeded. A further request fails
if it is invalid or barred, and then leaves the set as it was, and it succeeds otherwise. -/
theorem after_tells (rs : List Setting) :
    (after rs).IsSound ∧ (after rs).Tells (accepted rs) ∧
      ∀ r, ((∃ e t, (perform r).run (after rs) = .error e t) ↔ r.Invalid ∨ (after rs).Bars r.key) ∧
        ∀ e t, (perform r).run (after rs) = .error e t → t = after rs := by
  obtain ⟨hsound, htells⟩ := isSound_and_tells_after rs
  refine ⟨hsound, htells, fun r => ?_⟩
  rcases (after rs).perform_cases r with ⟨v, hok, -, -, hvalid, hfree⟩ | ⟨e, herror, hwhy⟩
  · rw [hok]
    refine ⟨⟨nofun, fun h => ?_⟩, nofun⟩
    exact absurd h (not_or.2 ⟨hvalid, hfree⟩)
  · rw [herror]
    refine ⟨iff_of_true ⟨e, _, rfl⟩ hwhy, fun e' t h => ?_⟩
    cases h
    rfl

-- The third and the fourth request fail, one for its rival and one for its blank cursor.
example : (after [.after "abc", .first 10, .bind .last "tail", .after " ", .after "def",
    .bind .first "count"]).entries =
      [(.after, .cursor "def"), (.first, .variable (.ofWord "count"))] := by
  decide

end ArgumentSet

end Query

end Docket
