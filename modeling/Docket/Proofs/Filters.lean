import Docket.Proofs.Except
import Docket.Sidebar.Filter
import Mathlib.Tactic.Common
/-!
What a search filter says. The names that are accepted have neither white space nor quotes in them,
so that a filter, split at its white space, has exactly the terms it was made of: no name adds one,
and the terms tell the search, the user and the scope.
-/

namespace Docket

namespace Text

def pieces (s : String) : List String := (s.toList.splitOnP isWhite).map String.ofList

/-- A text that stands as one term, whatever is around it. -/
def IsTerm (s : String) : Prop := s ≠ "" ∧ ∀ c ∈ s.toList, isWhite c = false ∧ c ≠ '"'

theorem isTerm_iff {s : String} : isTerm s.toList = true ↔ IsTerm s := by
  simp [isTerm, IsTerm]

theorem splitOnP_intercalate {words : List (List Char)} (hne : words ≠ [])
    (h : ∀ w ∈ words, ∀ c ∈ w, isWhite c = false) :
    ([' '].intercalate words).splitOnP isWhite = words := by
  induction words with
  | nil => contradiction
  | cons w words ih =>
    obtain ⟨hw, hwords⟩ := List.forall_mem_cons.1 h
    cases words with
    | nil => rw [List.intercalate_singleton, List.splitOnP_eq_singleton hw]
    | cons v words =>
      rw [List.intercalate_cons_cons, List.append_assoc, List.singleton_append,
        List.splitOnP_append_cons w _ (by decide), List.splitOnP_eq_singleton hw,
        ih (by simp) hwords, List.singleton_append]

theorem pieces_intercalate {words : List String} (hne : words ≠ [])
    (h : ∀ w ∈ words, ∀ c ∈ w.toList, isWhite c = false) :
    pieces (String.intercalate " " words) = words := by
  have hsplit := @splitOnP_intercalate (words.map String.toList) (by simpa using hne)
    (by simpa using h)
  rw [pieces, String.toList_intercalate]
  change (List.splitOnP isWhite ([' '].intercalate _)).map String.ofList = words
  rw [hsplit, List.map_map]
  simp

theorem mem_intercalate {c : Char} {words : List String}
    (h : c ∈ (String.intercalate " " words).toList) : c = ' ' ∨ ∃ w ∈ words, c ∈ w.toList := by
  induction words with
  | nil => cases h
  | cons w words ih =>
    cases words with
    | nil => exact .inr ⟨w, List.mem_singleton_self w, by simpa using h⟩
    | cons v words =>
      rw [String.intercalate_cons_cons, String.toList_append, String.toList_append,
        List.mem_append, List.mem_append] at h
      rcases h with (hw | hblank) | hrest
      · exact .inr ⟨w, List.mem_cons_self, hw⟩
      · exact .inl (by simpa using hblank)
      · refine (ih hrest).imp_right fun hwords => ?_
        obtain ⟨u, hu, hc⟩ := hwords
        exact ⟨u, List.mem_cons_of_mem w hu, hc⟩

theorem IsTerm.append {s t : String} (hs : isTerm s.toList = true) (ht : IsTerm t) :
    IsTerm (s ++ t) := by
  obtain ⟨hne, hs⟩ := isTerm_iff.1 hs
  refine ⟨fun h => hne (String.append_eq_empty_iff.1 h).1, fun c hc => ?_⟩
  rw [String.toList_append, List.mem_append] at hc
  exact hc.elim (hs c) (ht.2 c)

end Text

theorem Username.read_eq_ok_iff {s : String} {user : Username} :
    Username.read s = .ok user ↔ user.text = Text.trim s := by
  obtain ⟨text, htext⟩ := user
  have hne : text ≠ "" := (Text.isTerm_iff.1 htext).1
  simp only [Username.read]
  constructor
  · intro h
    split at h
    · cases h
    · split at h <;> cases h
      rfl
  · rintro rfl
    rw [if_neg hne, dif_pos htext]

theorem Organization.read_eq_ok_iff {s : String} {org : Organization} :
    Organization.read s = .ok org ↔ org.text = Text.trim s := by
  obtain ⟨text, htext⟩ := org
  simp only [Organization.read]
  constructor
  · intro h
    split at h <;> cases h
    rfl
  · rintro rfl
    rw [dif_pos htext]

theorem Username.exists_read_iff {s : String} :
    (∃ user, Username.read s = .ok user) ↔ Text.IsTerm (Text.trim s) := by
  simp only [read_eq_ok_iff]
  constructor
  · rintro ⟨user, huser⟩
    exact huser ▸ Text.isTerm_iff.1 user.isTerm_text
  · intro h
    exact ⟨⟨Text.trim s, Text.isTerm_iff.2 h⟩, rfl⟩

theorem Organization.exists_read_iff {s : String} :
    (∃ org, Organization.read s = .ok org) ↔ Text.IsTerm (Text.trim s) := by
  simp only [read_eq_ok_iff]
  constructor
  · rintro ⟨org, horg⟩
    exact horg ▸ Text.isTerm_iff.1 org.isTerm_text
  · intro h
    exact ⟨⟨Text.trim s, Text.isTerm_iff.2 h⟩, rfl⟩

namespace Sidebar.Stream

def role : Stream → String
  | .openItems => "author"
  | .reviewRequested => "review-requested"
  | .assignments => "assignee"

def wording (s : Stream) (user : String) (organization : Option String) : List String :=
  (organization.map ("org:" ++ ·)).toList ++ ["is:open"] ++
    (if s = .assignments then [] else ["is:pr"]) ++ [s.role ++ ":" ++ user, "archived:false"]

theorem role_inj {s s' : Stream} (h : s.role = s'.role) : s = s' := by
  revert h
  cases s <;> cases s' <;> simp [role]

theorem userTerm_eq (s : Stream) (user : Username) :
    s.userTerm user = s.role ++ ":" ++ user.text := by
  cases s <;> rfl

theorem terms_eq (s : Stream) (user : Username) (scope : Scope) :
    s.terms user scope = s.wording user.text (scope.map (·.text)) := by
  rw [terms, wording, userTerm_eq]
  cases s <;> cases scope <;> rfl

theorem isTerm_of_mem_terms {s : Stream} {user : Username} {scope : Scope} {w : String}
    (h : w ∈ s.terms user scope) : Text.IsTerm w := by
  have huser := Text.isTerm_iff.1 user.isTerm_text
  simp only [terms, List.mem_append, List.mem_cons, List.not_mem_nil, or_false] at h
  rcases h with (hscope | rfl | hkind) | rfl | rfl
  · cases scope with
    | none => cases hscope
    | some org =>
      rw [List.mem_singleton.1 hscope]
      exact Text.IsTerm.append (by decide) (Text.isTerm_iff.1 org.isTerm_text)
  · exact Text.isTerm_iff.1 (by decide)
  · cases s with
    | assignments => cases hkind
    | _ =>
      rw [List.mem_singleton.1 hkind]
      exact Text.isTerm_iff.1 (by decide)
  · cases s <;> exact Text.IsTerm.append (by decide) huser
  · exact Text.isTerm_iff.1 (by decide)

theorem takeWhile_userTerm (s : Stream) (user : Username) :
    (s.userTerm user).toList.takeWhile (· ≠ ':') = s.role.toList := by
  have hrole : ∀ c ∈ s.role.toList, decide (c ≠ ':') = true := by
    rw [← List.all_eq_true]
    cases s <;> rfl
  rw [userTerm_eq, String.toList_append, String.toList_append, List.append_assoc,
    List.takeWhile_append_of_pos hrole]
  exact List.append_nil _

theorem userTerm_inj {s s' : Stream} {user user' : Username}
    (h : s.userTerm user = s'.userTerm user') : s = s' ∧ user = user' := by
  have hrole : s.role.toList = s'.role.toList := by
    rw [← takeWhile_userTerm s user, ← takeWhile_userTerm s' user', h]
  obtain rfl := role_inj (String.toList_inj.1 hrole)
  obtain ⟨text, _⟩ := user
  obtain ⟨text', _⟩ := user'
  rw [userTerm_eq, userTerm_eq] at h
  obtain rfl : text = text' := (String.append_right_inj _).1 h
  exact ⟨rfl, rfl⟩

theorem scopeTerms_inj {scope scope' : Scope} (h : scopeTerms scope = scopeTerms scope') :
    scope = scope' := by
  cases scope with
  | none =>
    cases scope' with
    | none => rfl
    | some org => cases h
  | some org =>
    cases scope' with
    | none => cases h
    | some org' =>
      obtain ⟨text, _⟩ := org
      obtain ⟨text', _⟩ := org'
      obtain rfl : text = text' := (String.append_right_inj _).1 (List.cons.inj h).1
      rfl

theorem terms_inj {s s' : Stream} {user user' : Username} {scope scope' : Scope}
    (h : s.terms user scope = s'.terms user' scope') : s = s' ∧ user = user' ∧ scope = scope' := by
  -- the user's term is the last but one, and what is before it has the scope's term at its front
  obtain ⟨hfront, hback⟩ := List.append_inj' h rfl
  obtain ⟨rfl, rfl⟩ := userTerm_inj (List.cons.inj hback).1
  exact ⟨rfl, rfl, scopeTerms_inj (List.append_cancel_right hfront)⟩

theorem pieces_filter (s : Stream) (user : Username) (scope : Scope) :
    Text.pieces (s.filter user scope) = s.terms user scope := by
  apply Text.pieces_intercalate
  · simp [terms]
  · intro w hw c hc
    exact ((isTerm_of_mem_terms hw).2 c hc).1

theorem filter_inj {s s' : Stream} {user user' : Username} {scope scope' : Scope}
    (h : s.filter user scope = s'.filter user' scope') :
    s = s' ∧ user = user' ∧ scope = scope' := by
  apply terms_inj
  rw [← pieces_filter, ← pieces_filter, h]

theorem quote_not_mem_filter (s : Stream) (user : Username) (scope : Scope) :
    '"' ∉ (s.filter user scope).toList := by
  intro h
  rcases Text.mem_intercalate h with hblank | ⟨w, hw, hc⟩
  · cases hblank
  · exact ((isTerm_of_mem_terms hw).2 _ hc).2 rfl

theorem map_text_of_mapM_read {group : Option String} {scope : Scope}
    (h : group.mapM Organization.read = .ok scope) :
    scope.map (·.text) = group.map Text.trim := by
  cases group with
  | none =>
    cases h
    rfl
  | some name =>
    rw [Option.mapM_some] at h
    obtain ⟨org, horg, rfl⟩ := map_eq_ok_iff.1 h
    rw [Option.map_some, Option.map_some, Organization.read_eq_ok_iff.1 horg]

/-- A name is accepted for what it is without the white space around it. A filter made of accepted
names has the terms of its search and no others, and no other search has the same filter. -/
theorem filter_tells :
    (∀ name, (∃ user, Username.read name = .ok user) ↔ Text.IsTerm (Text.trim name)) ∧
    (∀ name, (∃ org, Organization.read name = .ok org) ↔ Text.IsTerm (Text.trim name)) ∧
    ∀ (s : Stream) (login : String) (group : Option String) (user : Username) (scope : Scope),
      Username.read login = .ok user → group.mapM Organization.read = .ok scope →
        Text.pieces (s.filter user scope) = s.wording (Text.trim login) (group.map Text.trim) ∧
        (∀ w ∈ Text.pieces (s.filter user scope), w ≠ "") ∧
        '"' ∉ (s.filter user scope).toList ∧
        ∀ s' user' scope', s'.filter user' scope' = s.filter user scope →
          s' = s ∧ user' = user ∧ scope' = scope := by
  refine ⟨fun _ => Username.exists_read_iff, fun _ => Organization.exists_read_iff, ?_⟩
  intro s login group user scope hlogin hgroup
  rw [pieces_filter]
  refine ⟨?_, fun w hw => (isTerm_of_mem_terms hw).1, quote_not_mem_filter s user scope, ?_⟩
  · rw [terms_eq, Username.read_eq_ok_iff.1 hlogin, map_text_of_mapM_read hgroup]
  · exact fun s' user' scope' h => filter_inj h

theorem filter_tells_sample :
    Username.read " is:pr\n" = .ok ⟨"is:pr", by decide⟩ ∧
    (some "archived:true ").mapM Organization.read = .ok (some ⟨"archived:true", by decide⟩) ∧
    Text.pieces (assignments.filter ⟨"is:pr", by decide⟩ (some ⟨"archived:true", by decide⟩)) =
      ["org:archived:true", "is:open", "assignee:is:pr", "archived:false"] := by
  have hlogin : Username.read " is:pr\n" = .ok ⟨"is:pr", by decide⟩ := by rfl
  have hgroup : (some "archived:true ").mapM Organization.read =
      .ok (some ⟨"archived:true", by decide⟩) := by rfl
  obtain ⟨hpieces, -⟩ := filter_tells.2.2 .assignments _ _ _ _ hlogin hgroup
  exact ⟨hlogin, hgroup, hpieces.trans (by decide)⟩

end Sidebar.Stream

end Docket
