import Docket.Proofs.Filters
import Docket.Proofs.Splitting
import Docket.Proofs.Trimming
import Docket.Settings.Basic
import Mathlib.Data.List.Forall2
/-!
The organizations that settings list. Each segment of the list that is not blank names one, without
the white space around it, and the first that cannot is reported; so a list of names that is written
with commas, with blank segments among them and white space around them, gives those names.
-/

namespace Docket

namespace Text

theorem trim_trim (s : String) : trim (trim s) = trim s := by
  refine (Trims.eq_trim ⟨⟨"", "", rfl, rfl, ?_⟩, (trims_trim s).first, (trims_trim s).last⟩).symm
  simp

theorem not_isBlank_iff {s : String} : isBlank s = false ↔ trim s ≠ "" := by
  rw [← Bool.not_eq_true, ne_eq, trim_eq_empty_iff]

theorem Trims.subset {s t : String} (h : Trims s t) {c : Char} (hc : c ∈ t.toList) :
    c ∈ s.toList := by
  obtain ⟨before, after, -, -, rfl⟩ := h.around
  simp [hc]

theorem forall₂_trims_iff {ss ts : List String} : List.Forall₂ Trims ss ts ↔ ts = ss.map trim := by
  induction ss generalizing ts with
  | nil => simp
  | cons s ss ih => cases ts <;> simp [trims_iff, ih]

end Text

theorem Organization.read_eq_error_iff {s : String} {e : Failure} :
    Organization.read s = .error e ↔
      ¬Text.IsTerm (Text.trim s) ∧ e = .invalidName .organization (Text.trim s) := by
  rw [← Text.isTerm_iff, read]
  split
  · rename_i h
    simp [h]
  · rename_i h
    simp [h, eq_comm]

namespace Settings

structure Offends (t name : String) : Prop where
  filled : Text.isBlank t = false
  trims : Text.Trims t name
  bad : ∃ c ∈ name.toList, Text.isWhite c = true ∨ c = '"'

def Lists (s : Settings) (segments : List String) : Prop :=
  (s.organizations = none ∧ segments = []) ∨
    ∃ text, s.organizations = some text ∧ Text.Joins text segments

/-- Names with segments that give them: some white space around each, and blank segments anywhere.
-/
inductive Padded : List String → List String → Prop
  | nil : Padded [] []
  | blank {t : String} {names segments : List String} (h : Text.isBlank t = true)
      (rest : Padded names segments) : Padded names (t :: segments)
  | name {before name after : String} {names segments : List String}
      (hbefore : Text.isBlank before = true) (hafter : Text.isBlank after = true)
      (rest : Padded names segments) :
      Padded (name :: names) ((before ++ name ++ after) :: segments)

theorem offends_iff {t name : String} :
    Offends t name ↔ Text.isBlank t = false ∧ name = Text.trim t ∧ ¬Text.IsTerm name := by
  constructor
  · intro h
    refine ⟨h.filled, h.trims.eq_trim, fun hterm => ?_⟩
    obtain ⟨c, hc, hbad⟩ := h.bad
    obtain ⟨hwhite, hquote⟩ := hterm.2 c hc
    rcases hbad with hbad | hbad
    · rw [hwhite] at hbad
      cases hbad
    · exact hquote hbad
  · intro h
    obtain ⟨hfilled, rfl, hterm⟩ := h
    refine ⟨hfilled, Text.trims_trim t, ?_⟩
    by_contra hgood
    refine hterm ⟨Text.not_isBlank_iff.1 hfilled, fun c hc => ?_⟩
    refine ⟨Bool.eq_false_iff.2 fun hwhite => hgood ⟨c, hc, .inl hwhite⟩, fun hquote => ?_⟩
    exact hgood ⟨c, hc, .inr hquote⟩

theorem listed_eq (text : String) : listed text =
    ((Text.segments text).filter fun t => !Text.isBlank t).map Text.trim := by
  have hblank : ((fun t => decide (t ≠ "")) ∘ Text.trim) = fun t => !Text.isBlank t := by
    funext t
    rw [Function.comp_apply, Bool.eq_iff_iff, decide_eq_true_iff, Bool.not_eq_true',
      Text.not_isBlank_iff]
  rw [listed, Text.segments, ← hblank, ← List.filter_map, List.map_map]
  rfl

section Segments

variable {s : Settings} {segments : List String} {orgs : List Organization}

theorem Lists.scopes_eq (h : s.Lists segments) : s.scopes =
    (segments.filter fun t => !Text.isBlank t).mapM fun t => Organization.read (Text.trim t) := by
  rcases h with ⟨hnone, rfl⟩ | ⟨text, hsome, hjoins⟩
  · have hempty : listed "" = [] := by rfl
    rw [scopes, hnone, Option.getD_none, hempty, List.filter_nil, List.mapM_nil, List.mapM_nil]
  · rw [scopes, hsome, Option.getD_some, listed_eq, hjoins.eq_segments, List.mapM_map,
      Function.comp_def]

theorem exists_lists (s : Settings) : ∃ segments, s.Lists segments := by
  cases h : s.organizations with
  | none => exact ⟨[], .inl ⟨h, rfl⟩⟩
  | some text => exact ⟨Text.segments text, .inr ⟨text, h, Text.joins_segments text⟩⟩

theorem Lists.unique {segments' : List String} (h : s.Lists segments) (h' : s.Lists segments') :
    segments' = segments := by
  rcases h with ⟨hnone, rfl⟩ | ⟨text, hsome, hjoins⟩
  · rcases h' with ⟨-, rfl⟩ | ⟨text, hsome, -⟩
    · rfl
    · rw [hnone] at hsome
      cases hsome
  · rcases h' with ⟨hnone, -⟩ | ⟨text', hsome', hjoins'⟩
    · rw [hsome] at hnone
      cases hnone
    · rw [hsome] at hsome'
      cases hsome'
      rw [hjoins.eq_segments, hjoins'.eq_segments]

theorem map_read_eq_map_ok_iff {ts : List String} :
    (ts.map fun t => Organization.read (Text.trim t)) = orgs.map .ok ↔
      List.Forall₂ Text.Trims ts (orgs.map (·.text)) := by
  induction ts generalizing orgs with
  | nil => cases orgs <;> simp
  | cons t ts ih =>
    cases orgs with
    | nil => simp
    | cons org orgs =>
      simp only [List.map_cons, List.cons.injEq, List.forall₂_cons, ih, Organization.read_eq_ok_iff,
        Text.trim_trim, Text.trims_iff]

theorem exists_read_iff {t : String} (ht : Text.isBlank t = false) :
    (∃ org, Organization.read (Text.trim t) = .ok org) ↔ ∀ name, ¬Offends t name := by
  rw [Organization.exists_read_iff, Text.trim_trim]
  simp [offends_iff, ht]

theorem read_eq_error_iff {t : String} {e : Failure} (ht : Text.isBlank t = false) :
    Organization.read (Text.trim t) = .error e ↔
      ∃ name, Offends t name ∧ e = .invalidName .organization name := by
  rw [Organization.read_eq_error_iff, Text.trim_trim]
  simp [offends_iff, ht]

theorem Lists.scopes_eq_ok_iff (h : s.Lists segments) : s.scopes = .ok orgs ↔
    List.Forall₂ Text.Trims (segments.filter fun t => !Text.isBlank t) (orgs.map (·.text)) := by
  rw [h.scopes_eq, mapM_eq_ok_iff, map_read_eq_map_ok_iff]

theorem Lists.exists_scopes_iff (h : s.Lists segments) :
    (∃ orgs, s.scopes = .ok orgs) ↔ ∀ t ∈ segments, ∀ name, ¬Offends t name := by
  simp only [h.scopes_eq, mapM_eq_ok_iff]
  rw [exists_map_eq_map_ok]
  constructor
  · intro hread t ht name hoffends
    have hmem : t ∈ segments.filter fun t => !Text.isBlank t :=
      List.mem_filter.2 ⟨ht, by simp [hoffends.filled]⟩
    exact (exists_read_iff hoffends.filled).1 (hread t hmem) name hoffends
  · intro hnone t hmem
    obtain ⟨ht, hfilled⟩ := List.mem_filter.1 hmem
    exact (exists_read_iff (by simpa using hfilled)).2 (hnone t ht)

theorem Lists.scopes_eq_error_iff (h : s.Lists segments) {e : Failure} : s.scopes = .error e ↔
    ∃ before t after name, segments = before ++ t :: after ∧
      (∀ u ∈ before, ∀ n, ¬Offends u n) ∧ Offends t name ∧
        e = .invalidName .organization name := by
  rw [h.scopes_eq, mapM_eq_error_iff]
  constructor
  · intro herror
    obtain ⟨read, t, rest, hsplit, hread, ht⟩ := herror
    obtain ⟨front, back, rfl, rfl, hback⟩ := List.filter_eq_append_iff.1 hsplit
    obtain ⟨blanks, after, rfl, hblanks, hfilled, -⟩ := List.filter_eq_cons_iff.1 hback
    obtain ⟨name, hoffends, he⟩ := (read_eq_error_iff (by simpa using hfilled)).1 ht
    refine ⟨front ++ blanks, t, after, name, by simp, fun u hu n hbad => ?_, hoffends, he⟩
    rcases List.mem_append.1 hu with hu | hu
    · have hmem : u ∈ front.filter fun t => !Text.isBlank t :=
        List.mem_filter.2 ⟨hu, by simp [hbad.filled]⟩
      exact (exists_read_iff hbad.filled).1 (hread u hmem) n hbad
    · exact hblanks u hu (by simp [hbad.filled])
  · intro hfirst
    obtain ⟨before, t, after, name, rfl, hbefore, hoffends, he⟩ := hfirst
    refine ⟨before.filter fun t => !Text.isBlank t, t, after.filter fun t => !Text.isBlank t,
      ?_, ?_, (read_eq_error_iff hoffends.filled).2 ⟨name, hoffends, he⟩⟩
    · rw [List.filter_append, List.filter_cons_of_pos (by simp [hoffends.filled])]
    · intro u hu
      obtain ⟨hmem, hfilled⟩ := List.mem_filter.1 hu
      exact (exists_read_iff (by simpa using hfilled)).2 (hbefore u hmem)

theorem Lists.comma_not_mem_segment (h : s.Lists segments) : ∀ t ∈ segments, ',' ∉ t.toList := by
  rcases h with ⟨-, rfl⟩ | ⟨text, -, hjoins⟩
  · exact nofun
  · exact hjoins.apart

theorem Lists.comma_not_mem (h : s.Lists segments) (hs : s.scopes = .ok orgs) :
    ∀ org ∈ orgs, ',' ∉ org.text.toList := by
  intro org horg hcomma
  have htexts := Text.forall₂_trims_iff.1 (h.scopes_eq_ok_iff.1 hs)
  have hmem : org.text ∈ orgs.map (·.text) := List.mem_map_of_mem horg
  rw [htexts] at hmem
  obtain ⟨t, ht, htrim⟩ := List.mem_map.1 hmem
  have hsegment : ',' ∈ t.toList := (Text.trims_iff.2 htrim.symm).subset hcomma
  exact h.comma_not_mem_segment t (List.mem_filter.1 ht).1 hsegment

theorem Lists.scopes_eq_nil_iff (h : s.Lists segments) :
    s.scopes = .ok [] ↔ ∀ t ∈ segments, Text.isBlank t = true := by
  rw [h.scopes_eq_ok_iff, List.map_nil, List.forall₂_nil_right_iff, List.filter_eq_nil_iff]
  simp

end Segments

theorem Padded.forall₂_trims {names segments : List String} (h : Padded names segments)
    (hnames : ∀ n ∈ names, Text.IsTerm n) :
    List.Forall₂ Text.Trims (segments.filter fun t => !Text.isBlank t) names := by
  induction h with
  | nil => exact .nil
  | blank hblank _ ih =>
    rw [List.filter_cons_of_neg (by simp [hblank])]
    exact ih hnames
  | @name before name after names segments hbefore hafter _ ih =>
    obtain ⟨hname, hnames⟩ := List.forall_mem_cons.1 hnames
    have htrims : Text.Trims (before ++ name ++ after) name := {
      around := ⟨before, after, hbefore, hafter, rfl⟩
      first := fun c hc => (hname.2 c (List.mem_of_mem_head? hc)).1
      last := fun c hc => (hname.2 c (List.mem_of_mem_getLast? hc)).1 }
    have hfilled : Text.isBlank (before ++ name ++ after) = false := by
      rw [Text.not_isBlank_iff, ← htrims.eq_trim]
      exact hname.1
    rw [List.filter_cons_of_pos (by simp [hfilled])]
    exact .cons htrims (ih hnames)

theorem exists_map_text_eq {names : List String} (h : ∀ n ∈ names, Text.IsTerm n) :
    ∃ orgs : List Organization, orgs.map (·.text) = names := by
  induction names with
  | nil => exact ⟨[], rfl⟩
  | cons n names ih =>
    obtain ⟨hn, hnames⟩ := List.forall_mem_cons.1 h
    obtain ⟨orgs, rfl⟩ := ih hnames
    exact ⟨⟨n, Text.isTerm_iff.2 hn⟩ :: orgs, rfl⟩

theorem comma_not_mem_of_isBlank {t : String} (h : Text.isBlank t = true) : ',' ∉ t.toList := by
  intro hcomma
  have hwhite := List.all_eq_true.1 h ',' hcomma
  revert hwhite
  decide

theorem Padded.comma_not_mem {names segments : List String} (h : Padded names segments)
    (hnames : ∀ n ∈ names, ',' ∉ n.toList) : ∀ t ∈ segments, ',' ∉ t.toList := by
  induction h with
  | nil => exact nofun
  | blank hblank _ ih =>
    exact List.forall_mem_cons.2 ⟨comma_not_mem_of_isBlank hblank, ih hnames⟩
  | name hbefore hafter _ ih =>
    obtain ⟨hname, hnames⟩ := List.forall_mem_cons.1 hnames
    refine List.forall_mem_cons.2 ⟨?_, ih hnames⟩
    simp [comma_not_mem_of_isBlank hbefore, comma_not_mem_of_isBlank hafter, hname]

theorem Padded.scopes_eq {names segments : List String} (h : Padded names segments)
    (hnames : ∀ n ∈ names, Text.IsTerm n ∧ ',' ∉ n.toList) (s : Settings) :
    ∃ orgs, { s with organizations := some (String.intercalate "," segments) }.scopes = .ok orgs ∧
      orgs.map (·.text) = names := by
  have hterms : ∀ n ∈ names, Text.IsTerm n := fun n hn => (hnames n hn).1
  obtain ⟨orgs, rfl⟩ := exists_map_text_eq hterms
  refine ⟨orgs, ?_, rfl⟩
  by_cases hempty : segments = []
  · subst hempty
    have hnil : orgs = [] := by
      cases orgs with
      | nil => rfl
      | cons => cases h
    have hblank : listed "" = [] := by rfl
    rw [scopes, Option.getD_some, String.intercalate_nil, hblank, hnil]
    rfl
  · have hlists :
        { s with organizations := some (String.intercalate "," segments) }.Lists segments :=
      .inr ⟨_, rfl, hempty, h.comma_not_mem fun n hn => (hnames n hn).2, rfl⟩
    exact hlists.scopes_eq_ok_iff.2 (h.forall₂_trims hterms)

/-- What segments make of the scopes: each that is not blank gives the name in it, the first that
offends makes them fail, and with none that is filled there is one fetch without an organization. -/
structure Decides (s : Settings) (segments : List String) : Prop where
  succeeds : (∃ orgs, s.scopes = .ok orgs) ↔ ∀ t ∈ segments, ∀ name, ¬Offends t name
  names : ∀ orgs, s.scopes = .ok orgs ↔
    List.Forall₂ Text.Trims (segments.filter fun t => !Text.isBlank t) (orgs.map (·.text))
  apart : ∀ orgs, s.scopes = .ok orgs → ∀ org ∈ orgs, ',' ∉ org.text.toList
  fails : ∀ e, s.scopes = .error e ↔ ∃ before t after name, segments = before ++ t :: after ∧
    (∀ u ∈ before, ∀ n, ¬Offends u n) ∧ Offends t name ∧ e = .invalidName .organization name
  empty : s.scopes = .ok [] ↔ s.organizations = none ∨ ∀ t ∈ segments, Text.isBlank t = true
  unscoped : (∃ orgs, s.scopes = .ok orgs ∧ Sidebar.Scope.ofList orgs = [none]) ↔
    s.scopes = .ok []

theorem ofList_eq_unscoped_iff {orgs : List Organization} :
    Sidebar.Scope.ofList orgs = [none] ↔ orgs = [] := by
  cases orgs <;> simp [Sidebar.Scope.ofList]

theorem Lists.decides {s : Settings} {segments : List String} (h : s.Lists segments) :
    s.Decides segments where
  succeeds := h.exists_scopes_iff
  names _ := h.scopes_eq_ok_iff
  apart _ hs := h.comma_not_mem hs
  fails _ := h.scopes_eq_error_iff
  empty := by
    refine h.scopes_eq_nil_iff.trans ⟨.inr, fun hblank => ?_⟩
    rcases hblank with hnone | hblank
    · rcases h with ⟨-, rfl⟩ | ⟨text, hsome, -⟩
      · exact nofun
      · rw [hnone] at hsome
        cases hsome
    · exact hblank
  unscoped := by
    simp only [ofList_eq_unscoped_iff, exists_eq_right]

/-- Settings list segments, those between the commas if there is a list, which decide the scopes;
and names without commas, written between commas with white space around them and blank segments
among them, are read back. -/
theorem scopes_tell (s : Settings) : (∃! segments, s.Lists segments) ∧
    (∀ segments, s.Lists segments → s.Decides segments) ∧
    ∀ names segments, (∀ n ∈ names, Text.IsTerm n ∧ ',' ∉ n.toList) → Padded names segments →
      ∃ orgs, { s with organizations := some (String.intercalate "," segments) }.scopes = .ok orgs ∧
        orgs.map (·.text) = names := by
  obtain ⟨segments, hlists⟩ := s.exists_lists
  refine ⟨⟨segments, hlists, fun _ hother => hlists.unique hother⟩, fun _ h => h.decides, ?_⟩
  exact fun names segments hnames h => h.scopes_eq hnames s

-- The white space in the middle of the second name is what fails, not that around it.
example : { standard with organizations := some " one,, two \u2003three ,fo\"ur" }.scopes =
    .error (.invalidName .organization "two \u2003three") := by
  rfl

end Settings

end Docket
