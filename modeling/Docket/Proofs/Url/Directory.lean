import Docket.Proofs.Url.Walk
/-!
Paths as directories. A path that does not end in a slash is given one and read anew, which changes
nothing but under the scheme of files, where a drive letter is read for what it is only at the root.
-/

namespace Docket.Url

/-- The segments of a path as a directory: where they do not end in an empty one, such a segment is
added and the path is read anew. -/
def directory (scheme : String) (names : List String) : List String :=
  if names.getLast? = some "" then names
  else
    let w := walk (scheme = "file") (names.map String.toList ++ [[]])
    if scheme = "file" then dropEmpty w.done.reverse else w.done.reverse

def slashed (path : String) : String :=
  if path.toList.getLast? = some '/' then path else path ++ "/"

def ended (names : List String) : List String :=
  if names.getLast? = some "" then names else names ++ [""]

def IsBarred (s : String) : Prop := ∃ c : Char, c.isAlpha = true ∧ s = String.ofList [c, '|']

def KeepsRead (scheme : String) (names : List String) : Prop :=
  scheme = "file" → names.getLast? ≠ some "" →
    (∀ s ∈ names, ¬IsDot s.toList) ∧ ∀ s ∈ names.head?, ¬IsBarred s

section Text

theorem write_append (names more : List String) :
    (Path.segments (names ++ more)).write =
      (Path.segments names).write ++ (Path.segments more).write := by
  simp [Path.write, String.join_append]

theorem write_cons (s : String) (names : List String) :
    (Path.segments (s :: names)).write = "/" ++ s ++ (Path.segments names).write := by
  simp [Path.write, String.join_cons]

theorem getLast?_write_iff {names : List String} (h : ∀ s ∈ names, IsSegment s) :
    (Path.segments names).write.toList.getLast? = some '/' ↔ names.getLast? = some "" := by
  rcases names.eq_nil_or_concat with rfl | ⟨init, s, rfl⟩
  · simp [Path.write]
  · have hs : IsSegment s := h s (by simp)
    have htext : (Path.segments (init ++ [s])).write.toList =
        (Path.segments init).write.toList ++ '/' :: s.toList := by
      simp [Path.write]
    rw [List.concat_eq_append, htext, List.getLast?_append, List.getLast?_cons, Option.some_or,
      List.getLast?_concat, Option.some_inj, Option.some_inj]
    constructor
    · intro hslash
      cases hlast : s.toList.getLast? with
      | none => simpa using hlast
      | some c =>
        rw [hlast, Option.getD_some] at hslash
        exact ((hs c (List.mem_of_getLast? hlast)).2 hslash).elim
    · rintro rfl
      rfl

theorem write_ended {names : List String} (h : ∀ s ∈ names, IsSegment s) :
    (Path.segments (ended names)).write = slashed (Path.segments names).write := by
  unfold ended slashed
  by_cases hlast : names.getLast? = some ""
  · rw [if_pos hlast, if_pos ((getLast?_write_iff h).2 hlast)]
  · rw [if_neg hlast, if_neg (mt (getLast?_write_iff h).1 hlast), write_append]
    rfl

theorem takeWhile_write {s : String} (h : IsSegment s) (names : List String) :
    (s.toList ++ (Path.segments names).write.toList).takeWhile (· ≠ '/') = s.toList := by
  rw [List.takeWhile_append_of_pos fun c hc => by simpa using (h c hc).2]
  cases names with
  | nil => exact List.append_nil _
  | cons t names => simp [write_cons]

theorem write_inj {names more : List String} (h : ∀ s ∈ names, IsSegment s)
    (hmore : ∀ s ∈ more, IsSegment s)
    (heq : (Path.segments names).write = (Path.segments more).write) : names = more := by
  induction names generalizing more with
  | nil =>
    cases more with
    | nil => rfl
    | cons t more => simp [Path.write] at heq
  | cons s names ih =>
    obtain ⟨hs, hrest⟩ := List.forall_mem_cons.1 h
    cases more with
    | nil => simp [Path.write] at heq
    | cons t more =>
      obtain ⟨ht, htrest⟩ := List.forall_mem_cons.1 hmore
      rw [write_cons, write_cons, String.append_assoc, String.append_assoc,
        String.append_right_inj] at heq
      have hchars := congrArg String.toList heq
      rw [String.toList_append, String.toList_append] at hchars
      obtain rfl : s = t := by
        apply String.toList_inj.1
        rw [← takeWhile_write hs names, hchars, takeWhile_write ht more]
      rw [ih hrest htrest ((String.append_right_inj _).1 heq)]

end Text

theorem opened_eq_iff {s : String} : opened s = s ↔ ¬IsBarred s := by
  unfold opened
  split
  · rename_i hletter
    obtain ⟨c, m, hs, hc, hm⟩ := exists_of_isDriveLetter hletter
    rw [hs]
    constructor
    · rintro heq ⟨d, -, rfl⟩
      rw [String.toList_ofList] at hs
      cases hs
      exact absurd (congrArg String.toList heq) (by simp)
    · intro hbar
      rcases hm with rfl | rfl
      · rw [← String.ofList_toList (s := s), hs]
        rfl
      · exact (hbar ⟨c, hc, by rw [← hs, String.ofList_toList]⟩).elim
  · rename_i hletter
    refine iff_of_true rfl ?_
    rintro ⟨c, hc, rfl⟩
    exact hletter (by simp [isDriveLetter, hc])

theorem opened_ne_empty {s : String} (h : s ≠ "") : opened s ≠ "" := by
  unfold opened
  split
  · simp
  · exact h

theorem dropEmpty_of_ne {s : String} (h : s ≠ "") (rest : List String) :
    dropEmpty (s :: rest) = s :: rest := by
  unfold dropEmpty
  split
  · rename_i heq
    exact (h (List.cons.inj heq).1).elim
  · rfl

theorem eq_nil_of_dropEmpty {names rest : List String} (h : dropEmpty names = "" :: rest) :
    rest = [] := by
  fun_induction dropEmpty names with
  | case1 s more ih => exact ih h
  | case2 names hnames =>
    subst h
    cases rest with
    | nil => rfl
    | cons s rest => exact (hnames s rest rfl).elim

theorem dropEmpty_subset (names : List String) : dropEmpty names ⊆ names := by
  fun_induction dropEmpty names with
  | case1 s more ih => exact fun t ht => List.mem_cons_of_mem "" (ih ht)
  | case2 names => exact fun t ht => ht

theorem getLast?_dropEmpty (names : List String) : (dropEmpty names).getLast? = names.getLast? := by
  fun_induction dropEmpty names with
  | case1 s rest ih => rw [ih, List.getLast?_cons_cons]
  | case2 => rfl

/-- Written segments without dot segments are read on from others as they are, save a drive letter
at the root of a file path. -/
theorem done_resolve_cons {file : Bool} {w : Walk} {s : String} {names : List String}
    (h : ∀ t ∈ s :: names, IsSegment t) (hdot : ∀ t ∈ s :: names, ¬IsDot t.toList) :
    (resolve file w ((s :: names).map String.toList)).done.reverse =
      w.done.reverse ++ (if file && w.done.isEmpty then opened s else s) :: names := by
  obtain ⟨hs, hrest⟩ := List.forall_mem_cons.1 h
  obtain ⟨hsdot, hrestdot⟩ := List.forall_mem_cons.1 hdot
  have henter := @done_enter_of_isSegment file w s hs
  rw [List.map_cons, resolve_cons, hs.dropBreaks_eq, if_neg fun hdouble => hsdot (.inr hdouble),
    if_neg fun hsingle => hsdot (.inl hsingle), done_resolve hrest hrestdot (by simp [henter]),
    henter]
  simp

theorem done_walk {file : Bool} {s : String} {names : List String}
    (h : ∀ t ∈ s :: names, IsSegment t) (hdot : ∀ t ∈ s :: names, ¬IsDot t.toList) :
    (walk file ((s :: names).map String.toList)).done.reverse =
      (if file then opened s else s) :: names := by
  rw [walk, done_resolve_cons h hdot]
  simp

section Directory

variable {scheme : String} {names : List String}

theorem directory_of_ended (h : names.getLast? = some "") :
    directory scheme names = ended names := by
  rw [directory, ended, if_pos h, if_pos h]

theorem directory_of_not_ended (h : names.getLast? ≠ some "") :
    directory scheme names =
      if scheme = "file" then
        dropEmpty (walk true ((ended names).map String.toList)).done.reverse
      else (walk false ((ended names).map String.toList)).done.reverse := by
  have hended : names.map String.toList ++ [[]] = (ended names).map String.toList := by
    rw [ended, if_neg h, List.map_append]
    rfl
  rw [directory, if_neg h, hended]
  split
  · rename_i hfile
    simp [hfile]
  · rename_i hfile
    simp [hfile]

theorem getLast?_directory (scheme : String) (names : List String) :
    (directory scheme names).getLast? = some "" := by
  by_cases hlast : names.getLast? = some ""
  · rw [directory, if_pos hlast, hlast]
  · have hwalk (file : Bool) :
        (walk file (names.map String.toList ++ [[]])).done.reverse.getLast? = some "" := by
      rw [List.getLast?_reverse]
      exact head?_done_resolve file ⟨[], false⟩ _
    rw [directory, if_neg hlast]
    split
    · rw [getLast?_dropEmpty, hwalk]
    · rw [hwalk]

theorem getLast?_ended (names : List String) : (ended names).getLast? = some "" := by
  unfold ended
  split
  · assumption
  · exact List.getLast?_concat

theorem isSegment_of_mem_directory (h : ∀ s ∈ names, IsSegment s) :
    ∀ s ∈ directory scheme names, IsSegment s := by
  have hslash : ∀ cs ∈ names.map String.toList ++ [[]], '/' ∉ cs := by
    refine List.forall_mem_append.2 ⟨?_, by simp⟩
    intro cs hcs hmem
    obtain ⟨s, hs, rfl⟩ := List.mem_map.1 hcs
    exact (h s hs '/' hmem).2 rfl
  have hwalk {file : Bool} : ∀ s ∈ (walk file (names.map String.toList ++ [[]])).done.reverse,
      IsSegment s := fun s hs => isSegment_of_mem_walk hslash s (List.mem_reverse.1 hs)
  unfold directory
  split
  · exact h
  · dsimp only
    split
    · exact fun s hs => hwalk s (dropEmpty_subset _ hs)
    · exact hwalk

theorem forall_mem_ended {P : String → Prop} (hempty : P "") (h : ∀ s ∈ names, P s) :
    ∀ s ∈ ended names, P s := by
  unfold ended
  split
  · exact h
  · exact List.forall_mem_append.2 ⟨h, by simpa using hempty⟩

theorem not_isDot_empty : ¬IsDot "".toList := by
  rw [isDot_iff]
  decide

theorem ended_ne_nil (names : List String) : ended names ≠ [] := by
  unfold ended
  split
  · rintro rfl
    contradiction
  · simp

theorem directory_of_not_file (hscheme : scheme ≠ "file") (h : ∀ s ∈ names, IsSegment s)
    (hdot : ∀ s ∈ names, ¬IsDot s.toList) : directory scheme names = ended names := by
  by_cases hlast : names.getLast? = some ""
  · exact directory_of_ended hlast
  · have hsegments := forall_mem_ended isSegment_empty h
    have hdots := forall_mem_ended not_isDot_empty hdot
    rw [directory_of_not_ended hlast, if_neg hscheme]
    cases hended : ended names with
    | nil => exact (ended_ne_nil names hended).elim
    | cons s rest =>
      rw [hended] at hsegments hdots
      exact done_walk hsegments hdots

theorem not_isDot_of_mem_directory (h : ∀ s ∈ names, IsSegment s)
    (hlast : names.getLast? ≠ some "") : ∀ s ∈ directory "file" names, ¬IsDot s.toList := by
  intro s hs
  rw [directory_of_not_ended hlast, if_pos rfl] at hs
  refine not_isDot_of_mem_walk ?_ s (List.mem_reverse.1 (dropEmpty_subset _ hs))
  intro cs hcs _
  obtain ⟨t, ht, rfl⟩ := List.mem_map.1 hcs
  exact (forall_mem_ended isSegment_empty h t ht).partedDrive?_eq_none

theorem directory_file_cons {s : String} (hs : s ≠ "") (h : ∀ t ∈ s :: names, IsSegment t)
    (hdot : ∀ t ∈ s :: names, ¬IsDot t.toList) (hlast : (s :: names).getLast? ≠ some "") :
    directory "file" (s :: names) = opened s :: (names ++ [""]) := by
  have hended : ended (s :: names) = s :: (names ++ [""]) := by
    rw [ended, if_neg hlast, List.cons_append]
  have hsegments := forall_mem_ended isSegment_empty h
  have hdots := forall_mem_ended not_isDot_empty hdot
  rw [hended] at hsegments hdots
  rw [directory_of_not_ended hlast, if_pos rfl, hended, done_walk hsegments hdots, if_pos rfl,
    dropEmpty_of_ne (opened_ne_empty hs)]

/-- A file path keeps its segments as a directory unless it ends without a slash and either opens
with a drive letter and a bar or holds a dot segment. -/
theorem directory_file_eq_iff (h : ∀ s ∈ names, IsSegment s)
    (hnormal : ∀ rest, names = "" :: rest → rest = []) :
    directory "file" names = ended names ↔ KeepsRead "file" names := by
  by_cases hlast : names.getLast? = some ""
  · exact iff_of_true (directory_of_ended hlast) fun _ hnot => (hnot hlast).elim
  · cases names with
    | nil => exact iff_of_true (by rfl) (by simp [KeepsRead])
    | cons s rest =>
      have hs : s ≠ "" := by
        rintro rfl
        obtain rfl := hnormal rest rfl
        exact hlast rfl
      have hended : ended (s :: rest) = s :: (rest ++ [""]) := by
        rw [ended, if_neg hlast, List.cons_append]
      constructor
      · intro heq _ _
        have hdot : ∀ t ∈ s :: rest, ¬IsDot t.toList := by
          intro t ht
          refine not_isDot_of_mem_directory h hlast t ?_
          rw [heq, hended]
          exact List.mem_append_left [""] ht
        rw [directory_file_cons hs h hdot hlast, hended] at heq
        refine ⟨hdot, ?_⟩
        rintro t ⟨⟩
        exact opened_eq_iff.1 (List.cons.inj heq).1
      · intro hkeeps
        obtain ⟨hdot, hbar⟩ := hkeeps rfl hlast
        rw [directory_file_cons hs h hdot hlast, hended, opened_eq_iff.2 (hbar s rfl)]

theorem directory_eq_iff (h : ∀ s ∈ names, IsSegment s)
    (hresolved : scheme ≠ "file" → ∀ s ∈ names, ¬IsDot s.toList)
    (hrooted : scheme = "file" → ∀ rest, names = "" :: rest → rest = []) :
    directory scheme names = ended names ↔ KeepsRead scheme names := by
  by_cases hfile : scheme = "file"
  · subst hfile
    exact directory_file_eq_iff h (hrooted rfl)
  · exact iff_of_true (directory_of_not_file hfile h (hresolved hfile)) fun hscheme =>
      (hfile hscheme).elim

theorem directory_eq_directory_iff {more : List String} (h : ended names = ended more) :
    directory scheme names = directory scheme more ↔
      names = more ∨ directory scheme names = ended names ∧ directory scheme more = ended more := by
  constructor
  · intro heq
    by_cases hlast : names.getLast? = some ""
    · have hkept : directory scheme names = ended names := directory_of_ended hlast
      exact .inr ⟨hkept, (heq.symm.trans hkept).trans h⟩
    · by_cases hlastmore : more.getLast? = some ""
      · have hkept : directory scheme more = ended more := directory_of_ended hlastmore
        exact .inr ⟨(heq.trans hkept).trans h.symm, hkept⟩
      · rw [ended, if_neg hlast, ended, if_neg hlastmore] at h
        exact .inl (List.append_cancel_right h)
  · rintro (rfl | ⟨hkept, hkeptmore⟩)
    · rfl
    · rw [hkept, hkeptmore, h]

end Directory

end Docket.Url
