import Docket.Proofs.Splitting
import Docket.Proofs.Url.Segments
import Docket.Text.Letter
/-!
Paths walked segment by segment. Whatever text a path is read from, its segments are written ones,
and none of them is a dot segment, save behind a drive letter that a break parts from it. A walk
along written segments that are no dot segments arrives at them again.
-/

namespace Docket.Url

theorem not_mem_splitSlashes {special : Bool} {cs : List Char} :
    ∀ s ∈ splitSlashes special cs, '/' ∉ s := by
  intro s hs hslash
  have hnot := Text.forall_mem_splitOnP s hs '/' hslash
  simp [isSlash] at hnot

theorem isSegment_empty : IsSegment "" := by
  intro c hc
  cases hc

theorem isSegment_drive {c : Char} (h : c.isAlpha = true) : IsSegment (String.ofList [c, ':']) := by
  have hletter := Text.isAlpha_iff.1 h
  intro d hd
  rw [String.toList_ofList] at hd
  rcases List.mem_cons.1 hd with rfl | hd
  · constructor
    · by_contra hset
      rw [Bool.not_eq_false] at hset
      simp only [inPathSet, inFragmentSet, isControl, Bool.or_eq_true, decide_eq_true_eq,
        List.mem_cons, List.not_mem_nil, or_false] at hset
      rcases hset with ((hset | hset) | hset) | hset
      · omega
      · omega
      · rcases hset with rfl | rfl | rfl | rfl | rfl <;> cases h
      · rcases hset with rfl | rfl | rfl | rfl <;> cases h
    · rintro rfl
      cases h
  · obtain rfl := List.mem_singleton.1 hd
    decide

theorem partedDrive?_eq_some {cs drive rest : List Char}
    (h : partedDrive? cs = some (drive, rest)) :
    (∃ c, c.isAlpha = true ∧ drive = [c, ':']) ∧ rest ⊆ cs ∧ ∃ b ∈ cs, isBreak b = true := by
  unfold partedDrive? at h
  split at h
  · cases h
  · rename_i c more hmore
    split at h
    · rename_i m b text htext
      split at h
      · rename_i hparts
        simp only [Bool.and_eq_true, decide_eq_true_eq] at hparts
        obtain ⟨⟨⟨hletter, rfl⟩, hbreak⟩, -⟩ := hparts
        have hsub : text ⊆ cs ∧ b ∈ cs := by
          have hmore : more ⊆ cs := fun d hd =>
            (List.dropWhile_sublist isBreak).subset (hmore ▸ List.mem_cons_of_mem c hd)
          have htext : b :: text ⊆ more := fun d hd =>
            (List.dropWhile_sublist isBreak).subset (htext ▸ List.mem_cons_of_mem ':' hd)
          exact ⟨fun d hd => hmore (htext (List.mem_cons_of_mem b hd)),
            hmore (htext List.mem_cons_self)⟩
        cases h
        exact ⟨⟨c, hletter, rfl⟩, fun d hd => hsub.1 (List.mem_filter.1 hd).1, b, hsub.2, hbreak⟩
      · cases h
    · cases h

theorem exists_of_isDriveLetter {cs : List Char} (h : isDriveLetter cs = true) :
    ∃ c m, cs = [c, m] ∧ c.isAlpha = true ∧ (m = ':' ∨ m = '|') := by
  unfold isDriveLetter at h
  split at h
  · rename_i c m
    exact ⟨c, m, rfl, by simpa using h⟩
  · cases h

theorem forall_mem_enter {file : Bool} {P : String → Prop} {cs : List Char} {w : Walk}
    (hw : ∀ s ∈ w.done, P s) (hwritten : P (encodeSegment (dropBreaks cs)))
    (hdrive : ∀ c, c.isAlpha = true → P (String.ofList [c, ':']))
    (hparted : ∀ drive rest, partedDrive? cs = some (drive, rest) → P (encodeSegment rest)) :
    ∀ s ∈ (w.enter file cs).done, P s := by
  unfold Walk.enter enterRoot
  split
  · split
    · rename_i drive rest hrest
      obtain ⟨⟨c, hc, rfl⟩, -⟩ := partedDrive?_eq_some hrest
      exact List.forall_mem_cons.2 ⟨hparted _ _ hrest, by simpa using hdrive c hc⟩
    · dsimp only
      split
      · rename_i hletter
        obtain ⟨c, m, hcs, hc, -⟩ := exists_of_isDriveLetter hletter
        rw [hcs]
        simpa using hdrive c hc
      · simpa using hwritten
  · exact List.forall_mem_cons.2 ⟨hwritten, hw⟩

theorem forall_mem_pop {P : String → Prop} {done : List String} (h : ∀ s ∈ done, P s) :
    ∀ s ∈ pop done, P s := by
  unfold pop
  split
  · exact h
  · split
    · exact h
    · exact (List.forall_mem_cons.1 h).2

/-- A dot segment that ends the path leaves an empty one in its place. -/
def closed (rest : List (List Char)) (done : List String) : List String :=
  if rest.isEmpty then "" :: done else done

theorem resolve_cons (file : Bool) (w : Walk) (cs : List Char) (rest : List (List Char)) :
    resolve file w (cs :: rest) =
      if isDoubleDot (dropBreaks cs) = true then
        resolve file { w with done := closed rest (pop w.done) } rest
      else if isSingleDot (dropBreaks cs) = true then
        resolve file { w with done := closed rest w.done } rest
      else resolve file (w.enter file cs) rest := by
  rw [resolve]
  rfl

theorem forall_mem_resolve {file : Bool} {P : String → Prop} {segments : List (List Char)}
    (hempty : P "") (henter : ∀ cs ∈ segments, ¬IsDot (dropBreaks cs) →
      ∀ w : Walk, (∀ s ∈ w.done, P s) → ∀ s ∈ (w.enter file cs).done, P s)
    {w : Walk} (hw : ∀ s ∈ w.done, P s) : ∀ s ∈ (resolve file w segments).done, P s := by
  induction segments generalizing w with
  | nil => exact hw
  | cons cs rest ih =>
    obtain ⟨hcs, hrest⟩ := List.forall_mem_cons.1 henter
    have hclosed : ∀ done : List String, (∀ s ∈ done, P s) → ∀ s ∈ closed rest done, P s := by
      intro done hdone
      unfold closed
      split
      · exact List.forall_mem_cons.2 ⟨hempty, hdone⟩
      · exact hdone
    rw [resolve_cons]
    split
    · exact ih hrest (hclosed _ (forall_mem_pop hw))
    · rename_i hdouble
      split
      · exact ih hrest (hclosed _ hw)
      · rename_i hsingle
        exact ih hrest (hcs (fun hdot => hdot.elim hsingle hdouble) w hw)

theorem head?_done_resolve (file : Bool) (w : Walk) (segments : List (List Char)) :
    (resolve file w (segments ++ [[]])).done.head? = some "" := by
  induction segments generalizing w with
  | nil =>
    rw [List.nil_append, resolve_cons, if_neg (by decide), if_neg (by decide), resolve,
      Walk.enter]
    split <;> rfl
  | cons cs segments ih =>
    rw [List.cons_append, resolve_cons]
    split
    · exact ih _
    · split
      · exact ih _
      · exact ih _

theorem not_mem_dropBreaks {cs : List Char} {c : Char} (h : c ∉ cs) : c ∉ dropBreaks cs :=
  fun hc => h (List.mem_filter.1 hc).1

theorem isSegment_of_mem_walk {file : Bool} {segments : List (List Char)}
    (h : ∀ cs ∈ segments, '/' ∉ cs) : ∀ s ∈ (walk file segments).done, IsSegment s := by
  refine forall_mem_resolve isSegment_empty ?_ nofun
  intro cs hcs _ w hw
  refine forall_mem_enter hw (isSegment_encodeSegment (not_mem_dropBreaks (h cs hcs)))
    (fun c hc => isSegment_drive hc) ?_
  intro drive rest hrest
  obtain ⟨-, hsub, -⟩ := partedDrive?_eq_some hrest
  exact isSegment_encodeSegment fun hslash => h cs hcs (hsub hslash)

theorem isSlash_drive {special : Bool} {c : Char} (h : c.isAlpha = true) :
    ∀ d ∈ (String.ofList [c, ':']).toList, isSlash special d = false := by
  intro d hd
  rw [String.toList_ofList] at hd
  by_contra hslash
  rw [Bool.not_eq_false] at hslash
  simp only [isSlash, Bool.or_eq_true, Bool.and_eq_true, decide_eq_true_eq] at hslash
  rcases List.mem_cons.1 hd with rfl | hd
  · rcases hslash with rfl | ⟨-, rfl⟩ <;> cases h
  · obtain rfl := List.mem_singleton.1 hd
    rcases hslash with hslash | ⟨-, hslash⟩ <;> cases hslash

theorem isSlash_of_mem_walk {file special : Bool} {segments : List (List Char)}
    (h : ∀ cs ∈ segments, ∀ c ∈ cs, isSlash special c = false) :
    ∀ s ∈ (walk file segments).done, ∀ c ∈ s.toList, isSlash special c = false := by
  refine forall_mem_resolve (by simp) ?_ nofun
  intro cs hcs _ w hw
  refine forall_mem_enter hw (isSlash_encodeSegment fun c hc => h cs hcs c (List.mem_filter.1 hc).1)
    (fun c hc => isSlash_drive hc) ?_
  intro drive rest hrest
  obtain ⟨-, hsub, -⟩ := partedDrive?_eq_some hrest
  exact isSlash_encodeSegment fun c hc => h cs hcs c (hsub hc)

theorem not_isDot_drive (c : Char) : ¬IsDot (String.ofList [c, ':']).toList := by
  have hcolon : ∀ t ∈ dotTexts, ':' ∉ t := by decide
  rw [isDot_iff, String.toList_ofList]
  exact fun hdot => hcolon _ hdot (by simp [lowerLetters])

/-- A dot segment stays on a walk only behind a drive letter and a break. -/
theorem not_isDot_of_mem_walk {file : Bool} {segments : List (List Char)}
    (h : ∀ cs ∈ segments, file = true → partedDrive? cs = none) :
    ∀ s ∈ (walk file segments).done, ¬IsDot s.toList := by
  refine forall_mem_resolve (by rw [isDot_iff]; decide) ?_ nofun
  intro cs hcs hdot w hw
  have hwritten : ¬IsDot (encodeSegment (dropBreaks cs)).toList := by
    rw [encodeSegment, String.toList_ofList]
    exact not_isDot_encode hdot
  cases file with
  | false => exact List.forall_mem_cons.2 ⟨hwritten, hw⟩
  | true =>
    refine forall_mem_enter hw hwritten (fun c _ => not_isDot_drive c) ?_
    intro drive rest hrest
    rw [h cs hcs rfl] at hrest
    cases hrest

theorem IsSegment.partedDrive?_eq_none {s : String} (h : IsSegment s) :
    partedDrive? s.toList = none := by
  cases hparted : partedDrive? s.toList with
  | none => rfl
  | some p =>
    obtain ⟨-, -, b, hb, hbreak⟩ := partedDrive?_eq_some hparted
    rw [h.isBreak_eq_false hb] at hbreak
    cases hbreak

theorem IsSegment.dropBreaks_eq {s : String} (h : IsSegment s) : dropBreaks s.toList = s.toList :=
  List.filter_eq_self.2 fun c hc => by simp [h.isBreak_eq_false hc]

section Anew

def opened (s : String) : String :=
  if isDriveLetter s.toList then String.ofList (s.toList.take 1 ++ [':']) else s

theorem done_enter_of_isSegment {file : Bool} {w : Walk} {s : String} (h : IsSegment s) :
    (w.enter file s.toList).done =
      (if file && w.done.isEmpty then opened s else s) :: w.done := by
  unfold Walk.enter
  split
  · rename_i hroot
    have hdone : w.done = [] := by simpa using (Bool.and_eq_true_iff.1 hroot).2
    rw [enterRoot, h.partedDrive?_eq_none, h.dropBreaks_eq, hdone, opened]
    dsimp only
    rw [h.encodeSegment_eq]
    split <;> rfl
  · rw [h.dropBreaks_eq, h.encodeSegment_eq]

theorem done_resolve {file : Bool} {names : List String} (h : ∀ s ∈ names, IsSegment s)
    (hdot : ∀ s ∈ names, ¬IsDot s.toList) {w : Walk} (hw : file = true → w.done ≠ []) :
    (resolve file w (names.map String.toList)).done = names.reverse ++ w.done := by
  induction names generalizing w with
  | nil => rfl
  | cons s names ih =>
    obtain ⟨hs, hrest⟩ := List.forall_mem_cons.1 h
    obtain ⟨hsdot, hrestdot⟩ := List.forall_mem_cons.1 hdot
    have hstay : (file && w.done.isEmpty) = false := by
      cases file with
      | false => rfl
      | true => simpa using hw rfl
    have henter : (w.enter file s.toList).done = s :: w.done := by
      rw [done_enter_of_isSegment hs, hstay, if_neg Bool.false_ne_true]
    rw [List.map_cons, resolve_cons, hs.dropBreaks_eq,
      if_neg fun hdouble => hsdot (.inr hdouble), if_neg fun hsingle => hsdot (.inl hsingle),
      ih hrest hrestdot (by simp [henter]), henter, List.reverse_cons, List.append_assoc,
      List.singleton_append]

end Anew

end Docket.Url
