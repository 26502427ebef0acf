import Docket.Proofs.Url.Reading
import Docket.Url.Edit
/-!
What the changes to a URL come to. A path that is written out and read anew has the segments that it
had, and plain segments are joined as they are.
-/

namespace Docket.Url

def withPath (u : Url) (names : List String) : Url :=
  { u with path := .segments names, query := none, fragment := none }

section WithPath

variable (u : Url) (names : List String)

@[simp]
theorem withPath_scheme : (u.withPath names).scheme = u.scheme := rfl

@[simp]
theorem withPath_authority : (u.withPath names).authority = u.authority := rfl

@[simp]
theorem withPath_path : (u.withPath names).path = .segments names := rfl

@[simp]
theorem withPath_query : (u.withPath names).query = none := rfl

@[simp]
theorem withPath_fragment : (u.withPath names).fragment = none := rfl

@[simp]
theorem withPath_origin : (u.withPath names).origin = u.origin := rfl

@[simp]
theorem withPath_host? : (u.withPath names).host? = u.host? := rfl

end WithPath

theorem isOpaque_eq_false_iff {u : Url} :
    u.isOpaque = false ↔ ∃ names, u.path = .segments names := by
  unfold isOpaque
  cases u.path <;> simp

theorem writePath_of_authority {u : Url} {a : Authority} (ha : u.authority = some a) :
    u.writePath = u.path.write := by
  rw [writePath, ha]

section Anew

variable {special : Bool} {scheme s : String} {names more : List String}

theorem splitSlashes_write (h : ∀ t ∈ s :: names, ∀ c ∈ t.toList, isSlash special c = false) :
    splitSlashes special (s.toList ++ (Path.segments names).write.toList) =
      (s :: names).map String.toList := by
  induction names generalizing s with
  | nil =>
    have hs := List.forall_mem_singleton.1 h
    rw [splitSlashes, Path.write, List.map_nil, String.join_nil, String.toList_empty,
      List.append_nil, List.splitOnP_eq_singleton hs]
    rfl
  | cons t names ih =>
    obtain ⟨hs, hrest⟩ := List.forall_mem_cons.1 h
    have htext : (Path.segments (t :: names)).write.toList =
        '/' :: (t.toList ++ (Path.segments names).write.toList) := by
      simp [write_cons]
    have hslash : isSlash special '/' = true := rfl
    rw [splitSlashes, htext, List.splitOnP_append_cons_of_forall_mem hs '/' hslash,
      ← splitSlashes, ih hrest]
    rfl

theorem splitSlashes_dropSlash (h : ∀ t ∈ names, ∀ c ∈ t.toList, isSlash special c = false) :
    splitSlashes special (dropSlash special ((Path.segments names).write ++ "/").toList) =
      names.map String.toList ++ [[]] := by
  have hended : (Path.segments names).write ++ "/" = (Path.segments (names ++ [""])).write := by
    rw [write_append]
    rfl
  have hall : ∀ t ∈ names ++ [""], ∀ c ∈ t.toList, isSlash special c = false :=
    List.forall_mem_append.2 ⟨h, by simp⟩
  have hmap : names.map String.toList ++ [[]] = (names ++ [""]).map String.toList := by simp
  rw [hended, hmap]
  cases hnames : names ++ [""] with
  | nil => simp at hnames
  | cons s rest =>
    rw [hnames] at hall
    have htext : (Path.segments (s :: rest)).write.toList =
        '/' :: (s.toList ++ (Path.segments rest).write.toList) := by
      simp [write_cons]
    have hslash : isSlash special '/' = true := rfl
    rw [htext, dropSlash, if_pos hslash, splitSlashes_write hall]

theorem readPathText_write (hlast : names.getLast? ≠ some "")
    (h : ∀ t ∈ names, ∀ c ∈ t.toList, isSlash (isSpecial scheme) c = false) :
    readPathText scheme ((Path.segments names).write ++ "/").toList =
      .segments (directory scheme names) := by
  unfold readPathText directory
  rw [if_neg hlast]
  split
  · rename_i hfile
    have htrue : isSpecial scheme = true := by rw [hfile]; rfl
    rw [htrue] at h
    rw [walkFile, splitSlashes_dropSlash h, Walk.filePath]
    simp [hfile]
  · rename_i hfile
    rw [readPath, splitSlashes_dropSlash h]
    simp [hfile]

theorem IsNormal.asDirectory_eq {u : Url} (h : u.IsNormal) (hauthority : u.authority.isSome = true)
    (hnames : u.path = .segments names) :
    u.asDirectory = { u with path := .segments (directory u.scheme names) } := by
  obtain ⟨a, ha⟩ := Option.isSome_iff_exists.1 hauthority
  have hwrite : u.writePath = (Path.segments names).write := by
    rw [writePath_of_authority ha, hnames]
  have hslash := getLast?_write_iff (h.written names hnames)
  rw [asDirectory, hwrite]
  by_cases hlast : names.getLast? = some ""
  · rw [if_pos (hslash.2 hlast), directory, if_pos hlast, ← hnames]
  · rw [if_neg (mt hslash.1 hlast), setPath, readPathText_write hlast (h.parted names hnames)]

theorem resumed_eq {file : Bool} (h : ∀ s ∈ more, IsSegment s)
    (hdot : ∀ s ∈ more, ¬IsDot s.toList) (hbar : ∀ s ∈ more.head?, ¬IsBarred s) :
    resumed file names (more.map String.toList) = names ++ more := by
  cases more with
  | nil => simp [resumed, resolve]
  | cons s more =>
    rw [resumed, done_resolve_cons h hdot, opened_eq_iff.2 (hbar s rfl), ite_self,
      List.reverse_reverse]

end Anew

end Docket.Url
