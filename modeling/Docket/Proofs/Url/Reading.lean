import Docket.Proofs.Except
import Docket.Proofs.Url.Directory
/-!
What reading a URL makes sure of, whatever the scheme and the text.
-/

namespace Docket.Url

/-- What holds of every URL that was read: a port is not the one that the scheme implies, a path
without segments stands alone, and segments are written ones with no slash in them. Only a file path
may hold a dot segment, and it does not open with an empty one that another follows. -/
structure IsNormal (u : Url) : Prop where
  port : ∀ a ∈ u.authority, ∀ p ∈ a.port, defaultPort? u.scheme ≠ some p
  alone : ∀ text, u.path = .opaquePath text → u.authority = none
  written : ∀ names, u.path = .segments names → ∀ s ∈ names, IsSegment s
  resolved : ∀ names, u.path = .segments names → u.scheme ≠ "file" → ∀ s ∈ names, ¬IsDot s.toList
  rooted : ∀ names, u.path = .segments names → u.scheme = "file" →
    ∀ rest, names = "" :: rest → rest = []
  parted : ∀ names, u.path = .segments names →
    ∀ s ∈ names, ∀ c ∈ s.toList, isSlash (isSpecial u.scheme) c = false

section Authority

variable {scheme : String} {more : Bool} {cs rest : List Char}

theorem readPort_ne_default {p : Nat} (h : readPort scheme cs = .ok (some p)) :
    defaultPort? scheme ≠ some p := by
  unfold readPort at h
  dsimp only at h
  split at h
  · cases h
  · split at h
    · cases h
    · rename_i hport
      cases h
      simp only [Bool.or_eq_true, decide_eq_true_eq, not_or] at hport
      exact hport.2

theorem readAuthority_port {a : Authority} (h : readAuthority scheme more cs = .ok (a, rest)) :
    ∀ p ∈ a.port, defaultPort? scheme ≠ some p := by
  have hport : ∃ text, readPort scheme text = .ok a.port := by
    unfold readAuthority at h
    dsimp only at h
    split at h
    · cases h
    · obtain ⟨host, -, h⟩ := bind_eq_ok_iff.1 h
      split at h
      · cases h
      · obtain ⟨⟨port, left⟩, hport, h⟩ := bind_eq_ok_iff.1 h
        obtain ⟨p, hread, hp⟩ := bind_eq_ok_iff.1 hport
        cases hp
        split at h
        · cases h
        · cases h
          exact ⟨_, hread⟩
  obtain ⟨text, htext⟩ := hport
  intro p hp
  rw [hp] at htext
  exact readPort_ne_default htext

end Authority

section Path

theorem segments_of_readPath {special : Bool} {cs : List Char} {names : List String}
    (h : readPath special cs = .segments names) :
    ∀ s ∈ names, IsSegment s ∧ ¬IsDot s.toList ∧ ∀ c ∈ s.toList, isSlash special c = false := by
  cases h
  intro s hs
  have hs := List.mem_reverse.1 hs
  refine ⟨isSegment_of_mem_walk not_mem_splitSlashes s hs, ?_, ?_⟩
  · exact @not_isDot_of_mem_walk false _ (fun _ _ hfile => by cases hfile) s hs
  · exact isSlash_of_mem_walk Text.forall_mem_splitOnP s hs

theorem segments_of_filePath {cs : List Char} {names : List String}
    (h : (walkFile cs).filePath = .segments names) :
    (∀ s ∈ names, IsSegment s ∧ ∀ c ∈ s.toList, isSlash true c = false) ∧
      ∀ rest, names = "" :: rest → rest = [] := by
  cases h
  refine ⟨fun s hs => ?_, fun rest hrest => eq_nil_of_dropEmpty hrest⟩
  have hs := List.mem_reverse.1 (dropEmpty_subset _ hs)
  exact ⟨isSegment_of_mem_walk not_mem_splitSlashes s hs,
    isSlash_of_mem_walk Text.forall_mem_splitOnP s hs⟩

theorem exists_walkFile_of_readFileHost {cs : List Char} {host : Option Host} {w : Walk}
    (h : readFileHost cs = .ok (host, w)) : ∃ text, w = walkFile text := by
  unfold readFileHost at h
  dsimp only at h
  split at h
  · cases h
    exact ⟨_, rfl⟩
  · split at h
    · cases h
      exact ⟨_, rfl⟩
    · obtain ⟨found, -, h⟩ := map_eq_ok_iff.1 h
      split at h
      · cases h
        exact ⟨_, rfl⟩
      · cases h
        exact ⟨_, rfl⟩

end Path

section Parts

variable {cs : List Char} {authority : Option Authority} {path : Path}

theorem readFile_parts (h : readFile cs = .ok (authority, path)) :
    (∃ a, authority = some a ∧ a.port = none) ∧ ∃ text, path = (walkFile text).filePath := by
  unfold readFile at h
  dsimp only at h
  split at h
  · obtain ⟨⟨host, w⟩, hhost, h⟩ := bind_eq_ok_iff.1 h
    obtain ⟨text, rfl⟩ := exists_walkFile_of_readFileHost hhost
    cases h
    exact ⟨⟨_, rfl, rfl⟩, text, rfl⟩
  · cases h
    exact ⟨⟨_, rfl, rfl⟩, _, rfl⟩
  · cases h
    exact ⟨⟨_, rfl, rfl⟩, _, rfl⟩

theorem readSpecial_parts {scheme : String} {more : Bool}
    (h : readSpecial scheme more cs = .ok (authority, path)) :
    (∃ a, authority = some a ∧ ∀ p ∈ a.port, defaultPort? scheme ≠ some p) ∧
      ∃ text, path = readPath true text := by
  unfold readSpecial at h
  obtain ⟨⟨a, left⟩, ha, h⟩ := bind_eq_ok_iff.1 h
  cases h
  exact ⟨⟨a, rfl, readAuthority_port ha⟩, _, rfl⟩

theorem readOther_parts {scheme : String} {more : Bool}
    (h : readOther scheme more cs = .ok (authority, path)) :
    (∀ a ∈ authority, ∀ p ∈ a.port, defaultPort? scheme ≠ some p) ∧
      ((∃ text, path = .opaquePath text) ∧ authority = none ∨ path = .segments [] ∨
        ∃ text, path = readPath false text) := by
  unfold readOther at h
  split at h
  · obtain ⟨⟨a, left⟩, ha, h⟩ := bind_eq_ok_iff.1 h
    cases h
    refine ⟨?_, .inr ?_⟩
    · rintro _ ⟨⟩
      exact readAuthority_port ha
    · split
      · exact .inl rfl
      · exact .inr ⟨_, rfl⟩
  · cases h
    exact ⟨nofun, .inr (.inr ⟨_, rfl⟩)⟩
  · cases h
    exact ⟨nofun, .inl ⟨⟨_, rfl⟩, rfl⟩⟩

end Parts

theorem exists_parts_of_read {s : String} {u : Url} (h : read s = .ok u) :
    ∃ more cs, (if u.scheme = "file" then readFile cs
      else if isSpecial u.scheme then readSpecial u.scheme more cs
      else readOther u.scheme more cs) = .ok (u.authority, u.path) := by
  unfold read readChars at h
  split at h
  · cases h
  · dsimp only at h
    split at h
    · rename_i hfile
      obtain ⟨⟨authority, path⟩, hparts, h⟩ := bind_eq_ok_iff.1 h
      cases h
      exact ⟨false, _, by rw [if_pos hfile]; exact hparts⟩
    · rename_i hfile
      split at h
      · rename_i hspecial
        obtain ⟨⟨authority, path⟩, hparts, h⟩ := bind_eq_ok_iff.1 h
        cases h
        exact ⟨_, _, by rw [if_neg hfile, if_pos hspecial]; exact hparts⟩
      · rename_i hspecial
        obtain ⟨⟨authority, path⟩, hparts, h⟩ := bind_eq_ok_iff.1 h
        cases h
        exact ⟨_, _, by rw [if_neg hfile, if_neg hspecial]; exact hparts⟩

theorem isNormal_of_not_file {u : Url} (hfile : u.scheme ≠ "file")
    (hport : ∀ a ∈ u.authority, ∀ p ∈ a.port, defaultPort? u.scheme ≠ some p)
    (halone : ∀ text, u.path = .opaquePath text → u.authority = none)
    (hsegments : ∀ names, u.path = .segments names → ∀ s ∈ names,
      IsSegment s ∧ ¬IsDot s.toList ∧ ∀ c ∈ s.toList, isSlash (isSpecial u.scheme) c = false) :
    u.IsNormal where
  port := hport
  alone := halone
  written := fun names hnames s hs => (hsegments names hnames s hs).1
  resolved := fun names hnames _ s hs => (hsegments names hnames s hs).2.1
  rooted := fun _ _ h => (hfile h).elim
  parted := fun names hnames s hs => (hsegments names hnames s hs).2.2

theorem isNormal_of_read {s : String} {u : Url} (h : read s = .ok u) : u.IsNormal := by
  obtain ⟨more, cs, hparts⟩ := exists_parts_of_read h
  split at hparts
  · rename_i hfile
    obtain ⟨⟨a, ha, hport⟩, text, htext⟩ := readFile_parts hparts
    have hsegments {names : List String} (hnames : u.path = .segments names) :=
      segments_of_filePath (htext.symm.trans hnames)
    refine ⟨?_, ?_, fun _ hnames s hs => ((hsegments hnames).1 s hs).1,
      fun _ _ hnot => (hnot hfile).elim, fun _ hnames _ => (hsegments hnames).2, ?_⟩
    · intro b hb p hp
      cases ha.symm.trans hb
      rw [hport] at hp
      cases hp
    · intro t ht
      cases htext.symm.trans ht
    · intro names hnames s hs
      rw [hfile]
      exact ((hsegments hnames).1 s hs).2
  · rename_i hfile
    split at hparts
    · rename_i hspecial
      obtain ⟨⟨a, ha, hport⟩, text, htext⟩ := readSpecial_parts hparts
      refine isNormal_of_not_file hfile ?_ ?_ fun names hnames =>
        hspecial ▸ segments_of_readPath (htext.symm.trans hnames)
      · intro b hb
        cases ha.symm.trans hb
        exact hport
      · intro t ht
        cases htext.symm.trans ht
    · rename_i hspecial
      obtain ⟨hport, hpath⟩ := readOther_parts hparts
      refine isNormal_of_not_file hfile hport ?_ ?_
      · intro t ht
        rcases hpath with ⟨-, hnone⟩ | hnil | ⟨text, htext⟩
        · exact hnone
        · cases hnil.symm.trans ht
        · cases htext.symm.trans ht
      · intro names hnames
        rcases hpath with ⟨⟨text, htext⟩, -⟩ | hnil | ⟨text, htext⟩
        · cases htext.symm.trans hnames
        · cases hnil.symm.trans hnames
          nofun
        · exact Bool.eq_false_iff.2 hspecial ▸ segments_of_readPath (htext.symm.trans hnames)

end Docket.Url
