import Docket.Endpoint
import Docket.Proofs.Trimming
import Docket.Proofs.Url.Edit
/-!
Endpoints against the base that they were made of. The origin is the base's own under a scheme that
has a port, and no origin at all under any other. The path is the base's with two segments more,
save that a file path can come out of the join with another drive letter or fewer segments.
-/

namespace Docket

namespace Url

def port? (u : Url) : Option Nat := (u.authority.bind (·.port)).or (defaultPort? u.scheme)

def portSuffix (u : Url) : String :=
  if u.port? = defaultPort? u.scheme then "" else writePort u.port?

def withoutCredentials (u : Url) : Url :=
  { u with authority := u.authority.map fun a => { a with username := "", password := "" } }

/-- Whether the path stays as it is when it is made a directory. -/
def KeepsPath (u : Url) : Prop := ∀ names, u.path = .segments names → KeepsRead u.scheme names

theorem keepsPath_of_not_file {u : Url} (h : u.scheme ≠ "file") : u.KeepsPath :=
  fun _ _ hfile => (h hfile).elim

section Origin

variable {u : Url} {a : Authority} {host : Host}

theorem host?_eq_some_iff : u.host? = some host ↔ ∃ a, u.authority = some a ∧ a.host = some host :=
  Option.bind_eq_some_iff

theorem IsNormal.writePort_eq (h : u.IsNormal) (ha : u.authority = some a) :
    writePort a.port = u.portSuffix := by
  have hport : u.port? = a.port.or (defaultPort? u.scheme) := by rw [port?, ha, Option.bind_some]
  rw [portSuffix, hport]
  cases hp : a.port with
  | none => rw [Option.none_or, if_pos rfl, writePort]
  | some p => rw [Option.some_or, if_neg (h.port a ha p hp).symm]

theorem origin_eq_null (h : defaultPort? u.scheme = none) : u.origin = "null" := by
  rw [origin, h]

theorem origin_eq (hscheme : (defaultPort? u.scheme).isSome) (ha : u.authority = some a) :
    u.origin = u.scheme ++ "://" ++ a.writeHost := by
  obtain ⟨p, hp⟩ := Option.isSome_iff_exists.1 hscheme
  rw [origin, hp, ha]

theorem IsNormal.origin_eq (h : u.IsNormal) (hscheme : (defaultPort? u.scheme).isSome)
    (hhost : u.host? = some host) :
    u.origin = u.scheme ++ "://" ++ host.write ++ u.portSuffix := by
  obtain ⟨a, ha, hhost⟩ := host?_eq_some_iff.1 hhost
  rw [Url.origin_eq hscheme ha, Authority.writeHost, hhost, h.writePort_eq ha, Option.map_some,
    Option.getD_some, ← String.append_assoc]

theorem origin_append_writePath (hscheme : (defaultPort? u.scheme).isSome)
    (ha : u.authority = some a) (hquery : u.query = none) (hfragment : u.fragment = none) :
    u.origin ++ u.writePath = u.withoutCredentials.write := by
  have hwrite : { a with username := "", password := "" }.write = "//" ++ a.writeHost := by
    rw [Authority.write, Authority.writeUserinfo, if_pos ⟨rfl, rfl⟩, String.append_empty]
    rfl
  have hpath : u.withoutCredentials.writePath = u.writePath := by
    simp only [writePath, withoutCredentials, ha, Option.map_some]
  have hmark : "://" = ":" ++ "//" := rfl
  rw [origin_eq hscheme ha, write, hpath]
  simp only [withoutCredentials, ha, hquery, hfragment, Option.map_some, Option.map_none,
    Option.getD_some, Option.getD_none, hwrite, hmark, String.append_empty, String.append_assoc]

end Origin

end Url

namespace Endpoint

/-- The path below a base, as from a directory: the empty last segment is filled. -/
def below (scheme : String) (names : List String) : List String :=
  (Url.directory scheme names).dropLast ++ ["api", "graphql"]

section Enterprise

variable {base : String} {u : Url} {names : List String} {e : Endpoint}

theorem exists_read_of_enterprise (h : enterprise base = .ok e) : ∃ u, Url.read base = .ok u := by
  unfold enterprise at h
  split at h
  · cases h
  · exact ⟨_, ‹_›⟩

/-- What is done to a base comes to one change: its path is filled as a directory, and query and
fragment are gone. -/
theorem join_eq_below (h : u.IsNormal) (hhost : u.host?.isSome = true)
    (hnames : u.path = .segments names) :
    u.asDirectory.withoutQuery.withoutFragment.join "api/graphql" =
      u.withPath (below u.scheme names) := by
  have hauthority : u.authority.isSome = true := Option.isSome_of_isSome_bind hhost
  have hsplit : Url.splitSlashes (Url.isSpecial u.scheme) "api/graphql".toList =
      ["api", "graphql"].map String.toList := by
    cases Url.isSpecial u.scheme <;> rfl
  have hbar : ∀ s ∈ ["api", "graphql"].head?, ¬Url.IsBarred s := by
    rintro s ⟨⟩
    exact Url.opened_eq_iff.1 (by decide)
  rw [h.asDirectory_eq hauthority hnames]
  simp only [Url.join, Url.withoutQuery, Url.withoutFragment, hsplit]
  rw [Url.resumed_eq (by decide) (by simp only [Url.isDot_iff]; decide) hbar]
  rfl

theorem enterprise_eq_ok_iff (hread : Url.read base = .ok u) :
    enterprise base = .ok e ↔ u.host?.isSome = true ∧ ∃ names, u.path = .segments names ∧
      e.url = u.withPath (below u.scheme names) := by
  have hnormal := Url.isNormal_of_read hread
  unfold enterprise
  rw [hread]
  dsimp only
  constructor
  · intro h
    split at h
    · cases h
    · rename_i hguard
      rw [Bool.or_eq_true, not_or, Bool.not_eq_true, Bool.not_eq_true, Option.isNone_eq_false_iff,
        Url.isOpaque_eq_false_iff] at hguard
      obtain ⟨⟨names, hnames⟩, hhost⟩ := hguard
      cases h
      exact ⟨hhost, names, hnames, join_eq_below hnormal hhost hnames⟩
  · rintro ⟨hhost, names, hnames, he⟩
    have hclear : u.isOpaque = false := Url.isOpaque_eq_false_iff.2 ⟨names, hnames⟩
    rw [hclear, Option.isNone_eq_false_iff.2 hhost, Bool.or_false, if_neg Bool.false_ne_true,
      join_eq_below hnormal hhost hnames]
    exact congrArg _ (congrArg Endpoint.mk he.symm)

theorem exists_enterprise_iff :
    (∃ e, enterprise base = .ok e) ↔ ∃ u, Url.read base = .ok u ∧ u.host?.isSome = true := by
  constructor
  · rintro ⟨e, he⟩
    obtain ⟨u, hread⟩ := exists_read_of_enterprise he
    exact ⟨u, hread, ((enterprise_eq_ok_iff hread).1 he).1⟩
  · rintro ⟨u, hread, hhost⟩
    cases hpath : u.path with
    | segments names =>
      exact ⟨⟨_⟩, (enterprise_eq_ok_iff hread).2 ⟨hhost, names, hpath, rfl⟩⟩
    | opaquePath text =>
      have halone := (Url.isNormal_of_read hread).alone text hpath
      rw [Url.host?, halone] at hhost
      cases hhost

/-- Under a scheme that has a port the origin is the scheme, the host and the port of the base, and
all but the credentials of the endpoint's address is in the origin and the path. Under any other
scheme there is no origin. -/
theorem origin_of_enterprise (hread : Url.read base = .ok u) (h : enterprise base = .ok e) :
    ((Url.defaultPort? u.scheme).isSome = true → ∃ host, u.host? = some host ∧
      e.origin = u.scheme ++ "://" ++ host.write ++ u.portSuffix ∧
      e.origin ++ e.path = e.url.withoutCredentials.write ∧ e.url.host? = some host) ∧
    (Url.defaultPort? u.scheme = none → e.origin = "null") := by
  obtain ⟨hhost, names, -, he⟩ := (enterprise_eq_ok_iff hread).1 h
  obtain ⟨host, hhost⟩ := Option.isSome_iff_exists.1 hhost
  have horigin : e.origin = u.origin := by rw [Endpoint.origin, he, Url.withPath_origin]
  constructor
  · intro hport
    obtain ⟨a, ha, -⟩ := Url.host?_eq_some_iff.1 hhost
    refine ⟨host, hhost, ?_, ?_, ?_⟩
    · rw [horigin, (Url.isNormal_of_read hread).origin_eq hport hhost]
    · rw [Endpoint.origin, Endpoint.path, he]
      exact Url.origin_append_writePath hport ha rfl rfl
    · rw [he, Url.withPath_host?, hhost]
  · intro hport
    rw [horigin, Url.origin_eq_null hport]

end Enterprise

theorem origin_of_enterprise_port :
    ∃ u e, Url.read "http://u:p@[::1]:8080/a?q#f" = .ok u ∧
      enterprise "http://u:p@[::1]:8080/a?q#f" = .ok e ∧
      e.origin = "http://[::1]:8080" ∧ e.origin ++ e.path = "http://[::1]:8080/a/api/graphql" := by
  let a : Url.Authority := ⟨"u", "p", some (.ipv6 [0, 0, 0, 0, 0, 0, 0, 1]), some 8080⟩
  have hread : Url.read "http://u:p@[::1]:8080/a?q#f" =
      .ok ⟨"http", some a, .segments ["a"], some "q", some "f"⟩ := by rfl
  have hmade : enterprise "http://u:p@[::1]:8080/a?q#f" =
      .ok ⟨"http", some a, .segments ["a", "api", "graphql"], none, none⟩ := by rfl
  obtain ⟨host, hhost, horigin, haddress, -⟩ := (origin_of_enterprise hread hmade).1 rfl
  cases hhost
  exact ⟨_, _, hread, hmade, horigin.trans (by decide), haddress.trans (by decide)⟩

theorem exists_origin_lost :
    ∃ u e host, Url.read "foo://host:99/p?q#f" = .ok u ∧ u.host? = some host ∧
      enterprise "foo://host:99/p?q#f" = .ok e ∧
      e.origin ≠ u.scheme ++ "://" ++ host.write ++ u.portSuffix := by
  let a : Url.Authority := ⟨"", "", some (.domain "host"), some 99⟩
  refine ⟨⟨"foo", some a, .segments ["p"], some "q", some "f"⟩,
    ⟨"foo", some a, .segments ["p", "api", "graphql"], none, none⟩, .domain "host", ?_⟩
  exact ⟨by rfl, by rfl, by rfl, by decide⟩

section Path

variable {base other : String} {u v : Url} {names more : List String} {e f : Endpoint}

structure LiesBelow (e : Endpoint) (u : Url) : Prop where
  scheme : e.url.scheme = u.scheme
  authority : e.url.authority = u.authority
  query : e.url.query = none
  fragment : e.url.fragment = none
  path : e.path = Url.slashed u.writePath ++ "api/graphql" ↔ u.KeepsPath

structure Alike (u v : Url) : Prop where
  scheme : u.scheme = v.scheme
  authority : u.authority = v.authority
  path : Url.slashed u.writePath = Url.slashed v.writePath

theorem keepsPath_iff (h : u.IsNormal) (hnames : u.path = .segments names) :
    u.KeepsPath ↔ Url.directory u.scheme names = Url.ended names := by
  rw [Url.directory_eq_iff (h.written names hnames) (h.resolved names hnames)
    (h.rooted names hnames)]
  constructor
  · exact fun hkeeps => hkeeps names hnames
  · intro hkeeps found hfound
    cases hfound.symm.trans hnames
    exact hkeeps

theorem below_eq_iff (hmore : more.getLast? = some "") {scheme : String} :
    below scheme names = more.dropLast ++ ["api", "graphql"] ↔
      Url.directory scheme names = more := by
  rw [below, List.append_left_inj]
  constructor
  · intro h
    rw [← List.dropLast_append_getLast? "" (Url.getLast?_directory scheme names), h,
      List.dropLast_append_getLast? "" hmore]
  · exact fun h => by rw [h]

theorem write_filled (h : names.getLast? = some "") :
    (Url.Path.segments (names.dropLast ++ ["api", "graphql"])).write =
      (Url.Path.segments names).write ++ "api/graphql" := by
  conv_rhs => rw [← List.dropLast_append_getLast? "" h]
  rw [Url.write_append, Url.write_append, String.append_assoc]
  rfl

theorem isSegment_of_mem_filled (h : ∀ s ∈ names, Url.IsSegment s) :
    ∀ s ∈ names.dropLast ++ ["api", "graphql"], Url.IsSegment s := by
  have hadded : ∀ s ∈ ["api", "graphql"], Url.IsSegment s := by decide
  exact List.forall_mem_append.2 ⟨fun s hs => h s ((List.dropLast_sublist names).subset hs),
    hadded⟩

theorem exists_names_of_enterprise (hread : Url.read base = .ok u) (h : enterprise base = .ok e) :
    ∃ names, u.path = .segments names ∧
      u.writePath = (Url.Path.segments names).write ∧
      e.path = (Url.Path.segments (below u.scheme names)).write ∧
      e.url = u.withPath (below u.scheme names) := by
  obtain ⟨hhost, names, hnames, he⟩ := (enterprise_eq_ok_iff hread).1 h
  obtain ⟨host, hhost⟩ := Option.isSome_iff_exists.1 hhost
  obtain ⟨a, ha, -⟩ := Url.host?_eq_some_iff.1 hhost
  have hauthority : e.url.authority = some a := by rw [he, Url.withPath_authority, ha]
  refine ⟨names, hnames, ?_, ?_, he⟩
  · rw [Url.writePath_of_authority ha, hnames]
  · rw [Endpoint.path, Url.writePath_of_authority hauthority, he, Url.withPath_path]

theorem liesBelow_of_enterprise (hread : Url.read base = .ok u) (h : enterprise base = .ok e) :
    LiesBelow e u := by
  obtain ⟨names, hnames, hwrite, hpath, he⟩ := exists_names_of_enterprise hread h
  have hnormal := Url.isNormal_of_read hread
  have hwritten := hnormal.written names hnames
  have hended := Url.getLast?_ended names
  refine ⟨by simp [he], by simp [he], by simp [he], by simp [he], ?_⟩
  rw [hpath, hwrite, ← Url.write_ended hwritten, ← write_filled hended,
    keepsPath_iff hnormal hnames, ← below_eq_iff hended]
  constructor
  · refine Url.write_inj (isSegment_of_mem_filled (Url.isSegment_of_mem_directory hwritten)) ?_
    exact isSegment_of_mem_filled (Url.forall_mem_ended Url.isSegment_empty hwritten)
  · exact fun hbelow => by rw [hbelow]

theorem enterprise_eq_iff_of_alike (hu : Url.read base = .ok u) (he : enterprise base = .ok e)
    (hv : Url.read other = .ok v) (hf : enterprise other = .ok f) (h : Alike u v) :
    e = f ↔ u.path = v.path ∨ u.KeepsPath ∧ v.KeepsPath := by
  obtain ⟨names, hnames, hwrite, -, he⟩ := exists_names_of_enterprise hu he
  obtain ⟨more, hmore, hwritemore, -, hf⟩ := exists_names_of_enterprise hv hf
  have hnormal := Url.isNormal_of_read hu
  have hnormalmore := Url.isNormal_of_read hv
  have hwritten := hnormal.written names hnames
  have hwrittenmore := hnormalmore.written more hmore
  have hended : Url.ended names = Url.ended more := by
    have htext := h.path
    rw [hwrite, hwritemore, ← Url.write_ended hwritten, ← Url.write_ended hwrittenmore] at htext
    exact Url.write_inj (Url.forall_mem_ended Url.isSegment_empty hwritten)
      (Url.forall_mem_ended Url.isSegment_empty hwrittenmore) htext
  have hsame : e = f ↔ Url.directory u.scheme names = Url.directory v.scheme more := by
    rw [← below_eq_iff (Url.getLast?_directory v.scheme more), ← below, Endpoint.mk.injEq, he, hf,
      Url.mk.injEq]
    simp [h.scheme, h.authority]
  rw [hsame, keepsPath_iff hnormal hnames, keepsPath_iff hnormalmore hmore, hnames, hmore,
    Url.Path.segments.injEq, h.scheme, Url.directory_eq_directory_iff hended]

theorem enterprise_ne_hosted (h : enterprise base = .ok e) : e ≠ .hosted := by
  rintro rfl
  obtain ⟨u, hread⟩ := exists_read_of_enterprise h
  obtain ⟨-, names, -, he⟩ := (enterprise_eq_ok_iff hread).1 h
  have hpath : below u.scheme names = ["graphql"] :=
    (Url.Path.segments.inj (congrArg Url.path he)).symm
  have hlength := congrArg List.length hpath
  simp [below] at hlength

theorem resolve_eq_hosted_iff :
    resolve (some base) = .ok .hosted ↔ Text.isBlank base = true := by
  rw [← Text.trim_eq_empty_iff]
  by_cases hblank : Text.trim base = ""
  · exact iff_of_true (by simp [resolve, Option.filter, hblank]) hblank
  · refine iff_of_false ?_ hblank
    intro h
    simp only [resolve, Option.map_some, Option.filter_some, ne_eq, hblank] at h
    exact enterprise_ne_hosted h rfl

theorem resolve_of_trims {trimmed : String} (h : Text.Trims base trimmed) (hne : trimmed ≠ "") :
    resolve (some base) = enterprise trimmed := by
  rw [h.eq_trim] at hne ⊢
  simp [resolve, Option.filter, hne]

/-- A base is accepted just where it is a URL with a host, and the endpoint lies below it. Bases
that are alike have one endpoint, save where a file path is read anew as another one. No base, or a
blank one, and nothing else leads to the public service. -/
theorem resolve_lies_below (base : String) :
    ((∃ e, enterprise base = .ok e) ↔ ∃ u, Url.read base = .ok u ∧ u.host?.isSome = true) ∧
    (∀ u e, Url.read base = .ok u → enterprise base = .ok e → LiesBelow e u ∧
      ∀ other v f, Url.read other = .ok v → enterprise other = .ok f → Alike u v →
        (e = f ↔ u.path = v.path ∨ u.KeepsPath ∧ v.KeepsPath)) ∧
    resolve none = .ok .hosted ∧
    (resolve (some base) = .ok .hosted ↔ Text.isBlank base = true) ∧
    ∀ trimmed, Text.Trims base trimmed → trimmed ≠ "" →
      resolve (some base) = enterprise trimmed := by
  refine ⟨exists_enterprise_iff, ?_, rfl, resolve_eq_hosted_iff, fun _ => resolve_of_trims⟩
  intro u e hread hmade
  refine ⟨liesBelow_of_enterprise hread hmade, ?_⟩
  intro other v f hother hothermade halike
  exact enterprise_eq_iff_of_alike hread hmade hother hothermade halike

theorem resolve_lies_below_deep :
    ∃ u v e, Url.read "http://u:p@[::1]:8080/a/b?q" = .ok u ∧
      Url.read "http://u:p@[::1]:8080/a/b/#f" = .ok v ∧
      enterprise "http://u:p@[::1]:8080/a/b?q" = .ok e ∧
      enterprise "http://u:p@[::1]:8080/a/b/#f" = .ok e ∧
      LiesBelow e u ∧ e.path = "/a/b/api/graphql" := by
  let a : Url.Authority := ⟨"u", "p", some (.ipv6 [0, 0, 0, 0, 0, 0, 0, 1]), some 8080⟩
  have hu : Url.read "http://u:p@[::1]:8080/a/b?q" =
      .ok ⟨"http", some a, .segments ["a", "b"], some "q", none⟩ := by rfl
  have hv : Url.read "http://u:p@[::1]:8080/a/b/#f" =
      .ok ⟨"http", some a, .segments ["a", "b", ""], none, some "f"⟩ := by rfl
  have he : enterprise "http://u:p@[::1]:8080/a/b?q" =
      .ok ⟨"http", some a, .segments ["a", "b", "api", "graphql"], none, none⟩ := by rfl
  obtain ⟨hbelow, halike⟩ := (resolve_lies_below _).2.1 _ _ hu he
  obtain ⟨f, hf⟩ := (resolve_lies_below "http://u:p@[::1]:8080/a/b/#f").1.2 ⟨_, hv, rfl⟩
  have hsame := (halike _ _ _ hv hf ⟨rfl, rfl, by decide⟩).2
    (.inr ⟨Url.keepsPath_of_not_file (by decide), Url.keepsPath_of_not_file (by decide)⟩)
  exact ⟨_, _, _, hu, hv, he, hsame ▸ hf, hbelow, by decide⟩

theorem exists_path_rewritten :
    ∃ u e, Url.read "file://h//C|" = .ok u ∧ enterprise "file://h//C|" = .ok e ∧
      e.path ≠ Url.slashed u.writePath ++ "api/graphql" := by
  let a : Url.Authority := ⟨"", "", some (.domain "h"), none⟩
  refine ⟨⟨"file", some a, .segments ["C|"], none, none⟩,
    ⟨"file", some a, .segments ["C:", "api", "graphql"], none, none⟩, ?_⟩
  exact ⟨by rfl, by rfl, by decide⟩

end Path

end Endpoint

end Docket
