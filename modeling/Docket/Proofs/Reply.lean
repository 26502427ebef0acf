import Docket.Proofs.Accumulation
import Docket.Proofs.Except
import Docket.Proofs.Response
import Docket.Sidebar.Fetch
/-!
What a reply says of each stream, and what a collection makes of it. A stream is read only while it
is pending, and each stream changes its own walk only, so a reply fails exactly where the first
pending stream that cannot take in its page does.
-/

namespace Docket

theorem Walk.absorb_ok {α : Type} {w w' : Walk α} {p : Page α} (h : w.absorb p = (w', .ok ())) :
    w'.items = w.items ++ p.items ∧ w'.isExhausted = (w.isExhausted || p.info.isLast) ∧
      w'.cursor = if p.info.isLast then w.cursor else p.info.endCursor := by
  unfold PageInfo.isLast
  rcases w.absorb_cases p with ⟨hnext, hw⟩ | ⟨cursor, hnext, hend, hw⟩ | ⟨-, -, hw⟩
  · cases hw.symm.trans h
    simp [hnext]
  · cases hw.symm.trans h
    simp [hnext, hend]
  · cases hw.symm.trans h

namespace Sidebar

open Result (Response Value Entry)

theorem Stream.nodup_all : Stream.all.Nodup := by decide

theorem Stream.mem_all (s : Stream) : s ∈ Stream.all := by cases s <;> decide

def Stream.largest (f : Stream → Nat) : Nat := Stream.all.foldl (fun n s => max n (f s)) 0

theorem Stream.largest_le_iff {f : Stream → Nat} {n : Nat} : largest f ≤ n ↔ ∀ s, f s ≤ n := by
  simp only [largest, all, List.foldl]
  constructor
  · intro h s
    cases s <;> omega
  · intro h
    have := h .openItems
    have := h .reviewRequested
    have := h .assignments
    omega

theorem Collection.readPage_eq_ok_iff {r : Response} {s : Stream} {page : Page s.Item} :
    readPage r s = .ok page ↔ ∃ search info nodes, r.object s.key = .ok search ∧
      search.object "pageInfo" = .ok info ∧ info.optText "endCursor" = .ok page.info.endCursor ∧
      info.bool "hasNextPage" = .ok page.info.hasNextPage ∧ search.objects "nodes" = .ok nodes ∧
      nodes.map s.readItem = page.items.map .ok := by
  simp only [readPage, PageInfo.read, bind_eq_ok_iff, mapM_eq_ok_iff, Except.ok.injEq]
  constructor
  · rintro ⟨search, hs, info, hi, _, ⟨cursor, hc, more, hm, rfl⟩, nodes, hn, items, hit, rfl⟩
    exact ⟨search, info, nodes, hs, hi, hc, hm, hn, hit⟩
  · rintro ⟨search, info, nodes, hs, hi, hc, hm, hn, hit⟩
    exact ⟨search, hs, info, hi, page.info, ⟨_, hc, _, hm, rfl⟩, nodes, hn, page.items, hit, rfl⟩

/-- What a response to a pending stream fails with: a page that cannot be read, or one that
promises more and does not say where. -/
def Stream.fault? (s : Stream) (r : Response) : Option Failure :=
  match Collection.readPage r s with
  | .error e => some (.response e)
  | .ok page =>
    if page.info.hasNextPage ∧ page.info.endCursor = none then some .noEndCursor else none

def Stream.Fits (s : Stream) (r : Response) : Prop :=
  ∃ (search info : Response) (cursor : Option String) (more : Bool) (items : List Entry)
    (nodes : List Response),
    Entries.get? s.key r.entries = some (.object search) ∧
    Entries.get? "pageInfo" search.entries = some (.object info) ∧
    Entries.get? "endCursor" info.entries = some (cursor.elim .null .text) ∧
    Entries.get? "hasNextPage" info.entries = some (.bool more) ∧
    Entries.get? "nodes" search.entries = some (.list items) ∧
    items.filter (fun e => !e.isNull) = nodes.map .object ∧
    (∀ node ∈ nodes, ∃ item, s.readItem node = .ok item) ∧
    (more = true → cursor.isSome = true)

theorem Stream.fault?_eq_none_iff {s : Stream} {r : Response} : s.fault? r = none ↔ s.Fits r := by
  constructor
  · intro h
    unfold fault? at h
    cases hp : Collection.readPage r s with
    | error e => simp [hp] at h
    | ok page =>
      obtain ⟨search, info, nodes, hs, hi, hc, hm, hn, hit⟩ := Collection.readPage_eq_ok_iff.1 hp
      obtain ⟨items, hn, hf⟩ := Response.objects_eq_ok_iff.1 hn
      refine ⟨search, info, page.info.endCursor, page.info.hasNextPage, items, nodes,
        Response.object_eq_ok_iff.1 hs, Response.object_eq_ok_iff.1 hi,
        Response.optText_eq_ok_iff.1 hc, Response.bool_eq_ok_iff.1 hm, hn,
        Response.objectsOf?_eq_some_iff.1 hf, exists_map_eq_map_ok.1 ⟨_, hit⟩, ?_⟩
      intro hmore
      simpa [hp, hmore, Option.isSome_iff_ne_none] using h
  · rintro ⟨search, info, cursor, more, items, nodes, hs, hi, hc, hm, hn, hf, hit, hmore⟩
    obtain ⟨found, hit⟩ := exists_map_eq_map_ok.2 hit
    have hp : Collection.readPage r s = .ok ⟨found, ⟨cursor, more⟩⟩ :=
      Collection.readPage_eq_ok_iff.2 ⟨search, info, nodes, Response.object_eq_ok_iff.2 hs,
        Response.object_eq_ok_iff.2 hi, Response.optText_eq_ok_iff.2 hc,
        Response.bool_eq_ok_iff.2 hm,
        Response.objects_eq_ok_iff.2 ⟨items, hn, Response.objectsOf?_eq_some_iff.2 hf⟩, hit⟩
    simp only [fault?, hp]
    rw [if_neg]
    rintro ⟨hm, rfl⟩
    cases hmore hm

namespace Collection

def Absorbs (r : Response) (s : Stream) (w w' : Walk s.Item) : Prop :=
  (w.isExhausted = true ∧ w' = w) ∨
    (w.isExhausted = false ∧ ∃ page, readPage r s = .ok page ∧ w.absorb page = (w', .ok ()))

theorem absorbStream_ok {r : Response} {c d : Collection} {s : Stream}
    (h : absorbStream r c s = .ok d) :
    Absorbs r s (c.get s) (d.get s) ∧ ∀ u ≠ s, d.get u = c.get u := by
  unfold absorbStream at h
  by_cases he : (c.get s).isExhausted = true
  · rw [if_pos he] at h
    cases h
    exact ⟨.inl ⟨he, rfl⟩, fun _ _ => rfl⟩
  · rw [if_neg he, bind_eq_ok_iff] at h
    obtain ⟨page, hp, h⟩ := h
    rw [failing_eq_ok_iff] at hp
    split at h
    case h_1 w ha =>
      cases h
      refine ⟨.inr ⟨Bool.eq_false_iff.2 he, page, hp, ?_⟩, fun u hu => get_set_of_ne c w hu⟩
      rw [get_set_self, ha]
    case h_2 => cases h

theorem absorbStream_error_iff {r : Response} {c : Collection} {s : Stream} {e : Failure} :
    absorbStream r c s = .error e ↔ (c.get s).isExhausted = false ∧ s.fault? r = some e := by
  unfold absorbStream Stream.fault?
  cases he : (c.get s).isExhausted with
  | true => simp
  | false =>
    cases hp : readPage r s with
    | error e' => simp [failing, bind, Except.bind]
    | ok page =>
      obtain ⟨items, cursor, more⟩ := page
      cases more <;> cases cursor <;>
        simp [failing, bind, Except.bind, Walk.absorb, PageInfo.isLast]

theorem foldlM_absorbStream_ok {r : Response} {ss : List Stream} {c d : Collection}
    (hn : ss.Nodup) (h : ss.foldlM (absorbStream r) c = .ok d) :
    (∀ s ∈ ss, Absorbs r s (c.get s) (d.get s)) ∧ ∀ s, s ∉ ss → d.get s = c.get s := by
  induction ss generalizing c with
  | nil =>
    cases h
    exact ⟨fun _ hs => absurd hs List.not_mem_nil, fun _ _ => rfl⟩
  | cons s ss ih =>
    obtain ⟨hs, hn⟩ := List.nodup_cons.1 hn
    obtain ⟨c₁, h₁, h⟩ := bind_eq_ok_iff.1 h
    obtain ⟨ha, hk⟩ := absorbStream_ok h₁
    obtain ⟨hin, hout⟩ := ih hn h
    refine ⟨fun u hu => ?_, fun u hu => ?_⟩
    · by_cases hus : u = s
      · subst hus
        rwa [hout u hs]
      · rw [← hk u hus]
        exact hin u ((List.mem_cons.1 hu).resolve_left hus)
    · obtain ⟨hus, hu⟩ := not_or.1 (mt List.mem_cons.2 hu)
      rw [hout u hu, hk u hus]

theorem foldlM_absorbStream_error_iff {r : Response} {ss : List Stream} {c : Collection}
    {e : Failure} (hn : ss.Nodup) :
    ss.foldlM (absorbStream r) c = .error e ↔
      (ss.filter fun s => !(c.get s).isExhausted).findSome? (fun s => s.fault? r) = some e := by
  induction ss generalizing c with
  | nil => simp [pure, Except.pure]
  | cons s ss ih =>
    obtain ⟨hs, hn⟩ := List.nodup_cons.1 hn
    rw [List.foldlM_cons]
    cases h₁ : absorbStream r c s with
    | error e' =>
      obtain ⟨he, hf⟩ := absorbStream_error_iff.1 h₁
      simp [bind, Except.bind, he, hf]
    | ok c₁ =>
      have hk := (absorbStream_ok h₁).2
      have hf : ss.filter (fun u => !(c₁.get u).isExhausted) =
          ss.filter fun u => !(c.get u).isExhausted :=
        List.filter_congr fun u hu => by rw [hk u fun h => hs (h ▸ hu)]
      show List.foldlM (absorbStream r) c₁ ss = .error e ↔ _
      rw [ih hn, hf]
      cases he : (c.get s).isExhausted with
      | true => simp [he]
      | false =>
        cases hfault : s.fault? r with
        | none => simp [he, hfault]
        | some e' => cases h₁.symm.trans (absorbStream_error_iff.2 ⟨he, hfault⟩)

def pending (c : Collection) : List Stream := Stream.all.filter fun s => !(c.get s).isExhausted

theorem firstPending?_eq (c : Collection) : c.firstPending? = c.pending.head? :=
  List.head?_filter.symm

theorem absorb_ok {r : Response} {c d : Collection} (h : c.absorb r = .ok d) (s : Stream) :
    Absorbs r s (c.get s) (d.get s) :=
  (foldlM_absorbStream_ok Stream.nodup_all h).1 s (Stream.mem_all s)

theorem absorb_error_iff {r : Response} {c : Collection} {e : Failure} :
    c.absorb r = .error e ↔ c.pending.findSome? (fun s => s.fault? r) = some e :=
  foldlM_absorbStream_error_iff Stream.nodup_all

end Collection

namespace Reply

def response? : Reply → Option Response
  | .ok (.object o) => some o.toResponse
  | _ => none

def search? (reply : Reply) (key : String) : Option Response :=
  reply.response?.bind fun r => (r.object key).toOption

def pageInfo? (reply : Reply) (key : String) : Option Response :=
  (reply.search? key).bind fun r => (r.object "pageInfo").toOption

def ends (reply : Reply) (key : String) : Bool :=
  (reply.pageInfo? key).bind (fun r => (r.bool "hasNextPage").toOption) = some false

def endCursor? (reply : Reply) (key : String) : Option String :=
  (reply.pageInfo? key).bind fun r => (r.optText "endCursor").toOption.join

def nodes (reply : Reply) (key : String) : List Response :=
  ((reply.search? key).bind fun r => (r.objects "nodes").toOption).getD []

/-- What is wrong with a reply while some streams are pending; the first that cannot take in its
page decides. -/
def fault? (pending : List Stream) : Reply → Option Failure
  | .error e => some e
  | .ok (.object o) => pending.findSome? fun s => s.fault? o.toResponse
  | .ok _ => some (.response (.unexpectedShape "" .object))

def Fits (pending : List Stream) (reply : Reply) : Prop :=
  ∃ o, reply = .ok (.object o) ∧ ∀ s ∈ pending, s.Fits o.toResponse

theorem fault?_eq_none_iff {pending : List Stream} {reply : Reply} :
    reply.fault? pending = none ↔ reply.Fits pending := by
  rcases reply with e | v
  · simp [fault?, Fits]
  · cases v with
    | object o => simp [fault?, Fits, List.findSome?_eq_none_iff, Stream.fault?_eq_none_iff]
    | _ => simp [fault?, Fits]

theorem readers_of_readPage {reply : Reply} {r : Response} (hr : reply.response? = some r)
    {s : Stream} {page : Page s.Item} (hp : Collection.readPage r s = .ok page) :
    reply.ends s.key = page.info.isLast ∧ reply.endCursor? s.key = page.info.endCursor ∧
      (reply.nodes s.key).map s.readItem = page.items.map .ok := by
  obtain ⟨search, info, nodes, hs, hi, hc, hm, hn, hit⟩ := Collection.readPage_eq_ok_iff.1 hp
  have hsearch : reply.search? s.key = some search := by simp [search?, hr, hs, Except.toOption]
  have hinfo : reply.pageInfo? s.key = some info := by
    simp [pageInfo?, hsearch, hi, Except.toOption]
  refine ⟨?_, ?_, ?_⟩
  · cases h : page.info.hasNextPage <;>
      simp [ends, hinfo, hm, Except.toOption, PageInfo.isLast, h]
  · simp [endCursor?, hinfo, hc, Except.toOption]
  · simp [Reply.nodes, hsearch, hn, Except.toOption, hit]

theorem ends_or_isSome_endCursor? {reply : Reply} {pending : List Stream} (h : reply.Fits pending)
    {s : Stream} (hs : s ∈ pending) :
    reply.ends s.key = true ∨ (reply.endCursor? s.key).isSome = true := by
  obtain ⟨o, rfl, hf⟩ := h
  have hn := Stream.fault?_eq_none_iff.2 (hf s hs)
  unfold Stream.fault? at hn
  cases hp : Collection.readPage o.toResponse s with
  | error e =>
    rw [hp] at hn
    cases hn
  | ok page =>
    have hr : response? (.ok (.object o)) = some o.toResponse := rfl
    obtain ⟨hends, hcursor, -⟩ := readers_of_readPage hr hp
    rw [hends, hcursor, PageInfo.isLast, Option.isSome_iff_ne_none]
    cases hm : page.info.hasNextPage with
    | false => exact .inl rfl
    | true => exact .inr fun hc => by simp [hp, hm, hc] at hn

end Reply

namespace Collection

theorem receive_ok {c d : Collection} {reply : Reply} (h : c.receive reply = .ok d) :
    ∃ r, reply.response? = some r ∧ c.absorb r = .ok d := by
  unfold receive at h
  simp only [bind_eq_ok_iff, failing_eq_ok_iff] at h
  obtain ⟨value, rfl, r, hr, hd⟩ := h
  cases value with
  | object o =>
    cases hr
    exact ⟨_, rfl, hd⟩
  | _ => cases hr

theorem receive_error_iff {c : Collection} {reply : Reply} {e : Failure} :
    c.receive reply = .error e ↔ reply.fault? c.pending = some e := by
  cases reply with
  | error e' => simp [receive, Reply.fault?, bind, Except.bind]
  | ok value =>
    cases value with
    | object o => exact absorb_error_iff
    | _ => simp [receive, Reply.fault?, bind, Except.bind, failing, Response.ofValue?]

end Collection

end Sidebar

end Docket
