import Docket.Proofs.Conversation
/-!
Runs of the program. Whatever can be wrong with the settings stops a run before its first request;
from then on the plan cannot be at fault, the service is asked what the calls of a fetch ask, and
all that is printed is the summary of a whole fetch.
-/

namespace Docket

open Calendar (Instant)
open Service (Answer Request)
open Sidebar (PageSize PageLimit Digest)

namespace Sidebar

theorem PageSize.exists_read_iff {n : Nat} :
    (∃ size, PageSize.read n = .ok size) ↔ 0 < n ∧ n ≤ maxPageSize := by
  rw [PageSize.read]
  split
  · simp; omega
  · split
    · simp; omega
    · simp; omega

theorem PageLimit.exists_read_iff {n : Nat} :
    (∃ limit, PageLimit.read n = .ok limit) ↔ 0 < n := by
  rw [PageLimit.read]
  split
  · simp; omega
  · simp; omega

theorem PageLimit.exists_mapM_read_iff {pages : Option Nat} :
    (∃ limit, pages.mapM PageLimit.read = .ok limit) ↔ pages ≠ some 0 := by
  cases pages with
  | none => simp [pure, Except.pure]
  | some n =>
    have hn : (∃ limit, PageLimit.read n = .ok limit) ↔ n ≠ 0 := by
      rw [PageLimit.exists_read_iff]
      omega
    rw [ne_eq, Option.some.injEq, ← ne_eq, ← hn]
    rw [Option.mapM_some]
    cases PageLimit.read n <;> simp [Functor.map, Except.map]

theorem listing_map {α : Type} (heading : String) (line : α → String) (items : List α) :
    listing heading (items.map line) =
      heading ++ " (" ++ toString items.length ++ ")\n" ++
        String.join (items.map fun i => "  " ++ line i ++ "\n") := by
  rw [listing, List.length_map, List.map_map]
  rfl

theorem Digest.summary_eq (d : Digest) : d.summary =
    "Review requested (" ++ toString d.reviewRequested.length ++ ")\n" ++
      String.join (d.reviewRequested.map fun p => "  " ++ p.line ++ "\n") ++
    ("Assigned (" ++ toString d.assigned.length ++ ")\n" ++
      String.join (d.assigned.map fun i => "  " ++ i.line ++ "\n")) ++
    ("Open pull requests (" ++ toString d.openAuthored.length ++ ")\n" ++
      String.join (d.openAuthored.map fun p => "  " ++ p.line ++ "\n")) := by
  rw [summary, listing_map, listing_map, listing_map]
  rfl

theorem Digest.summary_ne (d : Digest) : d.summary ≠ "" := by
  simp [Digest.summary, listing]

end Sidebar

theorem Settings.validate_eq_ok_iff {s : Settings} :
    s.validate = .ok () ↔ (∃ size, PageSize.read s.pageSize = .ok size) ∧
      ∃ limit, s.maxPagesPerScope.mapM PageLimit.read = .ok limit := by
  rw [PageSize.exists_read_iff, PageLimit.exists_mapM_read_iff, validate]
  split
  · simp; omega
  · split
    · simp_all
    · simp_all; omega

namespace Job

theorem ofSettings_eq_ok_iff {s : Settings} {fallback : Option String} {job : Job} :
    ofSettings s fallback = .ok job ↔ s.validate = .ok () ∧
      s.resolveToken fallback = .ok job.token ∧ s.requireUsername = .ok job.plan.user ∧
      s.scopes = .ok job.scopes ∧ s.endpoint = .ok job.endpoint ∧
      job.endpoint.reachable = .ok () ∧ PageSize.read s.pageSize = .ok job.plan.pageSize ∧
      s.maxPagesPerScope.mapM PageLimit.read = .ok job.plan.pageLimit := by
  simp only [ofSettings, bind_eq_ok_iff]
  constructor
  · rintro ⟨_, hv, token, ht, user, hu, scopes, hs, e, he, _, hr, size, hp, limit, hl, h⟩
    cases h
    exact ⟨hv, ht, hu, hs, he, hr, hp, hl⟩
  · rintro ⟨hv, ht, hu, hs, he, hr, hp, hl⟩
    exact ⟨_, hv, _, ht, _, hu, _, hs, _, he, _, hr, _, hp, _, hl, rfl⟩

end Job

namespace Program

inductive Step
  | load
  | validate
  | token
  | username
  | scopes
  | endpoint
  | client
  deriving DecidableEq

def Step.all : List Step := [.load, .validate, .token, .username, .scopes, .endpoint, .client]

def fault? {α : Type} : Except Failure α → Option Failure
  | .ok _ => none
  | .error e => some e

section

variable (loaded : Except Failure Settings) (fallback : Option String)

/-- The failure of a step by itself. Without settings only loading them can fail, and without an
endpoint no client can. -/
def Step.failure? : Step → Option Failure
  | .load => fault? loaded
  | .validate => loaded.toOption.bind fun s => fault? s.validate
  | .token => loaded.toOption.bind fun s => fault? (s.resolveToken fallback)
  | .username => loaded.toOption.bind fun s => fault? s.requireUsername
  | .scopes => loaded.toOption.bind fun s => fault? s.scopes
  | .endpoint => loaded.toOption.bind fun s => fault? s.endpoint
  | .client => loaded.toOption.bind fun s => s.endpoint.toOption.bind fun e => fault? e.reachable

def FirstFails (e : Failure) : Prop :=
  ∃ earlier step later, Step.all = earlier ++ step :: later ∧
    (∀ s ∈ earlier, s.failure? loaded fallback = none) ∧ step.failure? loaded fallback = some e

end

section

variable {loaded : Except Failure Settings} {fallback : Option String}

theorem firstFails_iff {e : Failure} :
    FirstFails loaded fallback e ↔
      Step.all.findSome? (Step.failure? loaded fallback) = some e := by
  rw [FirstFails, List.findSome?_eq_some_iff]
  constructor
  · rintro ⟨earlier, step, later, hall, hearlier, hstep⟩
    exact ⟨earlier, step, later, hall, hstep, hearlier⟩
  · rintro ⟨earlier, step, later, hall, hstep, hearlier⟩
    exact ⟨earlier, step, later, hall, hearlier, hstep⟩

theorem bind_eq_error_iff_findSome? {α β : Type} {x : Except Failure α} {f : α → Except Failure β}
    {step : Step} {later : List Step} {e : Failure}
    (hx : step.failure? loaded fallback = fault? x)
    (hf : ∀ a, x = .ok a →
      (f a = .error e ↔ later.findSome? (Step.failure? loaded fallback) = some e)) :
    x.bind f = .error e ↔
      (step :: later).findSome? (Step.failure? loaded fallback) = some e := by
  rw [List.findSome?_cons, hx]
  cases x with
  | error e' => simp [Except.bind, fault?]
  | ok a => exact hf a rfl

theorem job_eq_error_iff {e : Failure} :
    job loaded fallback = .error e ↔ FirstFails loaded fallback e := by
  rw [firstFails_iff]
  refine bind_eq_error_iff_findSome? rfl fun s hs => ?_
  subst hs
  refine bind_eq_error_iff_findSome? rfl fun _ hvalid => ?_
  refine bind_eq_error_iff_findSome? rfl fun token _ => ?_
  refine bind_eq_error_iff_findSome? rfl fun user _ => ?_
  refine bind_eq_error_iff_findSome? rfl fun scopes _ => ?_
  refine bind_eq_error_iff_findSome? rfl fun endpoint hendpoint => ?_
  refine bind_eq_error_iff_findSome? ?_ fun _ _ => ?_
  · simp [Step.failure?, Except.toOption, hendpoint]
  · obtain ⟨⟨size, hsize⟩, limit, hlimit⟩ := Settings.validate_eq_ok_iff.1 hvalid
    simp [hsize, hlimit, bind, Except.bind]

theorem exists_job (h : ∀ step, Step.failure? loaded fallback step = none) :
    ∃ s job, loaded = .ok s ∧ Program.job loaded fallback = .ok job ∧
      Job.ofSettings s fallback = .ok job := by
  cases hjob : Program.job loaded fallback with
  | error e =>
    obtain ⟨_, step, _, _, _, hstep⟩ := job_eq_error_iff.1 hjob
    rw [h step] at hstep
    cases hstep
  | ok job =>
    cases loaded with
    | error e => cases h .load
    | ok s => exact ⟨s, job, rfl, rfl, hjob⟩

end

section

variable {loaded : Except Failure Settings} {fallback : Option String} {answers : List Answer}
  {now : Instant} {out : Output}

theorem result_converse {job : Job} {d : Query.Document}
    (hjob : Program.job loaded fallback = .ok job)
    (hd : Sidebar.document job.plan.pageSize.size = .ok d) :
    (converse loaded fallback answers).result =
      Job.ending (job.plan.fetch job.scopes (Job.replies d answers)).ending := by
  simp only [converse, hjob, Job.converse, hd]

theorem success_eq_false_iff (h : run loaded fallback now answers = some out) :
    out.success = false ↔ out.out = "" := by
  obtain ⟨result, -, rfl⟩ := Option.map_eq_some_iff.1 h
  cases result with
  | error e => simp [Output.ofResult]
  | ok digest => simp [Output.ofResult, digest.summary_ne]

theorem run_success_iff :
    (run loaded fallback now answers = some out ∧ out.success = true) ↔
      ∃ job d digest unread, Program.job loaded fallback = .ok job ∧
        Sidebar.document job.plan.pageSize.size = .ok d ∧
        (job.plan.fetch job.scopes (Job.replies d answers)).ending = .done digest unread ∧
        out = ⟨true, digest.summary, ""⟩ := by
  constructor
  · rintro ⟨hout, hs⟩
    obtain ⟨result, hresult, rfl⟩ := Option.map_eq_some_iff.1 hout
    cases result with
    | error e => cases hs
    | ok digest =>
      cases hjob : Program.job loaded fallback with
      | error e => simp [converse, hjob] at hresult
      | ok job =>
        obtain ⟨d, hd, -⟩ := job.plan.pageSize.exists_document
        rw [result_converse hjob hd] at hresult
        cases hend : (job.plan.fetch job.scopes (Job.replies d answers)).ending with
        | done digest' unread =>
          rw [hend] at hresult
          cases hresult
          exact ⟨job, d, digest, unread, rfl, hd, hend, rfl⟩
        | failed e => simp [hend, Job.ending] at hresult
        | awaiting => simp [hend, Job.ending] at hresult
  · rintro ⟨job, d, digest, unread, hjob, hd, hend, rfl⟩
    refine ⟨?_, rfl⟩
    rw [run, result_converse hjob hd, hend]
    rfl

end

/-- A step that fails ends the program before any request, and the first one that does is reported.
Past all of them neither the plan nor its query can fail any more, and the output is the summary of
a whole fetch or nothing. The requests, and what is made of the answers, are those of one query for
each call of the fetch. -/
theorem run_outcome (loaded : Except Failure Settings) (fallback : Option String) (now : Instant)
    (answers : List Answer) :
    (∀ e, FirstFails loaded fallback e →
      converse loaded fallback answers = ⟨[], some (.error e)⟩ ∧
      run loaded fallback now answers = some ⟨false, "", Output.describe now e ++ "\n"⟩) ∧
    ((∀ step, Step.failure? loaded fallback step = none) →
      ∃ s job d, loaded = .ok s ∧ Program.job loaded fallback = .ok job ∧
        PageSize.read s.pageSize = .ok job.plan.pageSize ∧
        s.maxPagesPerScope.mapM PageLimit.read = .ok job.plan.pageLimit ∧
        Sidebar.document job.plan.pageSize.size = .ok d ∧
        (converse loaded fallback answers).result =
          Job.ending (job.plan.fetch job.scopes (Job.replies d answers)).ending) ∧
    (∀ out : Output,
      (run loaded fallback now answers = some out → (out.success = false ↔ out.out = "")) ∧
      ((run loaded fallback now answers = some out ∧ out.success = true) ↔
        ∃ job d digest unread, Program.job loaded fallback = .ok job ∧
          Sidebar.document job.plan.pageSize.size = .ok d ∧
          (job.plan.fetch job.scopes (Job.replies d answers)).ending = .done digest unread ∧
          out = ⟨true,
            "Review requested (" ++ toString digest.reviewRequested.length ++ ")\n" ++
              String.join (digest.reviewRequested.map fun p => "  " ++ p.line ++ "\n") ++
            ("Assigned (" ++ toString digest.assigned.length ++ ")\n" ++
              String.join (digest.assigned.map fun i => "  " ++ i.line ++ "\n")) ++
            ("Open pull requests (" ++ toString digest.openAuthored.length ++ ")\n" ++
              String.join (digest.openAuthored.map fun p => "  " ++ p.line ++ "\n")), ""⟩)) ∧
    ∀ job service n, Program.job loaded fallback = .ok job →
      answers = (job.rounds service n).flatMap (Round.answers job.endpoint) →
      converse loaded fallback answers =
        ⟨(job.rounds service n).flatMap (Round.requests job.endpoint) ++
            ((job.fetch (job.rounds service n)).calls.drop
              (job.rounds service n).length).filterMap job.request?,
          Job.ending (job.fetch (job.rounds service n)).ending⟩ := by
  refine ⟨fun e h => ?_, fun h => ?_, fun out => ⟨success_eq_false_iff, ?_⟩, ?_⟩
  · have hjob := job_eq_error_iff.2 h
    simp [run, converse, hjob, Output.ofResult]
  · obtain ⟨s, job, hs, hjob, hsettings⟩ := exists_job h
    obtain ⟨-, -, -, -, -, -, hsize, hlimit⟩ := Job.ofSettings_eq_ok_iff.1 hsettings
    obtain ⟨d, hd, -⟩ := job.plan.pageSize.exists_document
    exact ⟨s, job, d, hs, hjob, hsize, hlimit, hd, result_converse hjob hd⟩
  · simp only [← Digest.summary_eq]
    exact run_success_iff
  · rintro job service n hjob rfl
    simp only [converse, hjob, Job.converse_answers (job.asks_rounds service n)]

section Sample

def sampleSettings : Settings := ⟨some "t", some "ann", none, some "north,south", 100, none⟩

def pageText (nodes : List Char) : List Char :=
  "\x7b\"pageInfo\":\x7b\"hasNextPage\":false\x7d,\"nodes\":[".toList ++ nodes ++
    "]\x7d".toList

def bodyText (assigned : List Char) : List Char :=
  "\x7b\"data\":\x7b\"openItems\":".toList ++ pageText [] ++ ",\"reviewRequested\":".toList ++
    pageText [] ++ ",\"assignments\":".toList ++ pageText assigned ++ "\x7d\x7d".toList

def issueText : List Char :=
  "\x7b\"__typename\":\"Issue\",\"number\":2,\"title\":\"T\",\"url\":\"a:b\",".toList ++
    "\"createdAt\":\"2024-01-01T00:00:00Z\",\"updatedAt\":\"2024-01-01T00:00:00Z\"\x7d".toList

def sampleAnswers : List Answer :=
  [.reply 200 (.ofList (bodyText issueText)), .reply 200 (.ofList (bodyText []))]

def samplePage (nodes : List Json) : Json :=
  .object [("pageInfo", .object [("hasNextPage", .bool false)]), ("nodes", .array nodes)]

def sampleData (assigned : List Json) : Json :=
  .object [("openItems", samplePage []), ("reviewRequested", samplePage []),
    ("assignments", samplePage assigned)]

def sampleIssue : Json :=
  .object [("__typename", .string "Issue"), ("number", .ofInt 2), ("title", .string "T"),
    ("url", .string "a:b"), ("createdAt", .string "2024-01-01T00:00:00Z"),
    ("updatedAt", .string "2024-01-01T00:00:00Z")]

theorem read?_issueText : Service.Envelope.read? (.ofList (bodyText issueText)) =
    some ⟨some (sampleData [sampleIssue]), []⟩ := by
  rw [Service.Envelope.read?, Json.Outline.readFirst?, String.toList_ofList]
  delta bodyText pageText issueText
  -- a literal is its characters by this lemma, where to decode it would take long
  repeat rw [String.toList_ofList]
  rfl

theorem read?_nil : Service.Envelope.read? (.ofList (bodyText [])) =
    some ⟨some (sampleData []), []⟩ := by
  rw [Service.Envelope.read?, Json.Outline.readFirst?, String.toList_ofList]
  delta bodyText pageText
  repeat rw [String.toList_ofList]
  rfl

theorem replies_sampleAnswers (d : Query.Document) : Job.replies d sampleAnswers =
    [failing .mismatch (d.decode (sampleData [sampleIssue])),
      failing .mismatch (d.decode (sampleData []))] := by
  have hfirst := Service.judge_of_carries d.operation.text
    (Service.Answer.carries_iff.2 ⟨200, _, rfl, rfl, read?_issueText⟩)
  have hlast := Service.judge_of_carries d.operation.text
    (Service.Answer.carries_iff.2 ⟨200, _, rfl, rfl, read?_nil⟩)
  rw [sampleAnswers, Job.replies_cons hfirst, Job.replies_cons hlast, Job.replies]

def sampleSummary : String :=
  "Review requested (0)\nAssigned (1)\n  #2 T by ghost - a:b\nOpen pull requests (0)\n"

theorem run_sampleAnswers :
    run (.ok sampleSettings) none ⟨0, 0⟩ sampleAnswers = some ⟨true, sampleSummary, ""⟩ := by
  rw [run, converse]
  simp only [Job.converse, replies_sampleAnswers]
  decide +kernel

theorem run_outcome_two_scopes :
    run (.ok sampleSettings) none ⟨0, 0⟩ sampleAnswers = some ⟨true, sampleSummary, ""⟩ ∧
    ∃ job d digest unread, Program.job (.ok sampleSettings) none = .ok job ∧
      Sidebar.document job.plan.pageSize.size = .ok d ∧
      (job.plan.fetch job.scopes (Job.replies d sampleAnswers)).ending = .done digest unread := by
  obtain ⟨-, -, hout, -⟩ := run_outcome (.ok sampleSettings) none ⟨0, 0⟩ sampleAnswers
  obtain ⟨job, d, digest, unread, hjob, hd, hend, -⟩ := (hout _).2.1 ⟨run_sampleAnswers, rfl⟩
  exact ⟨run_sampleAnswers, job, d, digest, unread, hjob, hd, hend⟩

end Sample

end Program

end Docket
