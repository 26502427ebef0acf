import Docket.Proofs.Except
import Docket.Service.Exchange
/-!
What a query comes to, read off the reply to it: the envelope, the refusal or the budget that the
reply holds decides the class of the result, and whether there is a second request.
-/

namespace Docket

namespace Text

theorem mentions_lowered_iff {s p : String} (hp : lowered p = p) :
    mentions (lowered s) p = true ↔
      ∃ before mid after, s = before ++ mid ++ after ∧ sameLetters mid p = true := by
  have hmid : ∀ mid, sameLetters mid p = true ↔ lowered mid = p := by
    intro mid
    rw [sameLetters, beq_iff_eq, ← String.ofList_inj]
    change lowered mid = lowered p ↔ _
    rw [hp]
  rw [mentions, occursIn_iff]
  constructor
  · rintro ⟨before, after, h⟩
    rw [lowered, String.toList_ofList, List.map_eq_append_iff] at h
    obtain ⟨head, last, hs, hhead, -⟩ := h
    obtain ⟨first, middle, rfl, -, hm⟩ := List.map_eq_append_iff.1 hhead
    refine ⟨.ofList first, .ofList middle, .ofList last, ?_, ?_⟩
    · apply String.toList_inj.1
      simpa using hs
    · rw [hmid, lowered, String.toList_ofList, hm, String.ofList_toList]
  · rintro ⟨before, mid, after, rfl, h⟩
    rw [hmid] at h
    refine ⟨(lowered before).toList, (lowered after).toList, ?_⟩
    rw [← h]
    simp [lowered]

end Text

namespace Service

open Json (Outline maxDepth)
open Query (Document Bindings)

structure Envelope.Says (env : Envelope) (data errors : Option Outline) : Prop where
  data : ((data = none ∨ data = some .null) ∧ env.data = none) ∨
    ∃ o j, data = some o ∧ o ≠ .null ∧ o.toJson? (maxDepth - 1) = some j ∧ env.data = some j
  errors : (errors = none ∧ env.complaints = []) ∨
    ∃ items, errors = some (.array items) ∧
      items.mapM Complaint.ofOutline? = some env.complaints

def Answer.Carries (a : Answer) (env : Envelope) : Prop :=
  ∃ status body o rest data errors, a = .reply status body ∧ 200 ≤ status ∧ status < 300 ∧
    Outline.readFirst? body = some (o, rest) ∧
    o.record? ["data", "errors"] 1 = some [data, errors] ∧ env.Says data errors

def Answer.Refuses (a : Answer) (status : Status) (r : Refusal) : Prop :=
  ∃ body, a = .reply status body ∧ ¬ (200 ≤ status ∧ status < 300) ∧ Refusal.read? body = some r

/-- The refusal puts down a used up budget, in its text in letters of any case or in the address of
its documentation. -/
def Refusal.Throttles (r : Refusal) (status : Status) : Prop :=
  (status = 403 ∨ status = 429) ∧
    ((∃ before mid after, r.text = before ++ mid ++ after ∧
        Text.sameLetters mid "rate limit" = true) ∨
      ∃ before after, r.documentation = some (before ++ "rate-limit" ++ after))

def Answer.Reports (a : Answer) (w : RateWindow) : Prop :=
  ∃ status body o rest, a = .reply status body ∧ 200 ≤ status ∧ status < 300 ∧
    Outline.readFirst? body = some (o, rest) ∧ Service.budget? o = some w

theorem Status.isSuccess_iff {s : Status} : s.isSuccess = true ↔ 200 ≤ s ∧ s < 300 := by
  simp [Status.isSuccess]

namespace Envelope

theorem opt_toJson?_eq_some_iff {field : Option Outline} {data : Option Json} {depth : Nat} :
    Outline.opt? (Outline.toJson? depth) field = some data ↔
      ((field = none ∨ field = some .null) ∧ data = none) ∨
        ∃ o j, field = some o ∧ o ≠ .null ∧ o.toJson? depth = some j ∧ data = some j := by
  rcases field with _ | o
  · simp [Outline.opt?, eq_comm]
  · by_cases ho : o = .null
    · simp [ho, Outline.opt?, eq_comm]
    · have hopt : Outline.opt? (Outline.toJson? depth) (some o) = (o.toJson? depth).map some := by
        cases o <;> first | rfl | exact absurd rfl ho
      rw [hopt, Option.map_eq_some_iff]
      simp [ho, eq_comm]

theorem complaints?_eq_some_iff {field : Option Outline} {cs : List Complaint} :
    complaints? field = some cs ↔ (field = none ∧ cs = []) ∨
      ∃ items, field = some (.array items) ∧ items.mapM Complaint.ofOutline? = some cs := by
  rcases field with _ | o
  · simp [complaints?, eq_comm]
  · cases o <;> simp [complaints?]

theorem says_iff {env : Envelope} {data errors : Option Outline} :
    env.Says data errors ↔
      Outline.opt? (Outline.toJson? (maxDepth - 1)) data = some env.data ∧
        complaints? errors = some env.complaints := by
  rw [opt_toJson?_eq_some_iff, complaints?_eq_some_iff]
  exact ⟨fun h => ⟨h.data, h.errors⟩, fun h => ⟨h.1, h.2⟩⟩

theorem ofOutline?_eq_some_iff {o : Outline} {env : Envelope} :
    ofOutline? o = some env ↔
      ∃ data errors, o.record? ["data", "errors"] 1 = some [data, errors] ∧
        env.Says data errors := by
  simp only [says_iff]
  constructor
  · intro h
    simp only [ofOutline?, Option.bind_eq_bind, Option.bind_eq_some_iff] at h
    obtain ⟨fields, hf, h⟩ := h
    split at h
    · rename_i data errors
      simp only [Option.bind_eq_some_iff, Option.some.injEq] at h
      obtain ⟨d, hd, cs, hcs, rfl⟩ := h
      exact ⟨data, errors, hf, hd, hcs⟩
    · cases h
  · rintro ⟨data, errors, hf, hd, hcs⟩
    simp [ofOutline?, hf, hd, hcs]

end Envelope

theorem Answer.carries_iff {a : Answer} {env : Envelope} :
    a.Carries env ↔ ∃ status body, a = .reply status body ∧ status.isSuccess = true ∧
      Envelope.read? body = some env := by
  simp only [Answer.Carries, Envelope.read?, Option.bind_eq_some_iff, Prod.exists,
    Envelope.ofOutline?_eq_some_iff, Status.isSuccess_iff]
  constructor
  · rintro ⟨status, body, o, rest, data, errors, ha, hl, hu, ho, hf⟩
    exact ⟨status, body, ha, ⟨hl, hu⟩, o, rest, ho, data, errors, hf⟩
  · rintro ⟨status, body, ha, ⟨hl, hu⟩, o, rest, ho, data, errors, hf⟩
    exact ⟨status, body, o, rest, data, errors, ha, hl, hu, ho, hf⟩

theorem Refusal.isThrottle_iff {r : Refusal} {status : Status} :
    r.isThrottle status = true ↔ r.Throttles status := by
  have hlow : Text.lowered "rate limit" = "rate limit" := by decide
  simp only [Refusal.isThrottle, Refusal.Throttles, Bool.and_eq_true, Bool.or_eq_true, beq_iff_eq,
    Text.mentions_lowered_iff hlow, Option.any_eq_true, Text.mentions_iff]
  refine and_congr_right fun _ => or_congr_right ?_
  constructor
  · rintro ⟨url, hu, before, after, rfl⟩
    exact ⟨before, after, hu⟩
  · rintro ⟨before, after, hu⟩
    exact ⟨_, hu, before, after, rfl⟩

theorem Answer.budget?_eq_some_iff {a : Answer} {w : RateWindow} :
    a.budget? = some w ↔ a.Reports w ∧ w.limit < Nat.pow 2 32 ∧ w.remaining < Nat.pow 2 32 := by
  have hfits : (fits 32 w.limit && fits 32 w.remaining) = true ↔
      w.limit < Nat.pow 2 32 ∧ w.remaining < Nat.pow 2 32 := by
    simp [fits]
  cases a with
  | unavailable reason => simp [Answer.budget?, Answer.Reports]
  | reply status body =>
    rw [Answer.budget?, ← hfits]
    constructor
    · intro h
      split at h
      · rename_i hs
        obtain ⟨hl, hu⟩ := Status.isSuccess_iff.1 hs
        obtain ⟨hw, hf⟩ := Option.filter_eq_some_iff.1 h
        obtain ⟨⟨o, rest⟩, ho, hb⟩ := Option.bind_eq_some_iff.1 hw
        exact ⟨⟨status, body, o, rest, rfl, hl, hu, ho, hb⟩, hf⟩
      · cases h
    · rintro ⟨⟨_, _, o, rest, ha, hl, hu, ho, hb⟩, hf⟩
      cases ha
      rw [if_pos (Status.isSuccess_iff.2 ⟨hl, hu⟩), Option.filter_eq_some_iff]
      exact ⟨Option.bind_eq_some_iff.2 ⟨(o, rest), ho, hb⟩, hf⟩

section Judging

variable (operation : String) {a : Answer}

theorem judge_of_carries {env : Envelope} (h : a.Carries env) :
    judge operation a = judgeEnvelope operation (some env) := by
  obtain ⟨status, body, rfl, hs, hr⟩ := Answer.carries_iff.1 h
  rw [judge, if_pos hs, hr]

theorem judge_of_refuses {status : Status} {r : Refusal} (h : a.Refuses status r) :
    judge operation a = judgeRefusal operation status (some r) := by
  obtain ⟨body, rfl, hs, hr⟩ := h
  rw [judge, if_neg (mt Status.isSuccess_iff.1 hs), hr]

theorem judgeEnvelope_eq_data_iff {env : Option Envelope} {data : Json} :
    judgeEnvelope operation env = .data data ↔ env = some ⟨some data, []⟩ := by
  fun_cases judgeEnvelope operation env <;> simp

theorem asksBudget_judgeEnvelope (env : Option Envelope) :
    (judgeEnvelope operation env).asksBudget = false := by
  fun_cases judgeEnvelope operation env <;> rfl

theorem judgeRefusal_ne_data {status : Status} {r : Option Refusal} {data : Json} :
    judgeRefusal operation status r ≠ .data data := by
  fun_cases judgeRefusal operation status r <;> simp

theorem asksBudget_judgeRefusal_iff {status : Status} {r : Option Refusal} :
    (judgeRefusal operation status r).asksBudget = true ↔
      ∃ r', r = some r' ∧ r'.Throttles status := by
  simp only [← Refusal.isThrottle_iff]
  fun_cases judgeRefusal operation status r <;> simp_all [Verdict.asksBudget]

theorem judge_eq_data_iff {data : Json} :
    judge operation a = .data data ↔ a.Carries ⟨some data, []⟩ := by
  rw [Answer.carries_iff]
  fun_cases judge operation a with
  | case1 status body hs =>
    rw [judgeEnvelope_eq_data_iff]
    exact ⟨fun h => ⟨status, body, rfl, hs, h⟩, fun ⟨_, _, ha, _, h⟩ => by cases ha; exact h⟩
  | case2 status body hs =>
    refine iff_of_false (judgeRefusal_ne_data operation) ?_
    rintro ⟨_, _, ha, hs', -⟩
    cases ha
    exact hs hs'
  | case3 reason => simp

theorem asksBudget_judge_iff :
    (judge operation a).asksBudget = true ↔
      ∃ status r, a.Refuses status r ∧ r.Throttles status := by
  fun_cases judge operation a with
  | case1 status body hs =>
    rw [asksBudget_judgeEnvelope operation]
    refine iff_of_false Bool.false_ne_true ?_
    rintro ⟨_, _, ⟨_, ha, hn, -⟩, -⟩
    cases ha
    exact hn (Status.isSuccess_iff.1 hs)
  | case2 status body hs =>
    rw [asksBudget_judgeRefusal_iff]
    constructor
    · rintro ⟨r, hr, ht⟩
      exact ⟨status, r, ⟨body, rfl, mt Status.isSuccess_iff.2 hs, hr⟩, ht⟩
    · rintro ⟨_, r, ⟨_, ha, -, hr⟩, ht⟩
      cases ha
      exact ⟨r, hr, ht⟩
  | case3 reason => simp [Verdict.asksBudget, Answer.Refuses]

end Judging

section Executing

variable {e : Endpoint} {d : Document} {b : Bindings} {service : Request → Answer} {text : String}

theorem requests_execute (h : d.render b = .ok text) :
    (execute e d b service).requests = .query e text b ::
      if (judge d.operation.text (service (.query e text b))).asksBudget then [.budget]
      else [] := by
  simp only [execute, fetch, h]
  rfl

theorem result_execute (h : d.render b = .ok text) :
    (execute e d b service).result =
      ((judge d.operation.text (service (.query e text b))).outcome (service .budget)).bind
        fun data => failing .mismatch (d.decode data) := by
  simp only [execute, fetch, h]
  rfl

theorem result_execute_eq_ok_iff (h : d.render b = .ok text) {v : Result.Value} :
    (execute e d b service).result = .ok v ↔
      ∃ data, (service (.query e text b)).Carries ⟨some data, []⟩ ∧ d.decode data = .ok v := by
  rw [result_execute h]
  simp only [← judge_eq_data_iff d.operation.text]
  cases judge d.operation.text (service (.query e text b)) with
  | data data => simp [Verdict.outcome, Except.bind, failing_eq_ok_iff]
  | failed error => simp [Verdict.outcome, Except.bind]
  | throttled refusal => simp [Verdict.outcome, Except.bind]

theorem result_execute_of_complaints (h : d.render b = .ok text) {env : Envelope}
    (ha : (service (.query e text b)).Carries env) (hc : env.complaints ≠ []) :
    (execute e d b service).result =
      .error (complaintsFailure d.operation.text env.complaints) := by
  obtain ⟨data, _ | ⟨c, cs⟩⟩ := env
  · exact absurd rfl hc
  · rw [result_execute h, judge_of_carries _ ha]
    rfl

theorem result_execute_of_no_data (h : d.render b = .ok text)
    (ha : (service (.query e text b)).Carries ⟨none, []⟩) :
    (execute e d b service).result =
      .error (.api (d.operation.text ++ " failed: response contained no data")) := by
  rw [result_execute h, judge_of_carries _ ha]
  rfl

theorem result_execute_of_data (h : d.render b = .ok text) {data : Json}
    (ha : (service (.query e text b)).Carries ⟨some data, []⟩) :
    (execute e d b service).result = failing .mismatch (d.decode data) := by
  rw [result_execute h, judge_of_carries _ ha]
  rfl

theorem result_execute_of_throttle (h : d.render b = .ok text) {status : Status} {r : Refusal}
    (ha : (service (.query e text b)).Refuses status r) (ht : r.Throttles status) :
    (execute e d b service).result = .error
      (throttledFailure (d.operation.text ++ " failed: " ++ r.text) (service .budget).budget?) := by
  rw [result_execute h, judge_of_refuses _ ha, judgeRefusal, if_pos (Refusal.isThrottle_iff.2 ht)]
  rfl

theorem result_execute_of_refusal (h : d.render b = .ok text) {status : Status} {r : Refusal}
    (ha : (service (.query e text b)).Refuses status r) (ht : ¬ r.Throttles status) :
    (execute e d b service).result = .error (if status = 401 ∨ status = 403
      then .authentication
        (d.operation.text ++ " failed: GitHub returned " ++ status.text ++ " " ++ r.text)
      else .api (d.operation.text ++ " failed with status " ++ status.text ++ ": " ++ r.text)) := by
  rw [result_execute h, judge_of_refuses _ ha, judgeRefusal,
    if_neg (mt Refusal.isThrottle_iff.1 ht)]
  split <;> rfl

end Executing

theorem throttledFailure_eq_some_iff {base : String} {info : Option RateWindow} {w : RateWindow} :
    throttledFailure base info = .rateLimited (some w)
      (base ++ " (resets at " ++ toString w.resetAt ++ ")") ↔ info = some w := by
  cases info with
  | none => simp [throttledFailure]
  | some w' =>
    rw [throttledFailure, Failure.rateLimited.injEq, Option.some.injEq]
    exact ⟨fun h => h.1, fun h => ⟨h, by rw [h]⟩⟩

theorem throttledFailure_eq_none_iff {base : String} {info : Option RateWindow} :
    throttledFailure base info = .rateLimited none base ↔ info = none := by
  cases info <;> simp [throttledFailure]

theorem exists_throttledFailure_eq (base : String) (info : Option RateWindow) :
    ∃ text, throttledFailure base info = .rateLimited info text := by
  cases info <;> exact ⟨_, rfl⟩

structure Settled (d : Document) (query : Request) (answer budget : Answer)
    (x : Exchange Result.Value) : Prop where
  value_iff : ∀ v, x.result = .ok v ↔
    ∃ data, answer.Carries ⟨some data, []⟩ ∧ d.decode data = .ok v
  complaints : ∀ env, answer.Carries env → env.complaints ≠ [] →
    x.result = .error
      ((if ∃ c ∈ env.complaints, c.kind = some "RATE_LIMITED"
        then Failure.rateLimited none else Failure.api)
        (d.operation.text ++ " failed: " ++
          String.intercalate "; " (env.complaints.map (·.text))))
  noData : answer.Carries ⟨none, []⟩ →
    x.result = .error (.api (d.operation.text ++ " failed: response contained no data"))
  undecodable : ∀ data error, answer.Carries ⟨some data, []⟩ → d.decode data = .error error →
    x.result = .error (.malformed error.message)
  /-- A used up budget goes before a rejected token, with which it shares a status. -/
  throttled_iff : ∀ status r, answer.Refuses status r →
    ((∃ info text, x.result = .error (.rateLimited info text)) ↔ r.Throttles status)
  refused : ∀ status r, answer.Refuses status r → ¬ r.Throttles status →
    x.result = .error (if status = 401 ∨ status = 403
      then .authentication
        (d.operation.text ++ " failed: GitHub returned " ++ status.text ++ " " ++ r.text)
      else .api (d.operation.text ++ " failed with status " ++ status.text ++ ": " ++ r.text))
  window_iff : ∀ status r, answer.Refuses status r → r.Throttles status → ∀ w,
    (x.result = .error (.rateLimited (some w) (d.operation.text ++ " failed: " ++ r.text ++
        " (resets at " ++ toString w.resetAt ++ ")")) ↔
      budget.Reports w ∧ w.limit < Nat.pow 2 32 ∧ w.remaining < Nat.pow 2 32)
  noWindow_iff : ∀ status r, answer.Refuses status r → r.Throttles status →
    (x.result = .error (.rateLimited none (d.operation.text ++ " failed: " ++ r.text)) ↔
      ¬ ∃ w, budget.Reports w ∧ w.limit < Nat.pow 2 32 ∧ w.remaining < Nat.pow 2 32)
  twoRequests_iff : x.requests = [query, .budget] ↔
    ∃ status r, answer.Refuses status r ∧ r.Throttles status
  oneRequest_iff : x.requests = [query] ↔
    ¬ ∃ status r, answer.Refuses status r ∧ r.Throttles status

/-- A query that does not render is not sent; any other is settled by the answer to it and, where
that says that the budget is used up, by the answer about the budget. -/
theorem execute_settled (e : Endpoint) (d : Document) (b : Bindings) (service : Request → Answer) :
    (∀ error, d.render b = .error error → execute e d b service = ⟨[], .error (.query error)⟩) ∧
      ∀ text, d.render b = .ok text →
        Settled d (.query e text b) (service (.query e text b)) (service .budget)
          (execute e d b service) := by
  refine ⟨fun error h => ?_, fun text h => ?_⟩
  · simp only [execute, fetch, h]
    rfl
  · constructor
    case value_iff => exact fun v => result_execute_eq_ok_iff h
    case complaints =>
      intro env ha hc
      rw [result_execute_of_complaints h ha hc, complaintsFailure]
      simp only [List.any_eq_true, decide_eq_true_eq]
      split <;> rfl
    case noData => exact fun ha => result_execute_of_no_data h ha
    case undecodable =>
      intro data error ha he
      rw [result_execute_of_data h ha, he]
      rfl
    case throttled_iff =>
      intro status r ha
      by_cases ht : r.Throttles status
      · obtain ⟨message, hm⟩ := exists_throttledFailure_eq
          (d.operation.text ++ " failed: " ++ r.text) (service .budget).budget?
        refine iff_of_true ⟨(service .budget).budget?, message, ?_⟩ ht
        rw [result_execute_of_throttle h ha ht, hm]
      · refine iff_of_false ?_ ht
        rintro ⟨info, message, hx⟩
        rw [result_execute_of_refusal h ha ht] at hx
        split at hx <;> cases hx
    case refused => exact fun status r ha ht => result_execute_of_refusal h ha ht
    case window_iff =>
      intro status r ha ht w
      rw [result_execute_of_throttle h ha ht, Except.error.injEq, throttledFailure_eq_some_iff,
        Answer.budget?_eq_some_iff]
    case noWindow_iff =>
      intro status r ha ht
      rw [result_execute_of_throttle h ha ht, Except.error.injEq, throttledFailure_eq_none_iff]
      simp only [← Answer.budget?_eq_some_iff, Option.eq_none_iff_forall_ne_some, not_exists, ne_eq]
    case twoRequests_iff =>
      rw [requests_execute h, ← asksBudget_judge_iff d.operation.text]
      split <;> simp_all
    case oneRequest_iff =>
      rw [requests_execute h, ← asksBudget_judge_iff d.operation.text]
      split <;> simp_all

def spentService (r : Request) : Answer :=
  if r.path = Request.budget.path then
    .reply 200 ("\x7b\"resources\":\x7b\"core\":[60,60,0,9],\"search\":[10,1,9,9]\x7d," ++
      "\"rate\":\x7b\"limit\":60,\"used\":60,\"remaining\":0,\"reset\":9\x7d\x7d")
  else .reply 403 "\x7b\"message\":\"Rate Limit used up\"\x7d"

def sampleDocument : Document := ⟨.ofWord "shelf", ⟨[⟨.plain (.ofWord "weight"), .leaf .int⟩], []⟩⟩

theorem execute_settled_sample :
    (execute .hosted sampleDocument .empty spentService).result =
      .error (.rateLimited (some ⟨60, 0, 9⟩) "Shelf failed: Rate Limit used up (resets at 9)") := by
  have hs := (execute_settled .hosted sampleDocument .empty spentService).2
    "query Shelf \x7b weight \x7d" (by rfl)
  refine (hs.window_iff 403 ⟨"Rate Limit used up", none⟩ ⟨_, rfl, by decide, by rfl⟩ ?_
    ⟨60, 0, 9⟩).2
    ⟨⟨200, _, _, _, rfl, by decide, by decide, by rfl, by rfl⟩, by decide, by decide⟩
  exact ⟨.inl rfl, .inl ⟨"", "Rate Limit", " used up", by decide, by decide⟩⟩

end Service

end Docket
