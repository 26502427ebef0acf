import Docket.Program
import Docket.Proofs.Plan
import Docket.Proofs.Verdict
/-!
Conversations with the service. They fall into rounds, each of a call of the fetch and of what its
query comes to; a round that gives no data is the last one, so the answers of the rounds make the
replies that the fetch is a function of.
-/

namespace Docket

open Service (Answer Request Exchange)
open Sidebar (Call Reply Run Digest)

theorem Job.replies_cons {d : Query.Document} {a : Answer} {data : Json}
    (h : Service.judge d.operation.text a = .data data) (rest : List Answer) :
    replies d (a :: rest) = failing .mismatch (d.decode data) :: replies d rest := by
  simp only [replies, h]

structure Round where
  call : Call
  service : Request → Answer

namespace Round

def exchange (e : Endpoint) (r : Round) : Exchange Result.Value :=
  Service.execute e r.call.document r.call.bindings r.service

def requests (e : Endpoint) (r : Round) : List Request := (r.exchange e).requests

def reply (e : Endpoint) (r : Round) : Reply := (r.exchange e).result

def answers (e : Endpoint) (r : Round) : List Answer := (r.requests e).map r.service

def verdict (e : Endpoint) (d : Query.Document) (text : String) (r : Round) : Service.Verdict :=
  Service.judge d.operation.text (r.service (.query e text r.call.bindings))

variable {e : Endpoint} {d : Query.Document} {text : String} {r : Round}

theorem requests_eq (h : r.call.Sends d text) : r.requests e =
    .query e text r.call.bindings ::
      if (r.verdict e d text).asksBudget then [.budget] else [] := by
  obtain ⟨rfl, ht⟩ := h
  exact Service.requests_execute ht

theorem reply_eq (h : r.call.Sends d text) : r.reply e =
    ((r.verdict e d text).outcome (r.service .budget)).bind
      fun data => failing .mismatch (d.decode data) := by
  obtain ⟨rfl, ht⟩ := h
  exact Service.result_execute ht

theorem answers_eq (h : r.call.Sends d text) : r.answers e =
    r.service (.query e text r.call.bindings) ::
      if (r.verdict e d text).asksBudget then [r.service .budget] else [] := by
  rw [answers, requests_eq h, List.map_cons, apply_ite (List.map r.service)]
  rfl

theorem exists_data_of_reply (h : r.call.Sends d text) {v : Result.Value}
    (hr : r.reply e = .ok v) : ∃ data, r.verdict e d text = .data data ∧
      failing .mismatch (d.decode data) = .ok v := by
  rw [reply_eq h] at hr
  cases hj : r.verdict e d text with
  | data data =>
    rw [hj] at hr
    exact ⟨data, rfl, hr⟩
  | failed error => simp [hj, Service.Verdict.outcome, Except.bind] at hr
  | throttled refusal => simp [hj, Service.Verdict.outcome, Except.bind] at hr

theorem asksBudget_of_reply (h : r.call.Sends d text) {v : Result.Value}
    (hr : r.reply e = .ok v) : (r.verdict e d text).asksBudget = false := by
  obtain ⟨data, hj, -⟩ := exists_data_of_reply h hr
  rw [hj]
  rfl

theorem requests_of_reply (h : r.call.Sends d text) {v : Result.Value}
    (hr : r.reply e = .ok v) : r.requests e = [.query e text r.call.bindings] := by
  rw [requests_eq h, asksBudget_of_reply h hr]
  rfl

theorem answers_of_reply (h : r.call.Sends d text) {v : Result.Value}
    (hr : r.reply e = .ok v) : r.answers e = [r.service (.query e text r.call.bindings)] := by
  rw [answers, requests_of_reply h hr, List.map_singleton]

theorem exists_error_of_asksBudget (h : r.call.Sends d text)
    (ha : (r.verdict e d text).asksBudget = true) : ∃ error, r.reply e = .error error := by
  cases hr : r.reply e with
  | error error => exact ⟨error, rfl⟩
  | ok v =>
    rw [asksBudget_of_reply h hr] at ha
    cases ha

theorem replies_answers (h : r.call.Sends d text) :
    Job.replies d (r.answers e) = [r.reply e] := by
  rw [answers_eq h, reply_eq h]
  cases hj : r.verdict e d text <;> rw [verdict] at hj <;>
    simp [Service.Verdict.asksBudget, Job.replies, hj, Service.Verdict.outcome, Except.bind]

theorem replies_answers_append (h : r.call.Sends d text) {v : Result.Value}
    (hr : r.reply e = .ok v) (more : List Answer) :
    Job.replies d (r.answers e ++ more) = r.reply e :: Job.replies d more := by
  obtain ⟨data, hj, hv⟩ := exists_data_of_reply h hr
  rw [answers_of_reply h hr, hr, ← hv]
  exact Job.replies_cons hj more

section Rounds

variable {rounds : List Round} (hs : ∀ r ∈ rounds, r.call.Sends d text)
  (hr : ∀ r ∈ rounds, ∃ v, r.reply e = .ok v)

include hs hr

theorem replies_flatMap_append (more : List Answer) :
    Job.replies d (rounds.flatMap (answers e) ++ more) =
      rounds.map (reply e) ++ Job.replies d more := by
  induction rounds with
  | nil => rfl
  | cons r rounds ih =>
    obtain ⟨hs, hsrest⟩ := List.forall_mem_cons.1 hs
    obtain ⟨⟨v, hv⟩, hrest⟩ := List.forall_mem_cons.1 hr
    rw [List.flatMap_cons, List.append_assoc, replies_answers_append hs hv, ih hsrest hrest,
      List.map_cons, List.cons_append]

theorem flatMap_requests :
    rounds.flatMap (requests e) = rounds.map fun r => .query e text r.call.bindings := by
  rw [List.map_eq_flatMap]
  refine List.flatMap_congr fun r hmem => ?_
  obtain ⟨v, hv⟩ := hr r hmem
  exact requests_of_reply (hs r hmem) hv

theorem flatMap_answers : rounds.flatMap (answers e) =
    rounds.map fun r => r.service (.query e text r.call.bindings) := by
  rw [List.map_eq_flatMap]
  refine List.flatMap_congr fun r hmem => ?_
  obtain ⟨v, hv⟩ := hr r hmem
  exact answers_of_reply (hs r hmem) hv

theorem isThrottled_flatMap : Job.isThrottled d (rounds.flatMap (answers e)) = false := by
  rw [flatMap_answers hs hr, Job.isThrottled, List.any_map, List.any_eq_false]
  intro r hmem
  obtain ⟨v, hv⟩ := hr r hmem
  exact Bool.eq_false_iff.1 (asksBudget_of_reply (hs r hmem) hv)

end Rounds

end Round

namespace Job

def fetch (job : Job) (rounds : List Round) : Run Digest :=
  job.plan.fetch job.scopes (rounds.map (Round.reply job.endpoint))

def Asks (job : Job) (rounds : List Round) : Prop :=
  rounds.map Round.call <+: (job.fetch rounds).calls

/-- The rounds with a service whose answers may depend on the rounds before: one more each time, for
as long as the fetch awaits a reply. -/
def rounds (job : Job) (service : List Round → Request → Answer) : Nat → List Round
  | 0 => []
  | n + 1 =>
    let had := job.rounds service n
    match (job.fetch had).ending, (job.fetch had).calls.getLast? with
    | .awaiting, some c => had ++ [⟨c, service had⟩]
    | _, _ => had

variable {job : Job} {rounds : List Round} {last : Round} {d : Query.Document} {text : String}

theorem Asks.next (h : job.Asks rounds) (hend : (job.fetch rounds).ending = .awaiting)
    (service : Request → Answer) :
    ∃ c, (job.fetch rounds).calls = rounds.map Round.call ++ [c] ∧
      job.Asks (rounds ++ [⟨c, service⟩]) := by
  obtain ⟨more, hmore⟩ := h
  obtain ⟨hl, hc⟩ := (job.plan.fetch_causal job.scopes).of_awaiting hend
    (more.map fun c => (Round.mk c service).reply job.endpoint)
  rw [← fetch, ← hmore, List.length_append, List.length_map, List.length_map,
    Nat.add_left_cancel_iff] at hl
  obtain ⟨c, rfl⟩ := List.length_eq_one_iff.1 hl
  refine ⟨c, hmore.symm, ?_⟩
  rw [Asks, fetch, List.map_append, List.map_append]
  exact hmore ▸ hc

theorem asks_rounds (job : Job) (service : List Round → Request → Answer) (n : Nat) :
    job.Asks (job.rounds service n) := by
  induction n with
  | zero => exact List.nil_prefix
  | succ n ih =>
    rw [Job.rounds]
    cases hend : (job.fetch (job.rounds service n)).ending with
    | awaiting =>
      obtain ⟨c, hcalls, hnext⟩ := ih.next hend (service (job.rounds service n))
      rw [hcalls, List.getLast?_concat]
      exact hnext
    | done => exact ih
    | failed => exact ih

theorem awaiting_of_calls {c : Call} (h : (job.fetch rounds).calls = rounds.map Round.call ++ [c]) :
    (job.fetch rounds).ending = .awaiting := by
  by_contra hne
  have hle := (job.plan.fetch_causal job.scopes).length_calls_le hne
  rw [← fetch, h, List.length_append, List.length_map, List.length_map,
    List.length_singleton] at hle
  omega

theorem Asks.exists_sends (h : job.Asks rounds) :
    ∃ d text, Sidebar.document job.plan.pageSize.size = .ok d ∧
      (∀ c ∈ (job.fetch rounds).calls, c.Sends d text) ∧ ∀ r ∈ rounds, r.call.Sends d text := by
  obtain ⟨d, text, hd, hs⟩ :=
    job.plan.fetch_sends job.scopes (rounds.map (Round.reply job.endpoint))
  exact ⟨d, text, hd, hs, fun r hr => hs _ (h.subset (List.mem_map_of_mem hr))⟩

theorem Asks.exists_reply (h : job.Asks (rounds ++ [last])) :
    ∀ r ∈ rounds, ∃ v, r.reply job.endpoint = .ok v := by
  intro r hr
  obtain ⟨k, hk⟩ := List.mem_iff_getElem?.1 hr
  have hlt := (List.getElem?_eq_some_iff.1 hk).1
  cases hv : r.reply job.endpoint with
  | ok v => exact ⟨v, rfl⟩
  | error e =>
    have herror : ((rounds ++ [last]).map (Round.reply job.endpoint))[k]? = some (.error e) := by
      rw [List.getElem?_map, List.getElem?_append_left hlt, hk, Option.map_some, hv]
    have hle := job.plan.length_calls_le_of_error job.scopes herror
    have hge := h.length_le
    rw [List.length_map, List.length_append, List.length_singleton, fetch] at hge
    omega

theorem drop_calls_of_error {e : Failure} (h : last.reply job.endpoint = .error e) :
    (job.fetch (rounds ++ [last])).calls.drop (rounds ++ [last]).length = [] := by
  have hlast : ((rounds ++ [last]).map (Round.reply job.endpoint))[rounds.length]? =
      some (.error e) := by
    rw [List.getElem?_map, List.getElem?_concat_length, Option.map_some, h]
  rw [List.drop_eq_nil_iff, List.length_append, List.length_singleton]
  exact job.plan.length_calls_le_of_error job.scopes hlast

theorem request?_eq {c : Call} (h : c.Sends d text) :
    job.request? c = some (.query job.endpoint text c.bindings) := by
  obtain ⟨rfl, ht⟩ := h
  rw [request?, ht]
  rfl

theorem filterMap_request? (hs : ∀ r ∈ rounds, r.call.Sends d text) :
    (rounds.map Round.call).filterMap job.request? =
      rounds.map fun r => .query job.endpoint text r.call.bindings := by
  rw [List.filterMap_map, ← List.filterMap_eq_map]
  exact List.filterMap_congr fun r hr => request?_eq (hs r hr)

theorem filterMap_calls (h : job.Asks rounds) (hs : ∀ r ∈ rounds, r.call.Sends d text) :
    (job.fetch rounds).calls.filterMap job.request? =
      (rounds.map fun r => .query job.endpoint text r.call.bindings) ++
        ((job.fetch rounds).calls.drop rounds.length).filterMap job.request? := by
  have hcalls := List.prefix_iff_eq_append.1 h
  rw [List.length_map] at hcalls
  rw [← filterMap_request? hs, ← List.filterMap_append, hcalls]

theorem replies_concat (hs : ∀ r ∈ rounds, r.call.Sends d text)
    (hr : ∀ r ∈ rounds, ∃ v, r.reply job.endpoint = .ok v) (hlast : last.call.Sends d text) :
    replies d ((rounds ++ [last]).flatMap (Round.answers job.endpoint)) =
      (rounds ++ [last]).map (Round.reply job.endpoint) := by
  rw [List.flatMap_append, List.flatMap_singleton, Round.replies_flatMap_append hs hr,
    Round.replies_answers hlast, List.map_append, List.map_singleton]

theorem isThrottled_take (hs : ∀ r ∈ rounds, r.call.Sends d text)
    (hr : ∀ r ∈ rounds, ∃ v, r.reply job.endpoint = .ok v) (hlast : last.call.Sends d text)
    {n : Nat} (hn : rounds.length < n) :
    isThrottled d (((rounds ++ [last]).flatMap (Round.answers job.endpoint)).take n) =
      (last.verdict job.endpoint d text).asksBudget := by
  obtain ⟨m, rfl⟩ := Nat.exists_eq_add_of_lt hn
  have hlength : (rounds.flatMap (Round.answers job.endpoint)).length = rounds.length := by
    rw [Round.flatMap_answers hs hr, List.length_map]
  have hrest : rounds.length + m + 1 - rounds.length = m + 1 := by omega
  rw [List.flatMap_append, List.flatMap_singleton, List.take_append, hlength, hrest,
    List.take_of_length_le (by omega), isThrottled, List.any_append, ← isThrottled,
    Round.isThrottled_flatMap hs hr, Bool.false_or, Round.answers_eq hlast, List.take_succ_cons,
    List.any_cons, ← Round.verdict]
  cases (last.verdict job.endpoint d text).asksBudget <;> simp

/-- A job puts to the service what its rounds do, goes on with the next call of its fetch, and ends
as that does. -/
theorem converse_answers (h : job.Asks rounds) :
    job.converse (rounds.flatMap (Round.answers job.endpoint)) =
      ⟨rounds.flatMap (Round.requests job.endpoint) ++
          ((job.fetch rounds).calls.drop rounds.length).filterMap job.request?,
        ending (job.fetch rounds).ending⟩ := by
  obtain ⟨d, text, hd, -, hs⟩ := h.exists_sends
  simp only [converse, hd]
  obtain rfl | ⟨earlier, last, rfl⟩ := List.eq_nil_or_concat rounds
  · simp [replies, isThrottled, fetch]
  · rw [List.concat_eq_append] at h hs ⊢
    obtain ⟨hearlier, hlast⟩ := List.forall_mem_append.1 hs
    replace hlast := hlast last (List.mem_singleton_self last)
    have hr := h.exists_reply
    have hlength := h.length_le
    rw [List.length_map, List.length_append, List.length_singleton] at hlength
    rw [replies_concat hearlier hr hlast, ← fetch, isThrottled_take hearlier hr hlast hlength]
    congr 1
    rw [filterMap_calls h hs, List.flatMap_append, List.flatMap_singleton,
      Round.flatMap_requests hearlier hr, Round.requests_eq hlast, List.map_append,
      List.map_singleton]
    -- a round that asks for the budget has failed, and no call follows it
    cases ha : (last.verdict job.endpoint d text).asksBudget with
    | false => simp
    | true =>
      obtain ⟨error, herror⟩ := Round.exists_error_of_asksBudget hlast ha
      rw [drop_calls_of_error herror]
      simp

/-- Between a query refused for lack of budget and the answer about the budget, that is all that is
asked for. -/
theorem converse_refused {c : Call} {a : Answer}
    (hcalls : (job.fetch rounds).calls = rounds.map Round.call ++ [c])
    (ha : (Service.judge c.document.operation.text a).asksBudget = true) :
    job.converse (rounds.flatMap (Round.answers job.endpoint) ++ [a]) =
      ⟨rounds.flatMap (Round.requests job.endpoint) ++ (job.request? c).toList ++ [.budget],
        none⟩ := by
  have hend := awaiting_of_calls hcalls
  have hasks : job.Asks rounds := by
    rw [Asks, hcalls]
    exact List.prefix_append _ _
  obtain ⟨c', hc', hnext⟩ := hasks.next hend fun _ => a
  obtain rfl : c = c' := by simpa using hcalls.symm.trans hc'
  have hr := hnext.exists_reply
  obtain ⟨d, text, hd, hsends, hs⟩ := hasks.exists_sends
  have hlast := hsends c (by simp [hcalls])
  have hc : job.request? c = some _ := request?_eq hlast
  obtain ⟨rfl, -⟩ := hlast
  have hreplies : replies c.document (rounds.flatMap (Round.answers job.endpoint) ++ [a]) =
      rounds.map (Round.reply job.endpoint) := by
    rw [Round.replies_flatMap_append hs hr, replies]
    cases hj : Service.judge c.document.operation.text a with
    | throttled refusal => simp
    | _ => simp [hj, Service.Verdict.asksBudget] at ha
  have hlength : (rounds.flatMap (Round.answers job.endpoint) ++ [a]).length ≤
      (rounds.map Round.call ++ [c]).length := by
    simp [Round.flatMap_answers hs hr]
  have hthrottled : isThrottled c.document
      ((rounds.flatMap (Round.answers job.endpoint) ++ [a]).take
        (rounds.map Round.call ++ [c]).length) = true := by
    rw [List.take_of_length_le hlength, isThrottled, List.any_eq_true]
    exact ⟨a, List.mem_append_right _ (List.mem_singleton_self a), ha⟩
  simp only [converse, hd]
  rw [hreplies, ← fetch, hcalls, hend, ending, hthrottled, if_pos rfl, List.filterMap_append,
    filterMap_request? hs, Round.flatMap_requests hs hr, List.filterMap_cons_some hc,
    List.filterMap_nil, hc, Option.toList_some]

end Job

end Docket
