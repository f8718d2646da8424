import Mathlib.Data.List.Basic
import ChannelWatch.Gateway

/-!
# Calls that fail over

What comes of a call is told by the scripts of the endpoints alone: `Endpoint.answer` is what a
request would be answered, `Endpoint.sentAt` and `Endpoint.repliedAt` say when. `Endpoint.Tried`
says how a call to one endpoint goes by them, and `FailsOver` how a call through several goes on
from one to the next. The main statement is `fails_over`.
-/

namespace ChannelWatch
set_option autoImplicit false

namespace NodeCall

variable {call : NodeCall} {content : Except RpcFault Json}

/-- A reply is a success where its result can be read. -/
theorem interpret_eq_ok_iff {value : call.Value} :
    call.interpret content = .ok value ↔
      ∃ result, content = .ok result ∧ call.read? result = some value := by
  cases content with
  | error fault => simp [interpret]
  | ok result => cases read : call.read? result <;> simp [interpret, read]

/-- A reply is an error if it says so, or if its result cannot be read. -/
theorem interpret_eq_error_iff {fault : RpcFault} :
    call.interpret content = .error fault ↔
      content = .error fault ∨
        fault = .malformed ∧ ∃ result, content = .ok result ∧ call.read? result = none := by
  cases content with
  | error other => simp [interpret]
  | ok result => cases read : call.read? result <;> simp [interpret, read, eq_comm]

end NodeCall

namespace Endpoint

section

variable (endpoint : Endpoint) (policy : CallPolicy) (call : NodeCall)

/-- The reply to a request; the first request has the number zero. -/
def replyTo (number : Nat) : Reply := endpoint.script.getD number .gone

/-- The endpoint after a number of requests. -/
def later (requests : Nat) : Endpoint := ⟨endpoint.script.drop requests⟩

/-- What the reply to a request means for a call. -/
def answer (number : Nat) : Except RpcFault call.Value :=
  call.interpret (endpoint.replyTo number).content

/-- When a request is sent if those before it fail; the first one is sent at the time zero. -/
def sentAt : Nat → Nat
  | 0 => 0
  | number + 1 =>
    sentAt number + (endpoint.replyTo number).delay + Backoff.pause policy.minDelay number

/-- When the reply to a request is there. -/
def repliedAt (number : Nat) : Nat :=
  endpoint.sentAt policy number + (endpoint.replyTo number).delay

/-- The reply to a request is an error, or it is cut off as the time of the call is over. -/
def Fails (number : Nat) : Prop :=
  (∃ fault, endpoint.answer call number = .error fault) ∨
    policy.timeout < endpoint.repliedAt policy number

/-- The time of a call is over after its last request: before the reply, or else before another
request that would follow the error. -/
def RunsOut (last : Nat) : Prop :=
  policy.timeout < endpoint.repliedAt policy last ∨
    (∃ fault, endpoint.answer call last = .error fault) ∧ last < policy.maxRetries ∧
      policy.timeout < endpoint.sentAt policy (last + 1)

/-- What comes of a call with its last request. -/
inductive Ends (last : Nat) : Except ChainError call.Value → Prop where
  | answered {value : call.Value} (in_time : endpoint.repliedAt policy last ≤ policy.timeout)
      (answer : endpoint.answer call last = .ok value) : Ends last (.ok value)
  | exhausted {fault : RpcFault} (in_time : endpoint.repliedAt policy last ≤ policy.timeout)
      (answer : endpoint.answer call last = .error fault) (spent : last = policy.maxRetries) :
      Ends last (.error (.rpc fault))
  | timedOut (late : endpoint.RunsOut policy call last) : Ends last (.error .timedOut)

/-- How a call to one endpoint goes: `last` is the number of its last request. -/
structure Tried (last : Nat) (result : Except ChainError call.Value) : Prop where
  few : last ≤ policy.maxRetries
  failed : ∀ number < last, ∃ fault, endpoint.answer call number = .error fault
  ends : endpoint.Ends policy call last result

end

variable {endpoint : Endpoint} {policy : CallPolicy} {call : NodeCall}

theorem reply_later (number : Nat) :
    (endpoint.later number).reply = (endpoint.replyTo number, endpoint.later (number + 1)) := by
  rw [replyTo, List.getD_eq_getElem?_getD, later, later]
  rcases Nat.lt_or_ge number endpoint.script.length with within | beyond
  · rw [List.drop_eq_getElem_cons within, List.getElem?_eq_getElem within]
    rfl
  · rw [List.drop_eq_nil_of_le beyond, List.drop_eq_nil_of_le (by omega),
      List.getElem?_eq_none beyond]
    rfl

/-- A request is sent in its time: its reply comes too late, or it counts. -/
theorem once_later (number : Nat) :
    (endpoint.later number).once call policy.timeout (endpoint.sentAt policy number) =
      if policy.timeout < endpoint.repliedAt policy number then
        ⟨.error .timedOut, policy.timeout, 1, endpoint.later (number + 1)⟩
      else
        ⟨(endpoint.answer call number).mapError ChainError.rpc, endpoint.repliedAt policy number, 1,
          endpoint.later (number + 1)⟩ := by
  rw [once, reply_later]
  rfl

/-- The attempts are those of a call from the request `number` on, of which `more` follow. -/
structure Attempted (endpoint : Endpoint) (policy : CallPolicy) (call : NodeCall)
    (number more : Nat) (attempts : Attempts call.Value) : Prop where
  sent : attempts.sent = more + 1
  after : attempts.after = endpoint.later (number + more + 1)
  tried : endpoint.Tried policy call (number + more) attempts.result

/-- The attempts from a request on, after all requests before it have failed. -/
theorem attempt_attempted {retries number : Nat} (left : number + retries = policy.maxRetries)
    (failed : ∀ earlier < number, ∃ fault, endpoint.answer call earlier = .error fault) :
    ∃ more, endpoint.Attempted policy call number more
      (attempt call policy.timeout retries (Backoff.pause policy.minDelay number)
        (endpoint.sentAt policy number) (endpoint.later number)) := by
  induction retries generalizing number with
  | zero =>
    have spent : number = policy.maxRetries := left
    refine ⟨0, ?_⟩
    rw [attempt, once_later]
    by_cases late : policy.timeout < endpoint.repliedAt policy number
    · rw [if_pos late]
      exact ⟨rfl, rfl, by omega, failed, .timedOut (.inl late)⟩
    · rw [if_neg late]
      refine ⟨rfl, rfl, by omega, failed, ?_⟩
      cases answer : endpoint.answer call number with
      | ok value => exact .answered (Nat.not_lt.1 late) answer
      | error fault => exact .exhausted (Nat.not_lt.1 late) answer spent
  | succ retries ih =>
    have some_left : number < policy.maxRetries := by omega
    rw [attempt, once_later]
    by_cases late : policy.timeout < endpoint.repliedAt policy number
    · rw [if_pos late]
      exact ⟨0, rfl, rfl, by omega, failed, .timedOut (.inl late)⟩
    · rw [if_neg late]
      cases answer : endpoint.answer call number with
      | ok value =>
        exact ⟨0, rfl, rfl, by omega, failed, .answered (Nat.not_lt.1 late) answer⟩
      | error fault =>
        simp only [Except.mapError]
        by_cases paused : policy.timeout <
            endpoint.repliedAt policy number + Backoff.pause policy.minDelay number
        · rw [if_pos paused]
          exact ⟨0, rfl, rfl, by omega, failed,
            .timedOut (.inr ⟨⟨fault, answer⟩, some_left, paused⟩)⟩
        · -- the next request is sent, and the attempts from it on follow
          rw [if_neg paused]
          have failed_too : ∀ earlier < number + 1,
              ∃ fault, endpoint.answer call earlier = .error fault := by
            intro earlier less
            rcases Nat.lt_succ_iff_lt_or_eq.1 less with less | rfl
            · exact failed earlier less
            · exact ⟨fault, answer⟩
          obtain ⟨more, sent, after, tried⟩ := ih (by omega) failed_too
          have total : number + 1 + more = number + (more + 1) := by omega
          rw [total] at after tried
          exact ⟨more + 1, congrArg (· + 1) sent, after, tried⟩

/-- A call to an endpoint sends requests until one is answered, none is left or its time is over. -/
theorem call_attempted (endpoint : Endpoint) (policy : CallPolicy) (call : NodeCall) :
    ∃ last, endpoint.Attempted policy call 0 last (endpoint.call policy call) :=
  attempt_attempted (Nat.zero_add _) fun earlier none => absurd none (Nat.not_lt_zero earlier)

namespace Tried

variable {last : Nat} {result : Except ChainError call.Value}

/-- All requests but the last one fail, and the last one does where the call fails. -/
theorem fails (tried : endpoint.Tried policy call last result) {number : Nat}
    (sent : number ≤ last) (early : number < last ∨ ∃ e, result = .error e) :
    endpoint.Fails policy call number := by
  rcases Nat.lt_or_eq_of_le sent with less | rfl
  · exact .inl (tried.failed number less)
  · obtain ⟨e, rfl⟩ := early.resolve_left (Nat.lt_irrefl _)
    cases tried.ends with
    | exhausted in_time answer spent => exact .inl ⟨_, answer⟩
    | timedOut late =>
      rcases late with late | ⟨failed, -⟩
      · exact .inr late
      · exact .inl failed

/-- A call stops early only because it was answered, or because its time is over. -/
theorem stops_early (tried : endpoint.Tried policy call last result)
    (early : last < policy.maxRetries) :
    (∃ value, result = .ok value) ∨ endpoint.RunsOut policy call last := by
  cases tried.ends with
  | answered in_time answer => exact .inl ⟨_, rfl⟩
  | exhausted in_time answer spent => exact absurd spent (Nat.ne_of_lt early)
  | timedOut late => exact .inr late

theorem answered {value : call.Value} (tried : endpoint.Tried policy call last (.ok value)) :
    endpoint.answer call last = .ok value ∧ endpoint.repliedAt policy last ≤ policy.timeout := by
  cases tried.ends with
  | answered in_time answer => exact ⟨answer, in_time⟩

/-- The error of a call says that its time was over, or else is that of its last request. -/
theorem error {e : ChainError} (tried : endpoint.Tried policy call last (.error e)) :
    endpoint.RunsOut policy call last ∧ e = .timedOut ∨
      ¬ endpoint.RunsOut policy call last ∧
        ∃ fault, e = .rpc fault ∧ endpoint.answer call last = .error fault := by
  cases tried.ends with
  | exhausted in_time answer spent =>
    refine .inr ⟨?_, _, rfl, answer⟩
    rintro (late | ⟨-, more, -⟩)
    · omega
    · omega
  | timedOut late => exact .inl ⟨late, rfl⟩

end Tried

end Endpoint

namespace CallReport

variable {α : Type} {report : CallReport α} {index number : Nat} {rest : List Nat}

/-- How many requests an endpoint got. -/
def sent (report : CallReport α) (index : Nat) : Nat := report.requests.count index

theorem sent_first (requests : report.requests = List.replicate number index ++ rest)
    (others : index ∉ rest) : report.sent index = number := by
  rw [sent, requests, List.count_append, List.count_replicate_self, List.count_eq_zero.2 others,
    Nat.add_zero]

theorem sent_rest (requests : report.requests = List.replicate number index ++ rest) {other : Nat}
    (differ : other ≠ index) : report.sent other = rest.count other := by
  have none : other ∉ List.replicate number index :=
    fun mem => differ (List.eq_of_mem_replicate mem)
  rw [sent, requests, List.count_append, List.count_eq_zero.2 none, Nat.zero_add]

end CallReport

namespace Gateway

/-- A call through endpoints, the first of which has the number `index`, gets as far as the one
with the number `index + k`. -/
structure Passes (policy : CallPolicy) (call : NodeCall) (index : Nat) (endpoints : List Endpoint)
    (report : CallReport call.Value) (after : List Endpoint) (k : Nat) : Prop where
  within : k < endpoints.length
  blocks : report.requests =
    (List.range (k + 1)).flatMap fun i => List.replicate (report.sent (index + i)) (index + i)
  /-- Each of these endpoints had a last request; the one where the call stops gives the result, and
  those before it failed. -/
  tried : ∀ i ≤ k, ∀ endpoint, endpoints[i]? = some endpoint →
    ∃ last result, report.sent (index + i) = last + 1 ∧ endpoint.Tried policy call last result ∧
      (i < k → ∃ e, result = .error e) ∧ (i = k → result = report.result)
  exhausted : ∀ e, report.result = .error e → k + 1 = endpoints.length
  after : ∀ i (endpoint : Endpoint), endpoints[i]? = some endpoint →
    after[i]? = some (endpoint.later (report.sent (index + i)))

namespace Passes

variable {policy : CallPolicy} {call : NodeCall} {index : Nat} {endpoint : Endpoint}
  {endpoints after : List Endpoint} {report : CallReport call.Value} {k last : Nat}

/-- Endpoints with smaller numbers get no request. -/
theorem not_mem_requests (passes : Passes policy call index endpoints report after k) {other : Nat}
    (before : other < index) : other ∉ report.requests := by
  rw [passes.blocks]
  intro mem
  obtain ⟨i, -, mem⟩ := List.mem_flatMap.1 mem
  have same := List.eq_of_mem_replicate mem
  omega

/-- The call stops at its first endpoint. -/
theorem first {attempts : Attempts call.Value}
    (attempted : endpoint.Attempted policy call 0 last attempts)
    (result : report.result = attempts.result)
    (requests : report.requests = List.replicate attempts.sent index)
    (exhausted : ∀ e, report.result = .error e → endpoints = []) :
    Passes policy call index (endpoint :: endpoints) report (attempts.after :: endpoints) 0 := by
  have parts := requests.trans (List.append_nil _).symm
  have own : report.sent (index + 0) = last + 1 :=
    (CallReport.sent_first parts List.not_mem_nil).trans attempted.sent
  have others : ∀ i, report.sent (index + (i + 1)) = 0 :=
    fun i => CallReport.sent_rest parts (by omega)
  refine ⟨Nat.succ_pos _, ?_, ?_, ?_, ?_⟩
  · rw [requests, attempted.sent, List.range_one, List.flatMap_singleton, own]
    rfl
  · intro i upto found same
    obtain rfl := Nat.le_zero.1 upto
    cases same
    refine ⟨last, _, own, ?_, fun less => absurd less (Nat.lt_irrefl 0), fun _ => result.symm⟩
    simpa using attempted.tried
  · intro e failed
    rw [exhausted e failed]
    rfl
  · intro i found same
    cases i with
    | zero =>
      cases same
      rw [own]
      simpa using attempted.after
    | succ i =>
      rw [others]
      exact same

/-- The call goes on behind an endpoint that failed. -/
theorem cons {attempts : Attempts call.Value} {e : ChainError} {whole : CallReport call.Value}
    (attempted : endpoint.Attempted policy call 0 last attempts)
    (failed : attempts.result = .error e)
    (rest : Passes policy call (index + 1) endpoints report after k)
    (result : whole.result = report.result)
    (requests : whole.requests = List.replicate attempts.sent index ++ report.requests) :
    Passes policy call index (endpoint :: endpoints) whole (attempts.after :: after) (k + 1) := by
  have own : whole.sent (index + 0) = last + 1 :=
    (CallReport.sent_first requests (rest.not_mem_requests (Nat.lt_succ_self index))).trans
      attempted.sent
  have others : ∀ i, whole.sent (index + (i + 1)) = report.sent (index + 1 + i) := by
    intro i
    rw [Nat.add_right_comm, Nat.add_assoc]
    exact CallReport.sent_rest requests (by omega)
  refine ⟨Nat.succ_lt_succ rest.within, ?_, ?_, ?_, ?_⟩
  · have range : List.range (k + 1 + 1) = 0 :: (List.range (k + 1)).map Nat.succ :=
      List.range_succ_eq_map
    rw [requests, rest.blocks, range, List.flatMap_cons, List.flatMap_map, own, attempted.sent]
    congr 2
    funext i
    rw [others, Nat.add_right_comm, Nat.add_assoc]
  · intro i upto found same
    cases i with
    | zero =>
      cases same
      refine ⟨last, _, own, ?_, fun _ => ⟨e, failed⟩,
        fun zero => absurd zero (Nat.succ_ne_zero k).symm⟩
      simpa using attempted.tried
    | succ i =>
      obtain ⟨last, outcome, sent, tried, behind, whole_result⟩ :=
        rest.tried i (Nat.le_of_succ_le_succ upto) found same
      refine ⟨last, outcome, by rw [others, sent], tried,
        fun less => behind (Nat.lt_of_succ_lt_succ less), fun last => ?_⟩
      rw [result]
      exact whole_result (Nat.succ.inj last)
  · intro e failed
    rw [result] at failed
    rw [rest.exhausted e failed]
    rfl
  · intro i found same
    cases i with
    | zero =>
      cases same
      rw [own]
      simpa using attempted.after
    | succ i =>
      rw [others]
      exact rest.after i found same

end Passes

section

variable (policy : CallPolicy) (call : NodeCall) (index : Nat) (last : ChainError)
  (endpoint : Endpoint) (endpoints : List Endpoint)

theorem callFrom_of_ok {value : call.Value}
    (answered : (endpoint.call policy call).result = .ok value) :
    callFrom policy call index last (endpoint :: endpoints) =
      (⟨.ok value, (endpoint.call policy call).elapsed,
          List.replicate (endpoint.call policy call).sent index⟩,
        (endpoint.call policy call).after :: endpoints) := by
  simp only [callFrom, answered]

theorem callFrom_of_error {e : ChainError}
    (failed : (endpoint.call policy call).result = .error e) :
    callFrom policy call index last (endpoint :: endpoints) =
      (⟨(callFrom policy call (index + 1) e endpoints).1.result,
          (endpoint.call policy call).elapsed +
            (callFrom policy call (index + 1) e endpoints).1.elapsed,
          List.replicate (endpoint.call policy call).sent index ++
            (callFrom policy call (index + 1) e endpoints).1.requests⟩,
        (endpoint.call policy call).after :: (callFrom policy call (index + 1) e endpoints).2) := by
  simp only [callFrom, failed]

end

/-- A call passes endpoints until one succeeds or none is left. -/
theorem callFrom_passes (policy : CallPolicy) (call : NodeCall) (index : Nat) (last : ChainError)
    (endpoint : Endpoint) (endpoints : List Endpoint) :
    ∃ k, Passes policy call index (endpoint :: endpoints)
      (callFrom policy call index last (endpoint :: endpoints)).1
      (callFrom policy call index last (endpoint :: endpoints)).2 k := by
  induction endpoints generalizing endpoint index last with
  | nil =>
    obtain ⟨number, attempted⟩ := endpoint.call_attempted policy call
    cases result : (endpoint.call policy call).result with
    | ok value =>
      rw [callFrom_of_ok _ _ _ _ _ _ result]
      exact ⟨0, .first attempted result.symm rfl fun _ _ => rfl⟩
    | error e =>
      rw [callFrom_of_error _ _ _ _ _ _ result]
      exact ⟨0, .first attempted result.symm (List.append_nil _) fun _ _ => rfl⟩
  | cons next endpoints ih =>
    obtain ⟨number, attempted⟩ := endpoint.call_attempted policy call
    cases result : (endpoint.call policy call).result with
    | ok value =>
      rw [callFrom_of_ok _ _ _ _ _ _ result]
      exact ⟨0, .first attempted result.symm rfl fun _ failed => by cases failed⟩
    | error e =>
      rw [callFrom_of_error _ _ _ _ _ _ result]
      obtain ⟨k, rest⟩ := ih (index + 1) e next
      exact ⟨k + 1, .cons attempted result rest rfl rfl⟩

/-- How a call goes through the endpoints of a gateway in their order, and what it leaves behind;
the endpoint with the number `k` is the last one that is called. -/
structure FailsOver (gateway : Gateway) (call : NodeCall) (report : CallReport call.Value)
    (after : Gateway) (k : Nat) : Prop where
  within : k < gateway.endpoints.length
  /-- The requests form one block for each endpoint up to the last one. -/
  blocks : report.requests = (List.range (k + 1)).flatMap fun i => List.replicate (report.sent i) i
  bounded : ∀ i ≤ k, 1 ≤ report.sent i ∧ report.sent i ≤ gateway.policy.maxRetries + 1
  /-- Each request before the last one of the call fails. -/
  failed : ∀ i ≤ k, ∀ endpoint, gateway.endpoints[i]? = some endpoint →
    ∀ number < report.sent i, (i < k ∨ number + 1 < report.sent i) →
      endpoint.Fails gateway.policy call number
  /-- An endpoint is left early only because it answered, or because its time was over. -/
  early : ∀ i ≤ k, ∀ endpoint, gateway.endpoints[i]? = some endpoint →
    report.sent i < gateway.policy.maxRetries + 1 →
      (i = k ∧ ∃ value, report.result = .ok value) ∨
        endpoint.RunsOut gateway.policy call (report.sent i - 1)
  /-- What a call answers, its last request was answered in time. -/
  answered : ∀ value, report.result = .ok value →
    ∀ endpoint, gateway.endpoints[k]? = some endpoint →
      endpoint.answer call (report.sent k - 1) = .ok value ∧
        endpoint.repliedAt gateway.policy (report.sent k - 1) ≤ gateway.policy.timeout
  /-- The value is what the last reply holds. -/
  value : ∀ value, report.result = .ok value →
    ∀ endpoint, gateway.endpoints[k]? = some endpoint →
      ∃ result, (endpoint.replyTo (report.sent k - 1)).content = .ok result ∧
        call.read? result = some value
  /-- A call fails with the error of the last endpoint that there is. -/
  refused : ∀ e, report.result = .error e →
    k + 1 = gateway.endpoints.length ∧ ∀ endpoint, gateway.endpoints[k]? = some endpoint →
      (endpoint.RunsOut gateway.policy call (report.sent k - 1) ∧ e = .timedOut ∨
        ¬ endpoint.RunsOut gateway.policy call (report.sent k - 1) ∧
          ∃ fault, e = .rpc fault ∧ endpoint.answer call (report.sent k - 1) = .error fault)
  /-- An error that does not say that the time was over is the last reply, or this holds no value. -/
  fault : ∀ fault, report.result = .error (.rpc fault) →
    ∀ endpoint, gateway.endpoints[k]? = some endpoint →
      (endpoint.replyTo (report.sent k - 1)).content = .error fault ∨
        fault = .malformed ∧ ∃ result,
          (endpoint.replyTo (report.sent k - 1)).content = .ok result ∧ call.read? result = none
  policy : after.policy = gateway.policy
  /-- Each endpoint has used up one reply for each of its requests. -/
  used : ∀ i (endpoint : Endpoint), gateway.endpoints[i]? = some endpoint →
    after.endpoints[i]? = some (endpoint.later (report.sent i))

namespace Passes

variable {gateway after : Gateway} {call : NodeCall} {report : CallReport call.Value} {k : Nat}

/-- What is true of the endpoints one by one is true of the call as a whole. -/
theorem failsOver
    (passes : Passes gateway.policy call 0 gateway.endpoints report after.endpoints k)
    (policy : after.policy = gateway.policy) : FailsOver gateway call report after k := by
  have sent_at : ∀ i, report.sent (0 + i) = report.sent i := fun i => by rw [Nat.zero_add]
  have final : ∀ endpoint, gateway.endpoints[k]? = some endpoint →
      endpoint.Tried gateway.policy call (report.sent k - 1) report.result := by
    intro endpoint found
    obtain ⟨last, outcome, sent, tried, -, whole⟩ := passes.tried k (Nat.le_refl k) endpoint found
    rw [sent_at] at sent
    rwa [sent, Nat.add_sub_cancel, ← whole rfl]
  constructor
  case within => exact passes.within
  case blocks => simpa using passes.blocks
  case policy => exact policy
  case used =>
    intro i endpoint found
    rw [← sent_at]
    exact passes.after i endpoint found
  case bounded =>
    intro i upto
    have within : i < gateway.endpoints.length := Nat.lt_of_le_of_lt upto passes.within
    obtain ⟨last, result, sent, tried, -⟩ :=
      passes.tried i upto _ (List.getElem?_eq_getElem within)
    have few := tried.few
    rw [sent_at] at sent
    omega
  case failed =>
    intro i upto endpoint found number sent_too before
    obtain ⟨last, result, sent, tried, behind, -⟩ := passes.tried i upto endpoint found
    rw [sent_at] at sent
    refine tried.fails (by omega) ?_
    rcases before with less | less
    · exact .inr (behind less)
    · exact .inl (by omega)
  case early =>
    intro i upto endpoint found few
    obtain ⟨last, result, sent, tried, behind, whole⟩ := passes.tried i upto endpoint found
    rw [sent_at] at sent
    rw [sent, Nat.add_sub_cancel]
    rcases tried.stops_early (by omega) with ⟨value, rfl⟩ | late
    · rcases Nat.lt_or_eq_of_le upto with less | same
      · obtain ⟨e, impossible⟩ := behind less
        cases impossible
      · exact .inl ⟨same, value, (whole same).symm⟩
    · exact .inr late
  case answered =>
    intro value result endpoint found
    exact (result ▸ final endpoint found).answered
  case value =>
    intro value result endpoint found
    exact NodeCall.interpret_eq_ok_iff.1 (result ▸ final endpoint found).answered.1
  case refused =>
    intro e result
    refine ⟨passes.exhausted e result, fun endpoint found => ?_⟩
    exact (result ▸ final endpoint found).error
  case fault =>
    intro fault result endpoint found
    rcases (result ▸ final endpoint found).error with ⟨-, late⟩ | ⟨-, own, same, answer⟩
    · cases late
    · obtain rfl := ChainError.rpc.inj same
      exact NodeCall.interpret_eq_error_iff.1 answer

end Passes

end Gateway

namespace NodeLog

/-- The log has a block and a transaction. -/
def isMined (log : NodeLog) : Bool := log.block.isSome && log.tx.isSome

theorem map_ofLog_mined? (log : NodeLog) :
    log.mined?.map ofLog = Option.guard (fun log => log.isMined) log := by
  obtain ⟨address, topics, data, block, tx, removed⟩ := log
  cases block <;> cases tx <;> rfl

/-- To take the mined logs out of a list leaves out the others, and keeps the order. -/
theorem map_ofLog_filterMap (logs : List NodeLog) :
    (logs.filterMap mined?).map ofLog = logs.filter isMined := by
  rw [List.map_filterMap, ← List.filterMap_eq_filter]
  simp only [map_ofLog_mined?]

end NodeLog

namespace Gateway

/-- A call for the mined logs goes like one for all logs, and keeps those that have a block and a
transaction. -/
structure KeepsMined (found : CallReport (List NodeLog)) (kept : CallReport (List Log)) : Prop where
  requests : kept.requests = found.requests
  elapsed : kept.elapsed = found.elapsed
  logs : ∀ logs, found.result = .ok logs →
    ∃ mined, kept.result = .ok mined ∧ mined.map NodeLog.ofLog = logs.filter NodeLog.isMined
  error : ∀ e, found.result = .error e → kept.result = .error e

theorem keepsMined (gateway : Gateway) (query : Query) :
    KeepsMined (gateway.nodeLogs query).1 (gateway.fetchLogs query).1 where
  requests := rfl
  elapsed := rfl
  logs logs found := by
    refine ⟨logs.filterMap NodeLog.mined?, ?_, NodeLog.map_ofLog_filterMap logs⟩
    show (gateway.nodeLogs query).1.result.map _ = _
    rw [found]
    rfl
  error e failed := by
    show (gateway.nodeLogs query).1.result.map _ = _
    rw [failed]
    rfl

/-- A call goes through the endpoints in their order, tries each as often as it may, and ends with
the first answer, or else with the error of the last endpoint; so do the calls for the last block
and for logs. -/
theorem fails_over (primary : Endpoint) (fallbacks : List Endpoint) (policy : CallPolicy) :
    let gateway : Gateway := ⟨primary :: fallbacks, policy⟩
    (∀ call, ∃ k, FailsOver gateway call (gateway.call call).1 (gateway.call call).2 k) ∧
      (∃ k, FailsOver gateway .blockNumber gateway.latestBlock.1 gateway.latestBlock.2 k) ∧
      ∀ query,
        (∃ k, FailsOver gateway (.logs (.ofQuery query)) (gateway.nodeLogs query).1
          (gateway.nodeLogs query).2 k) ∧
        KeepsMined (gateway.nodeLogs query).1 (gateway.fetchLogs query).1 ∧
        (gateway.fetchLogs query).2 = (gateway.nodeLogs query).2 := by
  intro gateway
  have calls : ∀ call,
      ∃ k, FailsOver gateway call (gateway.call call).1 (gateway.call call).2 k := by
    intro call
    obtain ⟨k, passes⟩ :=
      callFrom_passes policy call 0 (.rpc .connectionGone) primary fallbacks
    exact ⟨k, Passes.failsOver passes rfl⟩
  exact ⟨calls, calls .blockNumber, fun query =>
    ⟨calls (.logs (.ofQuery query)), keepsMined gateway query, rfl⟩⟩

end Gateway

/-! The first endpoint answers its second request too late. The second endpoint has a log that is
mined and one that is not. -/

namespace Sample

def mined : Log := ⟨.ofNat 20 0x5e1, 10, .ofNat 32 7, [], [], false⟩

/-- A log as a node writes it. -/
def written (block tx : Json) : Json :=
  .object [("address", .ofOctets mined.address), ("topics", .array []), ("data", .ofBytes []),
    ("blockNumber", block), ("transactionHash", tx), ("transactionIndex", .null),
    ("logIndex", .null)]

def late : Endpoint := ⟨[⟨0, .error .malformed⟩, ⟨70, .ok (.array [])⟩]⟩

def stumbling : Endpoint :=
  ⟨[⟨5, .error (.response 429 "busy")⟩,
    ⟨5, .ok (.array [written (.nat 10) (.ofOctets mined.tx), written .null .null])⟩]⟩

def twofold : Gateway := ⟨[late, stumbling], ⟨60, 3, 10⟩⟩

def wanted : Query := .within [mined.address] ⟨1, 30⟩ .market

end Sample

/-- Both endpoints get two requests, and the mined log of the last reply is what the call gives. -/
theorem fetched_from_fallback :
    (∃ k, Gateway.FailsOver Sample.twofold (.logs (.ofQuery Sample.wanted))
      (Sample.twofold.nodeLogs Sample.wanted).1 (Sample.twofold.nodeLogs Sample.wanted).2 k) ∧
      (Sample.twofold.nodeLogs Sample.wanted).1.requests = [0, 0, 1, 1] ∧
      (Sample.twofold.nodeLogs Sample.wanted).1.result =
        .ok [.ofLog Sample.mined, { NodeLog.ofLog Sample.mined with block := none, tx := none }] ∧
      (Sample.twofold.fetchLogs Sample.wanted).1.result = .ok [Sample.mined] := by
  obtain ⟨-, -, logs⟩ :=
    Gateway.fails_over Sample.late [Sample.stumbling] Sample.twofold.policy
  obtain ⟨passes, kept, -⟩ := logs Sample.wanted
  have found : (Sample.twofold.nodeLogs Sample.wanted).1.result =
      .ok [.ofLog Sample.mined, { NodeLog.ofLog Sample.mined with block := none, tx := none }] := by
    decide +kernel
  obtain ⟨kept, result, same⟩ := kept.logs _ found
  have alone : kept.map NodeLog.ofLog = [NodeLog.ofLog Sample.mined] := same
  obtain ⟨log, rfl, copy⟩ := List.map_eq_singleton_iff.1 alone
  obtain rfl : log = Sample.mined := by simpa using congrArg NodeLog.mined? copy
  exact ⟨passes, by decide +kernel, found, result⟩

end ChannelWatch
