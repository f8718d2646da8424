import Mathlib.Algebra.BigOperators.Intervals
import Mathlib.Algebra.Order.BigOperators.Group.List
import ChannelWatch.Proofs.Failover

/-!
# How long calls take

`Endpoint.span` is the time that a call to an endpoint needs: the delays of its replies and the
pauses between them, up to the first reply that is a success or to the last one that there may be.
`Endpoint.Timed` says that a call takes this time, and is cut off where it takes more than it has.
The main statement is `Gateway.keeps_time`: the endpoints that are tried take their time one after
the other, and nothing else takes any.
-/

open scoped BigOperators

namespace ChannelWatch
set_option autoImplicit false

namespace Endpoint

section

variable (endpoint : Endpoint) (policy : CallPolicy) (call : NodeCall)

/-- The number of the request that a call ends with if its time does not run out: the first one
that is answered, or else the last one that may be sent. -/
def finalRequest : Nat :=
  ((List.range (policy.maxRetries + 1)).find? fun number =>
    (endpoint.answer call number).isOk).getD policy.maxRetries

/-- How much time a call needs: the delays of its replies, and the pauses between its requests. -/
def span : Nat :=
  ∑ number ∈ Finset.range (endpoint.finalRequest policy call + 1),
      (endpoint.replyTo number).delay +
    ∑ number ∈ Finset.range (endpoint.finalRequest policy call),
      Backoff.pause policy.minDelay number

/-- A call takes the time that it needs, but no more than it has; then it is cut off. -/
structure Timed (attempts : Attempts call.Value) : Prop where
  elapsed : attempts.elapsed = min policy.timeout (endpoint.span policy call)
  timedOut : attempts.result = .error .timedOut ↔ policy.timeout < endpoint.span policy call

end

variable {endpoint : Endpoint} {policy : CallPolicy} {call : NodeCall}

theorem answer_isOk_eq_false_iff {number : Nat} :
    (endpoint.answer call number).isOk = false ↔
      ∃ fault, endpoint.answer call number = .error fault := by
  cases endpoint.answer call number with
  | ok value => simp [Except.isOk, Except.toBool]
  | error fault => simp [Except.isOk, Except.toBool]

/-- All requests before the final one fail, and it does too only where no other may follow. -/
theorem finalRequest_spec (endpoint : Endpoint) (policy : CallPolicy) (call : NodeCall) :
    endpoint.finalRequest policy call ≤ policy.maxRetries ∧
      (∀ number < endpoint.finalRequest policy call,
        ∃ fault, endpoint.answer call number = .error fault) ∧
      (endpoint.finalRequest policy call < policy.maxRetries →
        ∃ value, endpoint.answer call (endpoint.finalRequest policy call) = .ok value) := by
  unfold finalRequest
  cases found : (List.range (policy.maxRetries + 1)).find? fun number =>
      (endpoint.answer call number).isOk with
  | none =>
    rw [List.find?_range_eq_none] at found
    refine ⟨Nat.le_refl _, fun number less => ?_, fun less => absurd less (Nat.lt_irrefl _)⟩
    exact answer_isOk_eq_false_iff.1 (by simpa using found number (Nat.lt_succ_of_lt less))
  | some final =>
    obtain ⟨answered, within, before⟩ := List.find?_range_eq_some.1 found
    refine ⟨Nat.lt_succ_iff.1 (List.mem_range.1 within), fun number less => ?_, fun _ => ?_⟩
    · exact answer_isOk_eq_false_iff.1 (by simpa using before number less)
    · show ∃ value, endpoint.answer call final = .ok value
      cases answer : endpoint.answer call final with
      | ok value => exact ⟨value, rfl⟩
      | error fault => simp [answer, Except.isOk, Except.toBool] at answered

theorem repliedAt_eq_sum (number : Nat) :
    endpoint.repliedAt policy number =
      ∑ earlier ∈ Finset.range (number + 1), (endpoint.replyTo earlier).delay +
        ∑ earlier ∈ Finset.range number, Backoff.pause policy.minDelay earlier := by
  induction number with
  | zero => simp [repliedAt, sentAt]
  | succ number ih =>
    have delays :=
      Finset.sum_range_succ (fun earlier => (endpoint.replyTo earlier).delay) (number + 1)
    have pauses := Finset.sum_range_succ (Backoff.pause policy.minDelay) number
    rw [repliedAt] at ih
    rw [repliedAt, sentAt]
    omega

theorem span_eq : endpoint.span policy call =
    endpoint.repliedAt policy (endpoint.finalRequest policy call) :=
  (repliedAt_eq_sum _).symm

theorem sentAt_le {number later : Nat} (upto : number ≤ later) :
    endpoint.sentAt policy number ≤ endpoint.sentAt policy later := by
  induction upto with
  | refl => exact Nat.le_refl _
  | step _ ih => exact ih.trans ((Nat.le_add_right _ _).trans (Nat.le_add_right _ _))

/-- A reply is there before the next request is sent, which is before later replies are there. -/
theorem sentAt_le_repliedAt {number later : Nat} (upto : number ≤ later) :
    endpoint.sentAt policy number ≤ endpoint.repliedAt policy later :=
  (sentAt_le upto).trans (Nat.le_add_right _ _)

theorem repliedAt_le {number later : Nat} (upto : number ≤ later) :
    endpoint.repliedAt policy number ≤ endpoint.repliedAt policy later := by
  rcases Nat.lt_or_eq_of_le upto with less | rfl
  · exact (Nat.le_add_right _ _).trans (sentAt_le_repliedAt (Nat.succ_le_of_lt less))
  · exact Nat.le_refl _

namespace Tried

variable {last : Nat} {result : Except ChainError call.Value}

/-- A call comes no further than to the final request. -/
theorem le_finalRequest (tried : endpoint.Tried policy call last result) :
    last ≤ endpoint.finalRequest policy call := by
  obtain ⟨-, -, answered⟩ := endpoint.finalRequest_spec policy call
  by_contra beyond
  have passed : endpoint.finalRequest policy call < last := Nat.lt_of_not_le beyond
  obtain ⟨value, answer⟩ := answered (Nat.lt_of_lt_of_le passed tried.few)
  obtain ⟨fault, failed⟩ := tried.failed _ passed
  rw [answer] at failed
  cases failed

/-- A call ends with its final request, unless it is cut off. -/
theorem timedOut_iff (tried : endpoint.Tried policy call last result) :
    result = .error .timedOut ↔ policy.timeout < endpoint.span policy call := by
  obtain ⟨few, failed, answered⟩ := endpoint.finalRequest_spec policy call
  have upto := tried.le_finalRequest
  rw [span_eq]
  cases tried.ends with
  | @answered value in_time answer =>
    have final : last = endpoint.finalRequest policy call := by
      refine Nat.le_antisymm upto (Nat.le_of_not_lt fun less => ?_)
      obtain ⟨fault, error⟩ := failed last less
      rw [answer] at error
      cases error
    rw [← final]
    exact iff_of_false nofun (Nat.not_lt.2 in_time)
  | @exhausted fault in_time answer spent =>
    have final : last = endpoint.finalRequest policy call :=
      Nat.le_antisymm upto (few.trans_eq spent.symm)
    rw [← final]
    exact iff_of_false nofun (Nat.not_lt.2 in_time)
  | timedOut late =>
    refine iff_of_true rfl ?_
    rcases late with late | ⟨⟨fault, error⟩, more, late⟩
    · exact late.trans_le (repliedAt_le upto)
    · have final : last ≠ endpoint.finalRequest policy call := by
        intro same
        obtain ⟨value, answer⟩ := answered (same ▸ more)
        rw [← same, error] at answer
        cases answer
      exact late.trans_le (sentAt_le_repliedAt (Nat.lt_of_le_of_ne upto final))

end Tried

/-- The attempts from a request on last until the reply to the final one, or until the time is
over. -/
theorem attempt_elapsed {retries number : Nat} (left : number + retries = policy.maxRetries)
    (upto : number ≤ endpoint.finalRequest policy call) :
    (attempt call policy.timeout retries (Backoff.pause policy.minDelay number)
      (endpoint.sentAt policy number) (endpoint.later number)).elapsed =
        min policy.timeout (endpoint.span policy call) := by
  obtain ⟨few, failed, answered⟩ := endpoint.finalRequest_spec policy call
  rw [span_eq]
  induction retries generalizing number with
  | zero =>
    have final : number = endpoint.finalRequest policy call := by omega
    rw [attempt, once_later, ← final]
    by_cases late : policy.timeout < endpoint.repliedAt policy number
    · rw [if_pos late, Nat.min_eq_left late.le]
    · rw [if_neg late, Nat.min_eq_right (Nat.le_of_not_lt late)]
  | succ retries ih =>
    rw [attempt, once_later]
    by_cases late : policy.timeout < endpoint.repliedAt policy number
    · rw [if_pos late, Nat.min_eq_left (late.le.trans (repliedAt_le upto))]
    · rw [if_neg late]
      cases answer : endpoint.answer call number with
      | ok value =>
        have final : number = endpoint.finalRequest policy call := by
          refine Nat.le_antisymm upto (Nat.le_of_not_lt fun less => ?_)
          obtain ⟨fault, error⟩ := failed number less
          rw [answer] at error
          cases error
        rw [← final, Nat.min_eq_right (Nat.le_of_not_lt late)]
        rfl
      | error fault =>
        have more : number < endpoint.finalRequest policy call := by
          refine Nat.lt_of_le_of_ne upto fun same => ?_
          obtain ⟨value, success⟩ := answered (by omega)
          rw [← same, answer] at success
          cases success
        simp only [Except.mapError]
        by_cases paused : policy.timeout <
            endpoint.repliedAt policy number + Backoff.pause policy.minDelay number
        · have before : endpoint.sentAt policy (number + 1) ≤
              endpoint.repliedAt policy (endpoint.finalRequest policy call) :=
            sentAt_le_repliedAt more
          rw [if_pos paused, Nat.min_eq_left (paused.le.trans before)]
        · rw [if_neg paused]
          exact ih (by omega) more

theorem call_timed (endpoint : Endpoint) (policy : CallPolicy) (call : NodeCall) :
    endpoint.Timed policy call (endpoint.call policy call) := by
  obtain ⟨last, attempted⟩ := endpoint.call_attempted policy call
  exact ⟨attempt_elapsed (Nat.zero_add _) (Nat.zero_le _), attempted.tried.timedOut_iff⟩

end Endpoint

namespace Gateway

/-- A call tries the first `k` endpoints of a gateway, takes as long as they do, and answers what
the last of them does. -/
structure KeepsTime (gateway : Gateway) (call : NodeCall) (report : CallReport call.Value)
    (k : Nat) : Prop where
  within : k ≤ gateway.endpoints.length
  /-- An endpoint is tried if there is one. -/
  some_tried : gateway.endpoints ≠ [] → 1 ≤ k
  tried : ∀ i, i ∈ report.requests ↔ i < k
  first_pause : Backoff.pause gateway.policy.minDelay 0 = gateway.policy.minDelay
  /-- Pauses double up to a minute. -/
  next_pause : ∀ j, Backoff.pause gateway.policy.minDelay (j + 1) =
    min (2 * Backoff.pause gateway.policy.minDelay j) 60000
  timed : ∀ endpoint ∈ gateway.endpoints.take k,
    endpoint.Timed gateway.policy call (endpoint.call gateway.policy call)
  elapsed : report.elapsed = ((gateway.endpoints.take k).map fun endpoint =>
    min gateway.policy.timeout (endpoint.span gateway.policy call)).sum
  bounded : report.elapsed ≤ gateway.policy.timeout * gateway.endpoints.length
  result : ∀ endpoint, (gateway.endpoints.take k).getLast? = some endpoint →
    report.result = (endpoint.call gateway.policy call).result

/-- A call through endpoints takes the time of those that are tried, and answers what the last of
them does. -/
theorem callFrom_elapsed (policy : CallPolicy) (call : NodeCall) (index : Nat) (last : ChainError)
    (endpoints : List Endpoint) :
    ∃ k ≤ endpoints.length, (endpoints ≠ [] → 1 ≤ k) ∧
      (∀ i, i ∈ (callFrom policy call index last endpoints).1.requests ↔
        index ≤ i ∧ i < index + k) ∧
      (callFrom policy call index last endpoints).1.elapsed =
        ((endpoints.take k).map fun endpoint => (endpoint.call policy call).elapsed).sum ∧
      (callFrom policy call index last endpoints).1.result =
        ((endpoints.take k).getLast?.map fun endpoint =>
          (endpoint.call policy call).result).getD (.error last) := by
  induction endpoints generalizing index last with
  | nil =>
    refine ⟨0, Nat.le_refl _, fun none => absurd rfl none, fun i => ?_, rfl, rfl⟩
    exact iff_of_false List.not_mem_nil (by omega)
  | cons endpoint endpoints ih =>
    obtain ⟨number, attempted⟩ := endpoint.call_attempted policy call
    cases result : (endpoint.call policy call).result with
    | ok value =>
      rw [callFrom_of_ok _ _ _ _ _ _ result]
      refine ⟨1, Nat.succ_pos _, fun _ => Nat.le_refl 1, fun i => ?_, by simp, by simp [result]⟩
      rw [attempted.sent, List.mem_replicate]
      omega
    | error e =>
      rw [callFrom_of_error _ _ _ _ _ _ result]
      obtain ⟨k, within, -, tried, elapsed, answer⟩ := ih (index + 1) e
      refine ⟨k + 1, Nat.succ_le_succ within, fun _ => Nat.succ_pos k, fun i => ?_, ?_, ?_⟩
      · rw [List.mem_append, attempted.sent, List.mem_replicate, tried]
        omega
      · rw [elapsed, List.take_succ_cons, List.map_cons, List.sum_cons]
      · rw [answer, List.take_succ_cons, List.getLast?_cons]
        cases (endpoints.take k).getLast? with
        | none => exact result.symm
        | some final => rfl

theorem call_keepsTime (gateway : Gateway) (call : NodeCall) :
    ∃ k, KeepsTime gateway call (gateway.call call).1 k := by
  obtain ⟨k, within, some_tried, tried, elapsed, result⟩ :=
    callFrom_elapsed gateway.policy call 0 (.rpc .connectionGone) gateway.endpoints
  have timed : (gateway.call call).1.elapsed =
      ((gateway.endpoints.take k).map fun endpoint =>
        min gateway.policy.timeout (endpoint.span gateway.policy call)).sum := by
    refine elapsed.trans (congrArg List.sum (List.map_congr_left fun endpoint _ => ?_))
    exact (endpoint.call_timed gateway.policy call).elapsed
  refine ⟨k, within, some_tried, fun i => ?_, rfl, fun _ => rfl,
    fun endpoint _ => endpoint.call_timed _ _, timed, ?_, ?_⟩
  · refine (tried i).trans ?_
    omega
  · rw [timed]
    calc
      ((gateway.endpoints.take k).map fun endpoint =>
          min gateway.policy.timeout (endpoint.span gateway.policy call)).sum
      _ ≤ (gateway.endpoints.take k).length * gateway.policy.timeout := by
        refine (List.sum_le_card_nsmul _ gateway.policy.timeout fun time mem => ?_).trans_eq ?_
        · obtain ⟨endpoint, -, rfl⟩ := List.mem_map.1 mem
          exact Nat.min_le_left _ _
        · rw [List.length_map, Nat.nsmul_eq_mul]
      _ ≤ gateway.policy.timeout * gateway.endpoints.length := by
        rw [Nat.mul_comm]
        exact Nat.mul_le_mul_left _ (List.length_take_le' _ _)
  · intro endpoint final
    refine result.trans ?_
    rw [final]
    rfl

/-- Each endpoint that a call tries takes the time that its replies and pauses need, up to the
limit, and the call takes as long as they do one after the other; so do the calls for the last
block and for logs. -/
theorem keeps_time (gateway : Gateway) :
    (∀ call, ∃ k, KeepsTime gateway call (gateway.call call).1 k) ∧
      (∃ k, KeepsTime gateway .blockNumber gateway.latestBlock.1 k) ∧
      ∀ query, (∃ k, KeepsTime gateway (.logs (.ofQuery query)) (gateway.nodeLogs query).1 k) ∧
        (gateway.fetchLogs query).1.elapsed = (gateway.nodeLogs query).1.elapsed :=
  ⟨gateway.call_keepsTime, gateway.call_keepsTime .blockNumber, fun query =>
    ⟨gateway.call_keepsTime (.logs (.ofQuery query)), (keepsMined gateway query).elapsed⟩⟩

-- the third pause of the first endpoint is cut short; the second one answers after a pause
example :
    let silent : Endpoint := ⟨[]⟩
    let late : Endpoint := ⟨[⟨5, .error .malformed⟩, ⟨7, .ok (.number 31 0)⟩]⟩
    let policy : CallPolicy := ⟨60, 9, 10⟩
    silent.span policy .blockNumber = 5110 ∧ late.span policy .blockNumber = 22 ∧
      (call ⟨[silent, late], policy⟩ .blockNumber).1.elapsed = 82 := by
  exact ⟨by decide, by decide, rfl⟩

end Gateway

end ChannelWatch
