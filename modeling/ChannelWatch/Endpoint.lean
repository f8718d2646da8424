import ChannelWatch.Endpoint.Backoff
import ChannelWatch.Error
import ChannelWatch.NodeLog
import ChannelWatch.Query.NodeFilter

/-!
# Endpoints

An endpoint answers the requests that reach it with the replies of a script, one after the
other, each after its delay; once the script is used up its connection is gone. One call to
an endpoint tries again after every error, with growing pauses, until an attempt succeeds,
no attempt is left or the time of the call is over.
-/

namespace ChannelWatch
set_option autoImplicit false

/-- A reply of a script. -/
structure Reply where
  /-- How long the reply takes, in milliseconds. -/
  delay : Nat
  content : Except RpcFault Json

/-- The reply of an endpoint whose script is used up. -/
def Reply.gone : Reply := ⟨0, .error .connectionGone⟩

/-- An endpoint, as the replies that it has left. -/
structure Endpoint where
  script : List Reply

/-- What a node can be called for. -/
inductive NodeCall where
  | blockNumber
  | logs (filter : NodeFilter)
deriving DecidableEq

namespace NodeCall

/-- What a call answers. -/
abbrev Value : NodeCall → Type
  | blockNumber => BlockNumber
  | logs _ => List NodeLog

/-- The name of the method that is called. -/
def method : NodeCall → String
  | blockNumber => "eth_blockNumber"
  | logs _ => "eth_getLogs"

/-- The parameters of the method. -/
def params : NodeCall → Json
  | blockNumber => .array []
  | logs filter => .array [filter.toJson]

/-- Reads the result of the method. -/
def read? : (call : NodeCall) → Json → Option call.Value
  | blockNumber, result => NodeLog.quantity? result
  | logs _, result => Json.list? NodeLog.ofJson? result

/-- What a reply means. -/
def interpret (call : NodeCall) : Except RpcFault Json → Except RpcFault call.Value
  | .error fault => .error fault
  | .ok result =>
    match call.read? result with
    | some value => .ok value
    | none => .error .malformed

end NodeCall

/-- How a call is limited at each endpoint; times are in milliseconds. -/
structure CallPolicy where
  /-- The time for all attempts and pauses. -/
  timeout : Nat
  /-- How many attempts may follow the first. -/
  maxRetries : Nat
  /-- The first pause. -/
  minDelay : Nat
deriving DecidableEq

namespace CallPolicy

/-- A minute, three more attempts, and a second before the first of them. -/
def usual : CallPolicy := ⟨60000, 3, 1000⟩

/-- A minute and a single attempt. -/
def fragile : CallPolicy := { usual with maxRetries := 0, minDelay := 0 }

end CallPolicy

/-- How a call to one endpoint went. -/
structure Attempts (α : Type) where
  result : Except ChainError α
  /-- How long the call took. -/
  elapsed : Nat
  /-- How many requests were sent. -/
  sent : Nat
  /-- The endpoint as the call left it. -/
  after : Endpoint

namespace Endpoint

/-- The next reply, and the endpoint after it. -/
def reply (endpoint : Endpoint) : Reply × Endpoint :=
  match endpoint.script with
  | [] => (.gone, endpoint)
  | reply :: script => (reply, ⟨script⟩)

/-- One attempt that begins at the time `elapsed`. -/
def once (endpoint : Endpoint) (call : NodeCall) (timeout elapsed : Nat) : Attempts call.Value :=
  let (reply, after) := endpoint.reply
  if timeout < elapsed + reply.delay then ⟨.error .timedOut, timeout, 1, after⟩
  else ⟨(call.interpret reply.content).mapError ChainError.rpc, elapsed + reply.delay, 1, after⟩

/-- Attempts from the time `elapsed` on. If the first one fails, `pause` follows it and then
at most `retries` more. -/
def attempt (call : NodeCall) (timeout : Nat) :
    (retries : Nat) → (pause elapsed : Nat) → Endpoint → Attempts call.Value
  | 0, _, elapsed, endpoint => endpoint.once call timeout elapsed
  | retries + 1, pause, elapsed, endpoint =>
    let first := endpoint.once call timeout elapsed
    match first.result with
    | .error (.rpc _) =>
      if timeout < first.elapsed + pause then
        { first with result := .error .timedOut, elapsed := timeout }
      else
        let rest :=
          attempt call timeout retries (Backoff.next pause) (first.elapsed + pause) first.after
        { rest with sent := rest.sent + 1 }
    | _ => first

/-- Calls an endpoint. -/
def call (endpoint : Endpoint) (policy : CallPolicy) (call : NodeCall) : Attempts call.Value :=
  attempt call policy.timeout policy.maxRetries policy.minDelay 0 endpoint

end Endpoint

end ChannelWatch
