import ChannelWatch.Endpoint

/-!
# Gateways

A gateway calls a node through several endpoints. An endpoint that fails, or whose time is
over, is followed by the next one; the error of the last one stands for the whole call.
-/

namespace ChannelWatch
set_option autoImplicit false

/-- A node behind endpoints, the first of them the primary one. -/
structure Gateway where
  endpoints : List Endpoint
  policy : CallPolicy

/-- How a call through a gateway went. -/
structure CallReport (α : Type) where
  result : Except ChainError α
  /-- How long the call took, in milliseconds. -/
  elapsed : Nat
  /-- The numbers of the endpoints that a request was sent to, in order. -/
  requests : List Nat

namespace Gateway

/-- Calls endpoints from number `index` on until one succeeds; `last` is the error of the
one before. -/
def callFrom (policy : CallPolicy) (call : NodeCall) (index : Nat) (last : ChainError) :
    List Endpoint → CallReport call.Value × List Endpoint
  | [] => (⟨.error last, 0, []⟩, [])
  | endpoint :: endpoints =>
    let attempts := endpoint.call policy call
    let requests := List.replicate attempts.sent index
    match attempts.result with
    | .ok value => (⟨.ok value, attempts.elapsed, requests⟩, attempts.after :: endpoints)
    | .error e =>
      let (report, endpoints) := callFrom policy call (index + 1) e endpoints
      (⟨report.result, attempts.elapsed + report.elapsed, requests ++ report.requests⟩,
        attempts.after :: endpoints)

/-- Makes a call. A gateway without endpoints has no connection. -/
def call (gateway : Gateway) (call : NodeCall) : CallReport call.Value × Gateway :=
  let (report, endpoints) :=
    callFrom gateway.policy call 0 (.rpc .connectionGone) gateway.endpoints
  (report, { gateway with endpoints })

/-- The last block. -/
def latestBlock (gateway : Gateway) : CallReport BlockNumber × Gateway :=
  gateway.call .blockNumber

/-- All logs that the node returns for a query. -/
def nodeLogs (gateway : Gateway) (query : Query) : CallReport (List NodeLog) × Gateway :=
  gateway.call (.logs (.ofQuery query))

/-- The mined logs that the node returns for a query. -/
def fetchLogs (gateway : Gateway) (query : Query) : CallReport (List Log) × Gateway :=
  let (report, gateway) := gateway.nodeLogs query
  ({ report with result := report.result.map (List.filterMap NodeLog.mined?) }, gateway)

end Gateway

end ChannelWatch
