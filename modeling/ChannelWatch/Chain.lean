import ChannelWatch.Query
import ChannelWatch.Error

/-!
# A chain in memory

A chain with a fixed list of logs, which answers a query with the logs that it selects. It
can be told to fail, or to take its time before it answers, and it keeps count of what it
was asked.
-/

namespace ChannelWatch
set_option autoImplicit false

/-- A chain, how it is told to behave, and what it was asked so far. -/
structure Chain where
  head : BlockNumber
  logs : List Log
  failsLogs : Bool
  failsHead : Bool
  /-- How long an answer with logs takes. -/
  delay : Nat
  queries : List Query
  resets : Nat
deriving DecidableEq

namespace Chain

/-- A chain without logs that ends in `head`. -/
def ending (head : BlockNumber) : Chain := ⟨head, [], false, false, 0, [], 0⟩

/-- The chain with another last block. -/
def extendTo (chain : Chain) (head : BlockNumber) : Chain := { chain with head }

/-- The chain with one more log. -/
def push (chain : Chain) (log : Log) : Chain := { chain with logs := chain.logs ++ [log] }

/-- The chain, told whether to fail when it is asked for logs. -/
def failLogs (chain : Chain) (on : Bool) : Chain := { chain with failsLogs := on }

/-- The chain, told whether to fail when it is asked for its last block. -/
def failHead (chain : Chain) (on : Bool) : Chain := { chain with failsHead := on }

/-- The chain, told how long an answer with logs takes. -/
def delayLogs (chain : Chain) (delay : Nat) : Chain := { chain with delay }

/-- The last block. -/
def latestBlock (chain : Chain) : Except ChainError BlockNumber :=
  if chain.failsHead then .error (.rpc .connectionGone) else .ok chain.head

/-- The chain after it was asked a query. -/
def record (chain : Chain) (query : Query) : Chain :=
  { chain with queries := chain.queries ++ [query] }

/-- The logs that a query selects. -/
def answer (chain : Chain) (query : Query) : Except ChainError (List Log) :=
  if chain.failsLogs then .error (.rpc .connectionGone)
  else .ok (chain.logs.filter query.selects)

/-- The chain after its connections were reset. -/
def reset (chain : Chain) : Chain := { chain with resets := chain.resets + 1 }

end Chain

end ChannelWatch
