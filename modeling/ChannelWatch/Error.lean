import ChannelWatch.Text.Quoted

/-!
# What can go wrong

One type of causes for each partner of the watch: the chain, the store, the job queue, the
configuration, and a cycle as a whole. `message` gives the wording of a cause, and cycles
tell apart the causes that point at the connection from those that point at the settings.
-/

namespace ChannelWatch
set_option autoImplicit false

/-- Why a node did not answer a request. -/
inductive RpcFault where
  /-- Nobody serves the connection any more. -/
  | connectionGone
  /-- The connection failed with a text of its own. -/
  | transport (text : String)
  /-- The node answered with an error. -/
  | response (code : Int) (text : String)
  /-- The node's answer does not decode. -/
  | malformed
deriving DecidableEq

/-- Why a call to the chain failed after all attempts. -/
inductive ChainError where
  | timedOut
  | rpc (fault : RpcFault)
deriving DecidableEq

/-- Why the store refused a transaction. -/
inductive StoreError where
  /-- The store could not be reached. -/
  | unavailable (text : String)
  /-- The row to be changed does not exist. -/
  | notFound (text : String)
  /-- The change would break what the store guarantees. -/
  | conflict (text : String)
deriving DecidableEq

/-- Why the job queue did not accept a job. -/
inductive QueueError where
  /-- An equal job was accepted before. -/
  | duplicated
  /-- An equal job is being worked on. -/
  | alreadyProcessing
  | closed
  | other (text : String)
deriving DecidableEq

/-- What is wrong with the configuration of a watch. -/
inductive ConfigError where
  | zeroInterval
  | zeroCycleTimeout
  | zeroErrorCapacity
  | zeroRateAfter
deriving DecidableEq

/-- Why a cycle was abandoned. -/
inductive CycleError where
  | fetchLogs (cause : ChainError)
  | latestBlock (cause : ChainError)
  | missingSetting (key : String)
  | invalidSetting (key value : String)
  | store (cause : StoreError)
  | timedOut
  | cancelled
deriving DecidableEq

/-- The wording of a fault. -/
def RpcFault.message : RpcFault → String
  | connectionGone => "backend connection task has stopped"
  | transport text => text
  | response code text =>
    "server returned an error response: error code " ++ Numeral.integer code ++ ": " ++ text
  | malformed => "the answer does not decode"

/-- The wording of a chain error. -/
def ChainError.message : ChainError → String
  | timedOut => "Operation timed out"
  | rpc fault => "RPC error: " ++ fault.message

/-- The wording of a store error. -/
def StoreError.message : StoreError → String
  | unavailable text => "store unavailable: " ++ text
  | notFound text => "not found: " ++ text
  | conflict text => "conflict: " ++ text

/-- The queue already has the work that was offered. -/
def QueueError.isHandled : QueueError → Bool
  | duplicated | alreadyProcessing => true
  | closed | other _ => false

/-- The wording of a queue error. -/
def QueueError.message : QueueError → String
  | duplicated => "duplicated job"
  | alreadyProcessing => "job is already being processed"
  | closed => "job queue is closed"
  | other text => "job queue error: " ++ text

/-- The wording of a configuration error. -/
def ConfigError.message : ConfigError → String
  | zeroInterval => "Monitor interval must be greater than 0"
  | zeroCycleTimeout => "Cycle timeout must be greater than 0"
  | zeroErrorCapacity => "Error sink capacity must be greater than 0"
  | zeroRateAfter => "Rate after must be greater than 0"

namespace CycleError

/-- The wording of a cycle error. -/
def message : CycleError → String
  | fetchLogs cause => "failed to fetch logs: " ++ cause.message
  | latestBlock cause => "failed to fetch latest block: " ++ cause.message
  | missingSetting key => "setting " ++ key ++ " is not set"
  | invalidSetting key value => "setting " ++ key ++ " has invalid value " ++ Text.quoted value
  | store cause => "store error: " ++ cause.message
  | timedOut => "cycle timed out"
  | cancelled => "monitor cancelled"

/-- The error points at the connection to the chain. -/
def isTransport : CycleError → Bool
  | fetchLogs _ | latestBlock _ | timedOut => true
  | _ => false

/-- The error points at the settings. -/
def isConfiguration : CycleError → Bool
  | missingSetting _ | invalidSetting _ _ => true
  | _ => false

theorem isTransport_iff {error : CycleError} :
    error.isTransport = true ↔ (∃ cause, error = fetchLogs cause) ∨
      (∃ cause, error = latestBlock cause) ∨ error = timedOut := by
  cases error <;> simp [isTransport]

end CycleError

end ChannelWatch
