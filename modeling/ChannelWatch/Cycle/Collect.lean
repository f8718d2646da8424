import ChannelWatch.Program
import ChannelWatch.Query.Watch

/-!
# Collecting logs

One collect cycle scans the next confirmed window and stores what it finds together with
the new checkpoint. All reading comes before the commit, so a cycle that ends in an error
leaves nothing behind. The commit is carried through whatever happens.
-/

namespace ChannelWatch
set_option autoImplicit false

/-- What a watch is for: its role, its contracts, and how often ratings are updated. -/
structure Profile where
  role : Role
  contracts : Contracts
  rateAfter : UInt32
deriving DecidableEq

/-- What a collect cycle did. -/
inductive Collected where
  /-- The window was empty. -/
  | nothing (window : Window)
  /-- The window was scanned: how many logs were kept, and how many of them were new. -/
  | committed (window : Window) (fetched stored : Nat)
deriving DecidableEq

namespace Cycle

/-- Reads a setting and interprets its text. -/
def setting (guard : Guard) (key : String)
    (interpret : String → Option String → Except CycleError BlockNumber) : Cycle BlockNumber := do
  let text ← transact guard (.getSetting key)
  ofExcept (interpret key text)

/-- Reads the bounds of a scan. -/
def scanLimits (guard : Guard) : Cycle ScanLimits := do
  let minConfirmations ← setting guard Settings.minConfirmationsKey Settings.required
  let freshBlocks ← setting guard Settings.freshBlocksKey Settings.required
  let blockLimit ← setting guard Settings.blockLimitKey Settings.orZero
  pure { minConfirmations, freshBlocks, blockLimit }

/-- Reads the checkpoint from the settings. -/
def storedCheckpoint (guard : Guard) : Cycle BlockNumber :=
  setting guard Settings.checkpointKey Settings.orZero

/-- The logs of one query that are kept. A query that matches nothing is never sent. -/
def fetch (locals : List Address) (query : Query) : Cycle (List Log) :=
  if query.matchesNothing then pure []
  else do
    request .working (.sendQuery query)
    let logs ← demand CycleError.fetchLogs (request .working (.logs query))
    pure (logs.filter (keeps query locals))

/-- The logs of several queries, one after the other. -/
def fetchAll (locals : List Address) : List Query → Cycle (List Log)
  | [] => pure []
  | query :: queries => do
    let found ← fetch locals query
    let rest ← fetchAll locals queries
    pure (found ++ rest)

/-- The next window, and the logs to be stored for it. -/
def scan (profile : Profile) : Cycle (Window × List Log) := do
  let limits ← scanLimits .reading
  let checkpoint ← demand id (request .reading .checkpoint)
  let locals ← transact .reading .addressesInUse
  let head ← demand CycleError.latestBlock (request .working .latestBlock)
  let window := Window.next checkpoint head limits
  if window.isEmpty then pure (window, [])
  else do
    let logs ← fetchAll locals (watchQueries profile.role profile.contracts locals window)
    pure (window, logs)

/-- One collect cycle. -/
def collect (profile : Profile) : Cycle Collected := do
  let (window, logs) ← scan profile
  if window.isEmpty then pure (.nothing window)
  else do
    let stored ← demand CycleError.store (request .final (.advance logs window))
    pure (.committed window logs.length stored)

end Cycle

end ChannelWatch
