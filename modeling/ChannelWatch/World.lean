import ChannelWatch.Store
import ChannelWatch.Chain
import ChannelWatch.Queue

/-!
# Requests and what they do

Everything that a watch does to its surroundings is a `Request`: to the store, the chain,
the queue, the supply of ids, or to the little that a watch remembers by itself, its `Desk`.
`Site.perform` says what one request answers and changes, at the instant at which it
takes effect. Requests of an operator (`Upkeep`) change the tables from outside.
-/

namespace ChannelWatch
set_option autoImplicit false

/-- The partners of a watch. -/
structure World where
  store : Store
  chain : Chain
  queue : Queue
  mint : Mint

/-- What a watch remembers between its cycles: the checkpoint since it was first read, how
many closings were recorded since ratings were last updated, and whether it has to stop. -/
structure Desk where
  cached : Option BlockNumber
  closings : UInt32
  cancelled : Bool
deriving DecidableEq

/-- The memory of a new watch. -/
def Desk.fresh : Desk := ⟨none, 0, false⟩

/-- Where a request takes effect. -/
structure Site where
  world : World
  desk : Desk

/-- A request of an operator, which reaches the tables at once. -/
inductive Upkeep where
  | insertAccount (address : Address) (inUse : Bool)
  | insertOffering (offering : Hash)
  | insertChannel (key : ChannelKey) (tx : Option Hash)
  | events
  | setAvailable (on : Bool)
  | setLatency (latency : Nat)
deriving DecidableEq

/-- What a request of an operator answers. -/
abbrev Upkeep.Value : Upkeep → Type
  | insertAccount _ _ => Id
  | insertOffering _ => Id
  | insertChannel _ _ => Id
  | events => List StoredEvent
  | setAvailable _ => Unit
  | setLatency _ => Unit

/-- Answers a request of an operator. -/
def Store.maintain (store : Store) (mint : Mint) : (u : Upkeep) → u.Value × Store × Mint
  | .insertAccount address inUse =>
    let (id, mint) := mint.next
    (id, { store with accounts := store.accounts ++ [⟨id, address, inUse⟩] }, mint)
  | .insertOffering offering =>
    let (id, mint) := mint.next
    (id, { store with offerings := Table.put store.offerings offering id }, mint)
  | .insertChannel key tx =>
    let (id, mint) := mint.next
    (id, { store with channels := store.channels ++ [⟨id, key, tx⟩] }, mint)
  | .events => (store.events, store, mint)
  | .setAvailable on => ((), { store with available := on }, mint)
  | .setLatency latency => ((), { store with latency }, mint)

/-- A request of a watch, or of an operator. -/
inductive Request where
  | store (transaction : Transaction)
  /-- The checkpoint, from memory or else from the store. -/
  | checkpoint
  /-- Stores logs and moves the checkpoint, in the store and in memory. -/
  | advance (logs : List Log) (window : Window)
  | latestBlock
  /-- Sends a query to the chain. -/
  | sendQuery (query : Query)
  /-- The logs that a query which was sent is answered with. -/
  | logs (query : Query)
  | resetConnections
  /-- Offers a job to the queue. -/
  | offer (job : Job)
  | offeringJob (offering : Hash)
  | freshId
  /-- Whether the next recorded closing is the one after which ratings are updated. -/
  | ratingsDue (rateAfter : UInt32)
  /-- Counts a recorded closing. -/
  | countClosing (rateAfter : UInt32)
  | isCancelled
  | upkeep (upkeep : Upkeep)

/-- What a request answers. -/
abbrev Request.Reply : Request → Type
  | store transaction => Except StoreError transaction.Value
  | checkpoint => Except CycleError BlockNumber
  | advance _ _ => Except StoreError Nat
  | latestBlock => Except ChainError BlockNumber
  | sendQuery _ => Unit
  | logs _ => Except ChainError (List Log)
  | resetConnections => Except ChainError Unit
  | offer _ => Except QueueError Id
  | offeringJob _ => Except QueueError (Option Id)
  | freshId => Id
  | ratingsDue _ => Bool
  | countClosing _ => Unit
  | isCancelled => Bool
  | upkeep u => u.Value

namespace World

/-- A world in which nothing has happened yet, on a chain that ends in `head`. -/
def start (head : BlockNumber) : World := ⟨.empty, .ending head, .empty, .counting⟩

/-- Carries out a transaction of the store. -/
def transact (world : World) (t : Transaction) : Except StoreError t.Value × World :=
  let (reply, store, mint) := world.store.transact world.mint t
  (reply, { world with store, mint })

end World

namespace Desk

/-- One more closing would be the `rateAfter`-th since ratings were last updated. -/
def ratingsDue (desk : Desk) (rateAfter : UInt32) : Bool := rateAfter ≤ desk.closings + 1

/-- The desk after one more closing was recorded. -/
def countClosing (desk : Desk) (rateAfter : UInt32) : Desk :=
  { desk with closings := if desk.ratingsDue rateAfter then 0 else desk.closings + 1 }

end Desk

namespace Site

/-- The checkpoint; the first one that the store gives is remembered. -/
def checkpoint (site : Site) : Except CycleError BlockNumber × Site :=
  match site.desk.cached with
  | some block => (.ok block, site)
  | none =>
    let (reply, world) := site.world.transact (.getSetting Settings.checkpointKey)
    match reply with
    | .error e => (.error (.store e), { site with world })
    | .ok text =>
      match Settings.orZero Settings.checkpointKey text with
      | .error e => (.error e, { site with world })
      | .ok block => (.ok block, ⟨world, { site.desk with cached := some block }⟩)

/-- Commits a window; a commit that succeeds is remembered as the checkpoint. -/
def advance (site : Site) (logs : List Log) (window : Window) : Except StoreError Nat × Site :=
  let (reply, world) := site.world.transact (.commitWindow logs window.last)
  match reply with
  | .error e => (.error e, { site with world })
  | .ok inserted => (.ok inserted, ⟨world, { site.desk with cached := some window.last }⟩)

end Site

/-- What a request answers and changes at a site. -/
def Site.perform (site : Site) : (request : Request) → request.Reply × Site
  | .store t =>
    let (reply, world) := site.world.transact t
    (reply, { site with world })
  | .checkpoint => site.checkpoint
  | .advance logs window => site.advance logs window
  | .latestBlock => (site.world.chain.latestBlock, site)
  | .sendQuery query =>
    ((), { site with world := { site.world with chain := site.world.chain.record query } })
  | .logs query => (site.world.chain.answer query, site)
  | .resetConnections =>
    (.ok (), { site with world := { site.world with chain := site.world.chain.reset } })
  | .offer job =>
    let (reply, queue, mint) := site.world.queue.add site.world.mint job
    (reply, { site with world := { site.world with queue, mint } })
  | .offeringJob offering => (site.world.queue.offeringJob offering, site)
  | .freshId =>
    let (id, mint) := site.world.mint.next
    (id, { site with world := { site.world with mint } })
  | .ratingsDue rateAfter => (site.desk.ratingsDue rateAfter, site)
  | .countClosing rateAfter => ((), { site with desk := site.desk.countClosing rateAfter })
  | .isCancelled => (site.desk.cancelled, site)
  | .upkeep u =>
    let (reply, store, mint) := site.world.store.maintain site.world.mint u
    (reply, { site with world := { site.world with store, mint } })

end ChannelWatch
