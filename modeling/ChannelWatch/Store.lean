import ChannelWatch.StoredEvent
import ChannelWatch.Settings
import ChannelWatch.Table

/-!
# The store

Tables in memory: settings, accounts, offerings, channels and events. A `Transaction` is
one request to the store, and `Store.transact` answers it as a whole or refuses it and
changes nothing. While the store is switched off it refuses everything.
-/

namespace ChannelWatch
set_option autoImplicit false

/-- An account of this node. -/
structure Account where
  id : Id
  address : Address
  inUse : Bool
deriving DecidableEq

/-- What tells channels apart: the same two parties may open one again later. -/
structure ChannelKey where
  offering : Hash
  agent : Address
  client : Address
  openBlock : BlockNumber
deriving DecidableEq

/-- A payment channel, with the transaction that opened it where that was recorded. -/
structure Channel where
  id : Id
  key : ChannelKey
  tx : Option Hash
deriving DecidableEq

/-- The tables, whether they can be reached, and how long a transaction takes. -/
structure Store where
  available : Bool
  latency : Nat
  settings : List (String × String)
  accounts : List Account
  offerings : List (Hash × Id)
  channels : List Channel
  events : List StoredEvent
deriving DecidableEq

/-- A request to the store. -/
inductive Transaction where
  | getSetting (key : String)
  | setSetting (key value : String)
  | addressesInUse
  | commitWindow (logs : List Log) (last : BlockNumber)
  | unscheduledEvents
  | disposeEvent (event : Id) (disposition : Disposition)
  | offeringDeleted (offering : Hash)
  | channelByKey (key : ChannelKey)
  | channelByTx (tx : Hash)
  | offeringByHash (offering : Hash)
  | accountByAddresses (addresses : List Address)
deriving DecidableEq

/-- What a granted request answers. -/
abbrev Transaction.Value : Transaction → Type
  | getSetting _ => Option String
  | setSetting _ _ => Unit
  | addressesInUse => List Address
  | commitWindow _ _ => Nat
  | unscheduledEvents => List StoredEvent
  | disposeEvent _ _ => Unit
  | offeringDeleted _ => Bool
  | channelByKey _ => Option Id
  | channelByTx _ => Option Id
  | offeringByHash _ => Option Id
  | accountByAddresses _ => Option Id

namespace Store

/-- A store with empty tables, ready and without delay. -/
def empty : Store := ⟨true, 0, [], [], [], [], []⟩

/-- The text that a store which is switched off complains with. -/
def offText : String := "memory store switched off"

/-- The value of a setting. -/
def setting? (store : Store) (key : String) : Option String := store.settings.lookup key

/-- The text of the complaint about a checkpoint that is no number. -/
def badCheckpoint (text : String) : String :=
  "stored checkpoint " ++ Text.quoted text ++ " is not a number"

/-- The text of the complaint about a checkpoint that would move back. -/
def rewind (checkpoint last : BlockNumber) : String :=
  "checkpoint " ++ Numeral.decimal checkpoint.toNat ++ " cannot move back to " ++
    Numeral.decimal last.toNat

/-- The checkpoint that the settings hold, zero where there is none. -/
def checkpoint (store : Store) : Except StoreError BlockNumber :=
  match store.setting? Settings.checkpointKey with
  | none => .ok 0
  | some text =>
    match Settings.number? text with
    | some block => .ok block
    | none => .error (.conflict (badCheckpoint text))

/-- A table of events takes in a log, unless it has a row for it. -/
def takeIn (rows : List StoredEvent × Mint) (log : Log) : List StoredEvent × Mint :=
  if rows.1.any fun row => row.log.identity = log.identity then rows
  else
    let (id, mint) := rows.2.next
    (rows.1 ++ [⟨id, log, none, 0⟩], mint)

/-- Stores the logs of a window and moves the checkpoint to its end. -/
def commitWindow (store : Store) (mint : Mint) (logs : List Log) (last : BlockNumber) :
    Except StoreError Nat × Store × Mint :=
  match store.checkpoint with
  | .error e => (.error e, store, mint)
  | .ok checkpoint =>
    if last < checkpoint then (.error (.conflict (rewind checkpoint last)), store, mint)
    else
      let (events, mint) := logs.foldl takeIn (store.events, mint)
      let settings := Table.put store.settings Settings.checkpointKey (Numeral.decimal last.toNat)
      (.ok (events.length - store.events.length), { store with events, settings }, mint)

/-- The rows without a job reference, in the order of their blocks. -/
def unscheduled (store : Store) : List StoredEvent :=
  (store.events.filter fun row => !row.isScheduled).mergeSort fun a b =>
    decide (a.log.block ≤ b.log.block)

/-- The table after the first row with this id was disposed of. -/
def disposeRow (event : Id) (disposition : Disposition) :
    List StoredEvent → Option (List StoredEvent)
  | [] => none
  | row :: rows =>
    if row.id = event then some (row.dispose disposition :: rows)
    else (disposeRow event disposition rows).map (row :: ·)

/-- The table has an event that deletes the offering. -/
def hasDeleted (store : Store) (offering : Hash) : Bool :=
  store.events.any fun row =>
    row.log.kind = some .offeringDeleted && row.log.topic 2 = some offering

/-- The addresses of the accounts in use. -/
def addressesInUse (store : Store) : List Address :=
  (store.accounts.filter Account.inUse).map Account.address

/-- The first channel that a condition selects. -/
def channel? (store : Store) (condition : Channel → Bool) : Option Id :=
  (store.channels.find? condition).map Channel.id

/-- The id of the offering with a hash. -/
def offering? (store : Store) (offering : Hash) : Option Id := store.offerings.lookup offering

/-- The first account with one of the addresses. -/
def account? (store : Store) (addresses : List Address) : Option Id :=
  (store.accounts.find? fun account => addresses.contains account.address).map Account.id

/-- Carries out a request on a store that is switched on. -/
def grant (store : Store) (mint : Mint) : (t : Transaction) →
    Except StoreError t.Value × Store × Mint
  | .getSetting key => (.ok (store.setting? key), store, mint)
  | .setSetting key value =>
    (.ok (), { store with settings := Table.put store.settings key value }, mint)
  | .addressesInUse => (.ok store.addressesInUse, store, mint)
  | .commitWindow logs last => store.commitWindow mint logs last
  | .unscheduledEvents => (.ok store.unscheduled, store, mint)
  | .disposeEvent event disposition =>
    match disposeRow event disposition store.events with
    | some events => (.ok (), { store with events }, mint)
    | none => (.error (.notFound ("event " ++ event.text)), store, mint)
  | .offeringDeleted offering => (.ok (store.hasDeleted offering), store, mint)
  | .channelByKey key => (.ok (store.channel? fun channel => channel.key = key), store, mint)
  | .channelByTx tx => (.ok (store.channel? fun channel => channel.tx = some tx), store, mint)
  | .offeringByHash offering => (.ok (store.offering? offering), store, mint)
  | .accountByAddresses addresses => (.ok (store.account? addresses), store, mint)

/-- Answers a request. -/
def transact (store : Store) (mint : Mint) (t : Transaction) :
    Except StoreError t.Value × Store × Mint :=
  if store.available then store.grant mint t else (.error (.unavailable offText), store, mint)

end Store

end ChannelWatch
