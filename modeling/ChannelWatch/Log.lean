import ChannelWatch.EventKind
import ChannelWatch.Json

/-!
# Contract logs

A log as a chain node returns it, what its topics say, and its JSON form. The identity of
a log is what stays the same when two scans see it: transaction, topics, block and
address. Main statement: `ofJson?_toJson`.
-/

namespace ChannelWatch
set_option autoImplicit false

/-- The height of a block. -/
abbrev BlockNumber := UInt64

/-- A log of a contract; `removed` marks one that a reorganisation took back. -/
structure Log where
  address : Address
  block : BlockNumber
  tx : Hash
  topics : List Hash
  data : List UInt8
  removed : Bool
deriving DecidableEq

/-- What makes two sightings the same log. -/
structure Identity where
  tx : Hash
  topics : List Hash
  block : BlockNumber
  address : Address
deriving DecidableEq

namespace Log

/-- The event that the first topic names. -/
def kind (log : Log) : Option EventKind := log.topics.head?.bind EventKind.ofSignature?

/-- The topic at a position. -/
def topic (log : Log) (position : Nat) : Option Hash := log.topics[position]?

/-- The address that the topic at a position names. -/
def topicAddress (log : Log) (position : Nat) : Option Address :=
  (log.topic position).map Address.ofTopic

/-- The identity of a log. -/
def identity (log : Log) : Identity := ⟨log.tx, log.topics, log.block, log.address⟩

/-- The members of a log's JSON object. -/
def members (log : Log) : List (String × Json) :=
  [("address", .ofOctets log.address),
    ("blockNumber", .nat log.block.toNat),
    ("txHash", .ofOctets log.tx),
    ("topics", .array (log.topics.map Json.ofOctets)),
    ("data", .ofBytes log.data),
    ("removed", .bool log.removed)]

/-- The JSON form of a log. -/
def toJson (log : Log) : Json := .object log.members

/-- The log that the members of an object describe; `removed` may be missing. -/
def ofMembers? (members : List (String × Json)) : Option Log := do
  let address ← Json.required (Json.octets? 20) members "address"
  let block ← Json.required Json.uint64? members "blockNumber"
  let tx ← Json.required (Json.octets? 32) members "txHash"
  let topics ← Json.required (Json.list? (Json.octets? 32)) members "topics"
  let data ← Json.required Json.bytes? members "data"
  let removed ← Json.withDefault Json.bool? false members "removed"
  some { address, block, tx, topics, data, removed }

/-- Reads a log from an object, or from the list of its values in order. -/
def ofJson? : Json → Option Log
  | .object members => ofMembers? members
  | .array (address :: block :: tx :: topics :: data :: rest) => do
    let address ← Json.octets? 20 address
    let block ← Json.uint64? block
    let tx ← Json.octets? 32 tx
    let topics ← Json.list? (Json.octets? 32) topics
    let data ← Json.bytes? data
    match rest with
    | [] => some { address, block, tx, topics, data, removed := false }
    | [removed] => do
      let removed ← Json.bool? removed
      some { address, block, tx, topics, data, removed }
    | _ => none
  | _ => none

theorem ofMembers?_members (log : Log) : ofMembers? log.members = some log := by
  have topics : Json.list? (Json.octets? 32) (.array (log.topics.map Json.ofOctets)) =
      some log.topics := Json.list?_map (fun topic => Json.octets?_ofOctets topic) log.topics
  simp [ofMembers?, members, Json.required, Json.withDefault, Json.member?_entry, topics,
    Json.bool?]

theorem ofJson?_toJson (log : Log) : ofJson? log.toJson = some log := ofMembers?_members log

end Log

end ChannelWatch
