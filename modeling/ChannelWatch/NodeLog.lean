import ChannelWatch.Log
import ChannelWatch.Text.Numeral

/-!
# Logs as a node sends them

A node also sends logs of transactions that are not mined yet; these lack the block or the
transaction. Only a mined one is a `Log`.
-/

namespace ChannelWatch
set_option autoImplicit false

/-- A log as a node sends it. -/
structure NodeLog where
  address : Address
  topics : List Hash
  data : List UInt8
  block : Option BlockNumber
  tx : Option Hash
  removed : Bool
deriving DecidableEq

namespace NodeLog

/-- The log, if it is mined. -/
def mined? (log : NodeLog) : Option Log := do
  let block ← log.block
  let tx ← log.tx
  some { address := log.address, block, tx, topics := log.topics, data := log.data,
         removed := log.removed }

/-- A node's log that is mined. -/
def ofLog (log : Log) : NodeLog :=
  { address := log.address, topics := log.topics, data := log.data, block := some log.block,
    tx := some log.tx, removed := log.removed }

@[simp] theorem mined?_ofLog (log : Log) : (ofLog log).mined? = some log := rfl

/-- Reads a quantity of 64 bits: a number, or text in decimal or in a marked base. -/
def quantity? : Json → Option UInt64
  | .string text => (Numeral.amount? UInt64.size text.toList).map UInt64.ofNat
  | value => Json.uint64? value

/-- Reads a node's log. Block number and positions have to be there, if only as `null`;
block hash, transaction hash and time stamp may be missing. -/
def ofJson? : Json → Option NodeLog
  | .object members => do
    let address ← Json.required (Json.octets? 20) members "address"
    let topics ← Json.required (Json.list? (Json.octets? 32)) members "topics"
    let data ← Json.required Json.bytes? members "data"
    let _ ← Json.optional (Json.octets? 32) members "blockHash"
    let block ← Json.required (Json.nullable quantity?) members "blockNumber"
    let _ ← Json.optional quantity? members "blockTimestamp"
    let tx ← Json.optional (Json.octets? 32) members "transactionHash"
    let _ ← Json.required (Json.nullable quantity?) members "transactionIndex"
    let _ ← Json.required (Json.nullable quantity?) members "logIndex"
    let removed ← Json.withDefault Json.bool? false members "removed"
    some { address, topics, data, block, tx, removed }
  | _ => none

end NodeLog

end ChannelWatch
