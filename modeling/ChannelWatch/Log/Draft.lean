import ChannelWatch.Log
import ChannelWatch.Keccak

/-!
# Encoding events as logs

A draft says which contract reports an event and where; it turns each event into the log
that a node would return. Topic 0 is the signature, the indexed fields follow in order, and
the data is one 32-byte word per other field. Without a transaction hash of its own the
draft takes the digest of block, topics and data, so that equal events of one block share
their identity and different ones do not.
-/

namespace ChannelWatch
set_option autoImplicit false

/-- Where an event is reported. -/
structure Draft where
  address : Address
  block : BlockNumber
  tx : Option Hash
  removed : Bool

namespace Draft

/-- The word that holds a number. -/
def word (value : Nat) : Hash := .ofNat 32 value

/-- The log of an event with the given indexed fields and data words. -/
def emit (draft : Draft) (kind : EventKind) (indexed words : List Hash) : Log :=
  let topics := kind.signature :: indexed
  let data := words.flatMap Octets.toList
  let preimage := bigEndian 8 draft.block.toNat ++ topics.flatMap Octets.toList ++ data
  { address := draft.address
    block := draft.block
    tx := draft.tx.getD (Keccak.digest preimage)
    topics
    data
    removed := draft.removed }

/-- A channel of `client` with `agent` was opened, with a deposit of 100. -/
def channelCreated (draft : Draft) (agent client : Address) (offering : Hash) : Log :=
  draft.emit .channelCreated [agent.toTopic, client.toTopic, offering] [word 100, word 0]

/-- An event of the channel opened in `openBlock`; none for a kind without an open block. -/
def channelEvent? (draft : Draft) (kind : EventKind) (agent client : Address) (offering : Hash)
    (openBlock : UInt32) (amount : UInt64) : Option Log :=
  match kind with
  | .channelToppedUp | .closeRequested | .cooperativeClose | .uncooperativeClose =>
    some (draft.emit kind [agent.toTopic, client.toTopic, offering]
      [word openBlock.toNat, word amount.toNat])
  | _ => none

/-- An offering appeared, with a least deposit of 100 and a supply of 10. -/
def offeringCreated (draft : Draft) (agent : Address) (offering : Hash) : Log :=
  draft.emit .offeringCreated [agent.toTopic, offering, word 100] [word 10]

/-- An offering was deleted. -/
def offeringDeleted (draft : Draft) (agent : Address) (offering : Hash) : Log :=
  draft.emit .offeringDeleted [agent.toTopic, offering] []

/-- An offering was announced again. -/
def offeringPoppedUp (draft : Draft) (agent : Address) (offering : Hash) : Log :=
  draft.emit .offeringPoppedUp [agent.toTopic, offering] []

/-- `owner` approved `spender` for a value. -/
def approval (draft : Draft) (owner spender : Address) (value : UInt64) : Log :=
  draft.emit .approval [owner.toTopic, spender.toTopic] [word value.toNat]

/-- A value was transferred. -/
def transfer (draft : Draft) (sender receiver : Address) (value : UInt64) : Log :=
  draft.emit .transfer [sender.toTopic, receiver.toTopic] [word value.toNat]

end Draft

end ChannelWatch
