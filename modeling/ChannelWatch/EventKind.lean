import ChannelWatch.Octets
import ChannelWatch.Text.Hex

/-!
# Contract events

The events of the two watched contracts. The service contract reports what becomes of
payment channels and offerings, the token contract approvals and transfers. A log says
which event it is in its first topic, by the digest of the event's declaration.
-/

namespace ChannelWatch
set_option autoImplicit false

/-- The events that the watched contracts report. -/
inductive EventKind where
  | channelCreated
  | channelToppedUp
  | closeRequested
  | offeringCreated
  | offeringDeleted
  | offeringPoppedUp
  | cooperativeClose
  | uncooperativeClose
  | approval
  | transfer
deriving DecidableEq

namespace EventKind

/-- All kinds, service events first. -/
def all : List EventKind :=
  [channelCreated, channelToppedUp, closeRequested, offeringCreated, offeringDeleted,
    offeringPoppedUp, cooperativeClose, uncooperativeClose, approval, transfer]

/-- The name a contract declares the event under. -/
def name : EventKind → String
  | channelCreated => "LogChannelCreated"
  | channelToppedUp => "LogChannelToppedUp"
  | closeRequested => "LogChannelCloseRequested"
  | offeringCreated => "LogOfferingCreated"
  | offeringDeleted => "LogOfferingDeleted"
  | offeringPoppedUp => "LogOfferingPopedUp"
  | cooperativeClose => "LogCooperativeChannelClose"
  | uncooperativeClose => "LogUnCooperativeChannelClose"
  | approval => "Approval"
  | transfer => "Transfer"

/-- The digest of the event's declaration, which is the first topic of its logs. -/
def signature : EventKind → Hash
  | channelCreated => .ofNat 32 0xa6153987181667023837aee39c3f1a702a16e5e146323ef10fb96844a526143c
  | channelToppedUp => .ofNat 32 0xa3b2cd532a9050531ecc674928d7704894707ede1a436bfbee86b96b83f2a5ce
  | closeRequested => .ofNat 32 0xb40564b1d36572b2942ad7cfc5a5a967f3ef08c82163a910dee760c5b629a32e
  | offeringCreated => .ofNat 32 0x32c1913dfde418197923027c2f2260f19903a2e86a93ed83c4689ac91a96bafd
  | offeringDeleted => .ofNat 32 0xc3013cd9dd5c33b95a9cc1bc076481c9a6a1970be6d7f1ed33adafad6e57d3d6
  | offeringPoppedUp =>
    .ofNat 32 0xc37352067a3ca1eafcf2dc5ba537fc473509c4e4aaca729cb1dab7053ec1ffbf
  | cooperativeClose =>
    .ofNat 32 0xb488ea0f49970f556cf18e57588e78dcc1d3fd45c71130aa5099a79e8b06c8e7
  | uncooperativeClose =>
    .ofNat 32 0x7418f9b30b6de272d9d54ee6822f674042c58cea183b76d5d4e7b3c933a158f6
  | approval => .ofNat 32 0x8c5be1e5ebec7d5bd14f71427d1e84f3dd0314c0f7b2291e5b200ac8c7c3b925
  | transfer => .ofNat 32 0xddf252ad1be2c89b69c2b068fc378daa952ba7f163c4a11628f55a4df523b3ef

/-- The kind with a given signature. -/
def ofSignature? (topic : Hash) : Option EventKind := all.find? fun kind => kind.signature = topic

/-- The kind with a given name. -/
def ofName? (text : String) : Option EventKind := all.find? fun kind => kind.name = text

/-- Offerings appear, vanish and are announced again. -/
def isOffering : EventKind → Bool
  | offeringCreated | offeringDeleted | offeringPoppedUp => true
  | _ => false

/-- The token contract reports the event. -/
def isToken : EventKind → Bool
  | approval | transfer => true
  | _ => false

/-- The data of the event starts with the block in which its channel was opened. -/
def carriesOpenBlock : EventKind → Bool
  | channelToppedUp | closeRequested | cooperativeClose | uncooperativeClose => true
  | _ => false

/-- The event changes how much of an offering is left. -/
def changesSupply : EventKind → Bool
  | channelCreated | cooperativeClose | uncooperativeClose => true
  | _ => false

/-- How a signature is shown: the name of its event, or the bare digest. -/
def describe (topic : Hash) : String :=
  match ofSignature? topic with
  | some kind => kind.name
  | none => Hex.write topic.toList

theorem ofSignature?_signature (kind : EventKind) : ofSignature? kind.signature = some kind := by
  cases kind <;> decide +kernel

theorem signature_of_ofSignature? {topic : Hash} {kind : EventKind}
    (h : ofSignature? topic = some kind) : kind.signature = topic := by
  simpa using List.find?_some h

theorem ofSignature?_eq_some_iff {topic : Hash} {kind : EventKind} :
    ofSignature? topic = some kind ↔ kind.signature = topic :=
  ⟨signature_of_ofSignature?, fun h => h ▸ ofSignature?_signature kind⟩

end EventKind

/-- The addresses of the two watched contracts. -/
structure Contracts where
  service : Address
  token : Address
deriving DecidableEq

/-- The side of the payment network that a node acts for. -/
inductive Role where
  | agent
  | client
deriving DecidableEq

namespace Role

/-- The name of a role. -/
def name : Role → String
  | agent => "agent"
  | client => "client"

/-- The role with a given name. -/
def ofName? (text : String) : Option Role := [agent, client].find? fun role => role.name = text

end Role

end ChannelWatch
