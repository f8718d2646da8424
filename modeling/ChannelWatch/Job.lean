import ChannelWatch.Log.Terms
import ChannelWatch.Text.Numeral

/-!
# Jobs

A job asks a worker to act on one entity because of one stored event. Its data holds the
originating log, and for the recording of a closing also the closing and whether ratings
are due. An announcing job gives an offering its id: it came from a log that names the
offering's hash in topic 2, and its related id is the id that the offering gets.
-/

namespace ChannelWatch
set_option autoImplicit false

/-- The kinds of work that stored events call for. -/
inductive JobType where
  | agentAfterChannelCreate
  | agentAfterChannelTopUp
  | agentAfterUncooperativeCloseRequest
  | agentAfterCooperativeClose
  | agentAfterUncooperativeClose
  | agentAfterOfferingPublish
  | agentAfterOfferingPopUp
  | agentAfterOfferingDelete
  | clientAfterChannelCreate
  | clientAfterChannelTopUp
  | clientAfterUncooperativeCloseRequest
  | clientAfterCooperativeClose
  | clientAfterUncooperativeClose
  | clientAfterOfferingPublish
  | clientAfterOfferingPopUp
  | clientAfterOfferingDelete
  | clientRecordClosing
  | preAccountAddBalance
  | afterAccountAddBalance
  | afterAccountReturnBalance
  | decrementSupply
  | incrementSupply
deriving DecidableEq

namespace JobType

/-- All kinds of jobs. -/
def all : List JobType :=
  [agentAfterChannelCreate, agentAfterChannelTopUp, agentAfterUncooperativeCloseRequest,
    agentAfterCooperativeClose, agentAfterUncooperativeClose, agentAfterOfferingPublish,
    agentAfterOfferingPopUp, agentAfterOfferingDelete, clientAfterChannelCreate,
    clientAfterChannelTopUp, clientAfterUncooperativeCloseRequest, clientAfterCooperativeClose,
    clientAfterUncooperativeClose, clientAfterOfferingPublish, clientAfterOfferingPopUp,
    clientAfterOfferingDelete, clientRecordClosing, preAccountAddBalance, afterAccountAddBalance,
    afterAccountReturnBalance, decrementSupply, incrementSupply]

/-- The name of a job type in the queue. -/
def name : JobType → String
  | agentAfterChannelCreate => "agentAfterChannelCreate"
  | agentAfterChannelTopUp => "agentAfterChannelTopUp"
  | agentAfterUncooperativeCloseRequest => "agentAfterUncooperativeCloseRequest"
  | agentAfterCooperativeClose => "agentAfterCooperativeClose"
  | agentAfterUncooperativeClose => "agentAfterUncooperativeClose"
  | agentAfterOfferingPublish => "agentAfterOfferingMsgBCPublish"
  | agentAfterOfferingPopUp => "agentAfterOfferingPopUp"
  | agentAfterOfferingDelete => "agentAfterOfferingDelete"
  | clientAfterChannelCreate => "clientAfterChannelCreate"
  | clientAfterChannelTopUp => "clientAfterChannelTopUp"
  | clientAfterUncooperativeCloseRequest => "clientAfterUncooperativeCloseRequest"
  | clientAfterCooperativeClose => "clientAfterCooperativeClose"
  | clientAfterUncooperativeClose => "clientAfterUncooperativeClose"
  | clientAfterOfferingPublish => "clientAfterOfferingMsgBCPublish"
  | clientAfterOfferingPopUp => "clientAfterOfferingPopUp"
  | clientAfterOfferingDelete => "clientAfterOfferingDelete"
  | clientRecordClosing => "clientRecordClosing"
  | preAccountAddBalance => "preAccountAddBalance"
  | afterAccountAddBalance => "afterAccountAddBalance"
  | afterAccountReturnBalance => "afterAccountReturnBalance"
  | decrementSupply => "decrementCurrentSupply"
  | incrementSupply => "incrementCurrentSupply"

/-- The job type with a given name. -/
def ofName? (text : String) : Option JobType := all.find? fun type => type.name = text

/-- The related id of the job is the id of the offering that its log announced. -/
def announcesOffering : JobType → Bool
  | clientAfterOfferingPublish | clientAfterOfferingPopUp => true
  | _ => false

/-- The job changes how much of an offering is left. -/
def changesSupply : JobType → Bool
  | decrementSupply | incrementSupply => true
  | _ => false

theorem ofName?_name (type : JobType) : ofName? type.name = some type := by
  cases type <;> decide

end JobType

/-- The kind of entity that a job acts on. -/
inductive RelatedType where
  | offering
  | channel
  | account
deriving DecidableEq

namespace RelatedType

/-- The name of a kind of entity. -/
def name : RelatedType → String
  | offering => "offering"
  | channel => "channel"
  | account => "account"

/-- The kind of entity with a given name. -/
def ofName? (text : String) : Option RelatedType :=
  [offering, channel, account].find? fun type => type.name = text

theorem ofName?_name (type : RelatedType) : ofName? type.name = some type := by
  cases type <;> decide

end RelatedType

/-- A channel closing, recorded for the rating of agents. -/
structure ClosingRecord where
  id : Id
  kind : ClosingKind
  agent : Address
  client : Address
  balance : Amount
  openBlock : BlockNumber
deriving DecidableEq

/-- What the data of a job says. -/
structure Payload where
  log : Log
  closing : Option ClosingRecord
  updateRatings : Bool
deriving DecidableEq

/-- A piece of work for the queue. -/
structure Job where
  type : JobType
  relatedType : RelatedType
  relatedId : Id
  originEvent : Id
  createdBy : String
  data : Json

/-- Reads an amount: a number of 64 bits, or text in decimal or in a marked base. -/
def Amount.ofJson? : Json → Option Amount
  | .string text => (Numeral.amount? (capacity 32) text.toList).map (BitVec.ofNat 256)
  | value => (Json.below? UInt64.size value).map (BitVec.ofNat 256)

/-- The JSON form of an amount: its fewest hexadecimal digits. -/
def Amount.toJson (amount : Amount) : Json := .string (Numeral.hex amount.toNat)

theorem Amount.ofJson?_toJson (amount : Amount) : Amount.ofJson? amount.toJson = some amount := by
  have bound : amount.toNat < capacity 32 := amount.isLt
  simp [Amount.ofJson?, Amount.toJson, Numeral.amount?_hex bound]

namespace ClosingRecord

/-- The members of a closing's JSON object. -/
def members (record : ClosingRecord) : List (String × Json) :=
  [("id", .ofId record.id),
    ("kind", .string record.kind.name),
    ("agent", .ofOctets record.agent),
    ("client", .ofOctets record.client),
    ("balance", record.balance.toJson),
    ("openBlock", .nat record.openBlock.toNat)]

/-- The JSON form of a closing. -/
def toJson (record : ClosingRecord) : Json := .object record.members

/-- The closing that six values describe. -/
def ofValues? (id kind agent client balance openBlock : Json) : Option ClosingRecord := do
  let id ← Json.id? id
  let kind ← Json.name? ClosingKind.ofName? kind
  let agent ← Json.octets? 20 agent
  let client ← Json.octets? 20 client
  let balance ← Amount.ofJson? balance
  let openBlock ← Json.uint64? openBlock
  some { id, kind, agent, client, balance, openBlock }

/-- Reads a closing from an object, or from the list of its values in order. -/
def ofJson? : Json → Option ClosingRecord
  | .object members => do
    ofValues? (← Json.member? members "id") (← Json.member? members "kind")
      (← Json.member? members "agent") (← Json.member? members "client")
      (← Json.member? members "balance") (← Json.member? members "openBlock")
  | .array [id, kind, agent, client, balance, openBlock] =>
    ofValues? id kind agent client balance openBlock
  | _ => none

theorem ofJson?_toJson (record : ClosingRecord) : ofJson? record.toJson = some record := by
  have kind : Json.name? ClosingKind.ofName? (.string record.kind.name) = some record.kind :=
    ClosingKind.ofName?_name record.kind
  simp [ofJson?, toJson, members, ofValues?, Json.member?_entry, kind,
    Amount.ofJson?_toJson]

theorem toJson_ne_null (record : ClosingRecord) : record.toJson ≠ .null := by
  simp [toJson]

end ClosingRecord

namespace Payload

/-- The payload of a log alone. -/
def ofLog (log : Log) : Payload := ⟨log, none, false⟩

/-- The JSON form of a payload; a missing closing is left out. -/
def toJson (payload : Payload) : Json :=
  let closing := match payload.closing with
    | none => []
    | some record => [("closing", record.toJson)]
  .object (("ethereumLog", payload.log.toJson) :: closing ++
    [("updateRatings", .bool payload.updateRatings)])

/-- Reads a payload from an object, or from the list of its values in order; closing and
update of ratings may be missing. -/
def ofJson? : Json → Option Payload
  | .object members => do
    let log ← Json.required Log.ofJson? members "ethereumLog"
    let closing ← Json.optional ClosingRecord.ofJson? members "closing"
    let updateRatings ← Json.withDefault Json.bool? false members "updateRatings"
    some { log, closing, updateRatings }
  | .array [log] => do
    let log ← Log.ofJson? log
    some (ofLog log)
  | .array [log, closing] => do
    let log ← Log.ofJson? log
    let closing ← Json.nullable ClosingRecord.ofJson? closing
    some { log, closing, updateRatings := false }
  | .array [log, closing, updateRatings] => do
    let log ← Log.ofJson? log
    let closing ← Json.nullable ClosingRecord.ofJson? closing
    let updateRatings ← Json.bool? updateRatings
    some { log, closing, updateRatings }
  | _ => none

theorem ofJson?_toJson (payload : Payload) : ofJson? payload.toJson = some payload := by
  obtain ⟨log, closing, updateRatings⟩ := payload
  cases closing with
  | none =>
    simp [ofJson?, toJson, Json.required, Json.optional, Json.withDefault, Json.member?_entry,
      Log.ofJson?_toJson, Json.bool?]
  | some record =>
    have closing : Json.nullable ClosingRecord.ofJson? record.toJson = some (some record) :=
      Json.nullable_ofOption ClosingRecord.ofJson?_toJson ClosingRecord.toJson_ne_null
        (some record)
    simp [ofJson?, toJson, Json.required, Json.optional, Json.withDefault, Json.member?_entry,
      Log.ofJson?_toJson, Json.bool?, closing]

end Payload

namespace Job

/-- The mark of the jobs that this watch makes. -/
def watchMark : String := "bc_monitor"

/-- A job with a given payload. -/
def withPayload (type : JobType) (relatedType : RelatedType) (relatedId originEvent : Id)
    (payload : Payload) : Job :=
  { type, relatedType, relatedId, originEvent, createdBy := watchMark, data := payload.toJson }

/-- The payload that the data of a job holds. -/
def payload? (job : Job) : Option Payload := Payload.ofJson? job.data

/-- The id that the job gives to the offering with this hash, if it announces it. -/
def announced? (job : Job) (offering : Hash) : Option Id :=
  if job.type.announcesOffering ∧
      (job.payload?.bind fun payload => payload.log.topic 2) = some offering then
    some job.relatedId
  else none

/-- The JSON form of a job. -/
def toJson (job : Job) : Json :=
  .object [("type", .string job.type.name),
    ("relatedType", .string job.relatedType.name),
    ("relatedId", .ofId job.relatedId),
    ("originEvent", .ofId job.originEvent),
    ("createdBy", .string job.createdBy),
    ("data", job.data)]

/-- The job that six values describe. -/
def ofValues? (type relatedType relatedId originEvent createdBy data : Json) : Option Job := do
  let type ← Json.name? JobType.ofName? type
  let relatedType ← Json.name? RelatedType.ofName? relatedType
  let relatedId ← Json.id? relatedId
  let originEvent ← Json.id? originEvent
  let createdBy ← Json.string? createdBy
  some { type, relatedType, relatedId, originEvent, createdBy, data }

/-- Reads a job from an object, or from the list of its values in order. -/
def ofJson? : Json → Option Job
  | .object members => do
    ofValues? (← Json.member? members "type") (← Json.member? members "relatedType")
      (← Json.member? members "relatedId") (← Json.member? members "originEvent")
      (← Json.member? members "createdBy") (← Json.member? members "data")
  | .array [type, relatedType, relatedId, originEvent, createdBy, data] =>
    ofValues? type relatedType relatedId originEvent createdBy data
  | _ => none

theorem ofJson?_toJson (job : Job) : ofJson? job.toJson = some job := by
  have type : Json.name? JobType.ofName? (.string job.type.name) = some job.type :=
    JobType.ofName?_name job.type
  have related : Json.name? RelatedType.ofName? (.string job.relatedType.name) =
      some job.relatedType := RelatedType.ofName?_name job.relatedType
  simp [ofJson?, toJson, ofValues?, Json.member?_entry, type, related, Json.string?]

theorem payload?_withPayload (type : JobType) (relatedType : RelatedType)
    (relatedId originEvent : Id) (payload : Payload) :
    (withPayload type relatedType relatedId originEvent payload).payload? = some payload :=
  Payload.ofJson?_toJson payload

end Job

end ChannelWatch
