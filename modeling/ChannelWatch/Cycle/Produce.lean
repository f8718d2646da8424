import ChannelWatch.Cycle.Collect

/-!
# The jobs of an event

Which jobs a stored event calls for, by role and kind. The entity job comes first; a client
adds the recording of a closing and then the change of an offering's supply. An event that
names nothing this node knows calls for no job.
-/

namespace ChannelWatch
set_option autoImplicit false

/-- The entity job of a role for a channel or offering event. -/
def entityJob : Role → EventKind → Option JobType
  | .agent, .channelCreated => some .agentAfterChannelCreate
  | .agent, .channelToppedUp => some .agentAfterChannelTopUp
  | .agent, .closeRequested => some .agentAfterUncooperativeCloseRequest
  | .agent, .cooperativeClose => some .agentAfterCooperativeClose
  | .agent, .uncooperativeClose => some .agentAfterUncooperativeClose
  | .agent, .offeringCreated => some .agentAfterOfferingPublish
  | .agent, .offeringPoppedUp => some .agentAfterOfferingPopUp
  | .agent, .offeringDeleted => some .agentAfterOfferingDelete
  | .client, .channelCreated => some .clientAfterChannelCreate
  | .client, .channelToppedUp => some .clientAfterChannelTopUp
  | .client, .closeRequested => some .clientAfterUncooperativeCloseRequest
  | .client, .cooperativeClose => some .clientAfterCooperativeClose
  | .client, .uncooperativeClose => some .clientAfterUncooperativeClose
  | .client, .offeringCreated => some .clientAfterOfferingPublish
  | .client, .offeringPoppedUp => some .clientAfterOfferingPopUp
  | .client, .offeringDeleted => some .clientAfterOfferingDelete
  | _, .approval => none
  | _, .transfer => none

namespace StoredEvent

/-- A job for an event, with its log as payload. -/
def job (event : StoredEvent) (type : JobType) (related : RelatedType) (id : Id) : Job :=
  .withPayload type related id event.id (.ofLog event.log)

end StoredEvent

namespace Cycle

/-- Looks something up in the store. -/
def lookUp (t : Transaction) : Cycle t.Value := transact .working t

/-- A fresh id. -/
def freshId : Cycle Id := request .final .freshId

/-- The key of the channel that an event names, if its topics name one. -/
def channelKey? (log : Log) (openBlock : BlockNumber) : Option ChannelKey := do
  let agent ← log.topicAddress 1
  let client ← log.topicAddress 2
  let offering ← log.topic 3
  some { offering, agent, client, openBlock }

/-- The block in which the channel of an event was opened: its own, if it reports that. -/
def channelOpenBlock? (log : Log) (kind : EventKind) : Option BlockNumber :=
  if kind = .channelCreated then some log.block else log.openBlock?

/-- The channel that an event is about. It is looked up by its key; where the open block
does not decode, or a created channel is not found, by the recorded transaction. -/
def findChannel (log : Log) (kind : EventKind) : Cycle (Option Id) :=
  match channelKey? log 0 with
  | none => pure none
  | some key =>
    match channelOpenBlock? log kind with
    | none => lookUp (.channelByTx log.tx)
    | some openBlock => do
      let found ← lookUp (.channelByKey { key with openBlock })
      if found.isSome ∨ kind ≠ .channelCreated then pure found
      else lookUp (.channelByTx log.tx)

/-- The offering whose supply a channel event changes: the stored one, one that an accepted
job announces, or one that a job of this sweep announces. A failed lookup counts as none. -/
def supplyOffering (log : Log) (batch : List Job) : Cycle (Option Id) :=
  match log.topic 3 with
  | none => pure none
  | some offering => do
    match ← lookUp (.offeringByHash offering) with
    | some id => pure (some id)
    | none =>
      match ← request .working (.offeringJob offering) with
      | .ok (some id) => pure (some id)
      | _ => pure (batch.findSome? fun job => job.announced? offering)

/-- The job that changes the supply of an event's offering. -/
def supplyJobs (event : StoredEvent) (type : JobType) (batch : List Job) : Cycle (List Job) := do
  match ← supplyOffering event.log batch with
  | none => pure []
  | some offering => pure [event.job type .offering offering]

/-- The entity job of an event of a known channel. -/
def channelJobs (role : Role) (event : StoredEvent) (kind : EventKind) : Cycle (List Job) :=
  match entityJob role kind with
  | none => pure []
  | some type => do
    match ← findChannel event.log kind with
    | none => pure []
    | some channel => pure [event.job type .channel channel]

/-- The job that records a closing, if its terms decode. -/
def closingJobs (rateAfter : UInt32) (event : StoredEvent) (kind : ClosingKind) :
    Cycle (List Job) :=
  match event.log.closingTerms? kind, event.log.topicAddress 1, event.log.topicAddress 2 with
  | some terms, some agent, some client => do
    let id ← freshId
    let updateRatings ← request .final (.ratingsDue rateAfter)
    let relatedId ← freshId
    let record : ClosingRecord :=
      { id, kind, agent, client, balance := terms.balance, openBlock := terms.openBlock }
    let payload : Payload := { log := event.log, closing := some record, updateRatings }
    pure [.withPayload .clientRecordClosing .channel relatedId event.id payload]
  | _, _, _ => pure []

/-- The jobs of a client for a channel that was closed in one of the two ways. -/
def clientClosed (rateAfter : UInt32) (event : StoredEvent) (kind : EventKind)
    (closing : ClosingKind) (batch : List Job) : Cycle (List Job) := do
  let channel ← channelJobs .client event kind
  let closing ← closingJobs rateAfter event closing
  let supply ← supplyJobs event .incrementSupply batch
  pure (channel ++ closing ++ supply)

/-- The jobs of a client for a created channel. -/
def clientCreated (event : StoredEvent) (batch : List Job) : Cycle (List Job) := do
  let channel ← findChannel event.log .channelCreated
  let created := channel.map fun id => event.job .clientAfterChannelCreate .channel id
  let supply ← supplyJobs event .decrementSupply batch
  pure (created.toList ++ supply)

/-- The job of an agent for a created channel, if it knows the offering. The channel itself
appears with the job. -/
def agentCreated (event : StoredEvent) : Cycle (List Job) :=
  match event.log.topic 3 with
  | none => pure []
  | some offering => do
    match ← lookUp (.offeringByHash offering) with
    | none => pure []
    | some _ => pure [event.job .agentAfterChannelCreate .channel (← freshId)]

/-- The job of a client for a new offering, unless a stored event deletes it. -/
def clientOffered (event : StoredEvent) : Cycle (List Job) :=
  match event.log.topic 2 with
  | none => pure []
  | some offering => do
    if ← lookUp (.offeringDeleted offering) then pure []
    else pure [event.job .clientAfterOfferingPublish .offering (← freshId)]

/-- The job of a client for an offering that is announced again, known or not. -/
def clientPoppedUp (event : StoredEvent) : Cycle (List Job) :=
  match event.log.topic 2 with
  | none => pure []
  | some offering => do
    match ← lookUp (.offeringByHash offering) with
    | some id => pure [event.job .clientAfterOfferingPopUp .offering id]
    | none => pure [event.job .clientAfterOfferingPopUp .offering (← freshId)]

/-- The entity job of an event of a known offering. -/
def offeringJobs (role : Role) (event : StoredEvent) (kind : EventKind) : Cycle (List Job) :=
  match entityJob role kind, event.log.topic 2 with
  | some type, some offering => do
    match ← lookUp (.offeringByHash offering) with
    | none => pure []
    | some id => pure [event.job type .offering id]
  | _, _ => pure []

/-- The job for an account with one of the addresses. -/
def accountJobs (event : StoredEvent) (type : JobType) (addresses : List Address) :
    Cycle (List Job) := do
  match ← lookUp (.accountByAddresses addresses) with
  | none => pure []
  | some account => pure [event.job type .account account]

/-- The job of an approval, on the account of its owner. -/
def approvalJobs (event : StoredEvent) : Cycle (List Job) :=
  match event.log.topicAddress 1 with
  | none => pure []
  | some owner => accountJobs event .preAccountAddBalance [owner]

/-- The job of a transfer, on the account of its sender or receiver. Tokens that the service
contract sends are a balance returned. -/
def transferJobs (contracts : Contracts) (event : StoredEvent) : Cycle (List Job) :=
  match event.log.topicAddress 1, event.log.topicAddress 2 with
  | some sender, some receiver =>
    let type : JobType :=
      if sender = contracts.service then .afterAccountReturnBalance else .afterAccountAddBalance
    accountJobs event type [sender, receiver]
  | _, _ => pure []

/-- The jobs that an event calls for. `batch` holds the jobs that the queue accepted or
already had earlier in the sweep. -/
def produce (profile : Profile) (event : StoredEvent) (batch : List Job) : Cycle (List Job) :=
  match profile.role, event.log.kind with
  | _, none => pure []
  | _, some .approval => approvalJobs event
  | _, some .transfer => transferJobs profile.contracts event
  | .agent, some .channelCreated => agentCreated event
  | .client, some .channelCreated => clientCreated event batch
  | .client, some .cooperativeClose =>
    clientClosed profile.rateAfter event .cooperativeClose .cooperative batch
  | .client, some .uncooperativeClose =>
    clientClosed profile.rateAfter event .uncooperativeClose .uncooperative batch
  | .agent, some .cooperativeClose => channelJobs .agent event .cooperativeClose
  | .agent, some .uncooperativeClose => channelJobs .agent event .uncooperativeClose
  | role, some .channelToppedUp => channelJobs role event .channelToppedUp
  | role, some .closeRequested => channelJobs role event .closeRequested
  | .client, some .offeringCreated => clientOffered event
  | .client, some .offeringPoppedUp => clientPoppedUp event
  | .agent, some .offeringCreated => offeringJobs .agent event .offeringCreated
  | .agent, some .offeringPoppedUp => offeringJobs .agent event .offeringPoppedUp
  | role, some .offeringDeleted => offeringJobs role event .offeringDeleted

end Cycle

end ChannelWatch
