import ChannelWatch.Proofs.Growth
import ChannelWatch.Proofs.Straight

/-!
# The jobs that events get

Where the jobs of an event come from and how they are named. `Store.steadyId?` is the id that
the tables alone give to a job of an event; the types that `JobType.renewed` lists may get
another id each time the event is looked at. The main statement is `Cycle.produce_made`.
-/

namespace ChannelWatch
set_option autoImplicit false

namespace Request

/-- The request only looks something up or draws an id. -/
def looks : Request → Prop
  | .store (.offeringDeleted _) | .store (.channelByKey _) | .store (.channelByTx _)
  | .store (.offeringByHash _) | .store (.accountByAddresses _) => True
  | .offeringJob _ | .freshId | .ratingsDue _ => True
  | _ => False

end Request

namespace JobType

/-- The job may get another related id when its event is looked at again. -/
def renewed : JobType → Bool
  | agentAfterChannelCreate | clientAfterOfferingPublish | clientAfterOfferingPopUp
  | clientRecordClosing | decrementSupply | incrementSupply => true
  | _ => false

end JobType

/-- The job for a change of an offering's supply. -/
def supplyType : EventKind → JobType
  | .channelCreated => .decrementSupply
  | _ => .incrementSupply

theorem changesSupply_supplyType (kind : EventKind) : (supplyType kind).changesSupply = true := by
  cases kind <;> rfl

/-- The types of the jobs that an event may call for, in their order. -/
def calledFor (profile : Profile) (log : Log) : List JobType :=
  match profile.role, log.kind with
  | _, none => []
  | _, some .approval => [.preAccountAddBalance]
  | _, some .transfer =>
    [if log.topicAddress 1 = some profile.contracts.service then .afterAccountReturnBalance
      else .afterAccountAddBalance]
  | .client, some .channelCreated => [.clientAfterChannelCreate, .decrementSupply]
  | .client, some .cooperativeClose =>
    [.clientAfterCooperativeClose, .clientRecordClosing, .incrementSupply]
  | .client, some .uncooperativeClose =>
    [.clientAfterUncooperativeClose, .clientRecordClosing, .incrementSupply]
  | role, some kind => (entityJob role kind).toList

theorem nodup_calledFor (profile : Profile) (log : Log) : (calledFor profile log).Nodup := by
  unfold calledFor
  generalize profile.role = role
  generalize log.kind = kind
  rcases kind with _ | kind
  · cases role <;> simp
  · cases role <;> cases kind <;> simp [entityJob]

namespace Store

/-- The channel that a log of a kind is about. -/
def channelOf? (store : Store) (log : Log) (kind : EventKind) : Option Id :=
  match Cycle.channelKey? log 0 with
  | none => none
  | some key =>
    let recorded := store.channel? fun channel => channel.tx = some log.tx
    match Cycle.channelOpenBlock? log kind with
    | none => recorded
    | some openBlock =>
      let found := store.channel? fun channel => channel.key = { key with openBlock }
      if found.isSome ∨ kind ≠ .channelCreated then found else recorded

/-- The offering that a log names in a topic. -/
def offeringOf? (store : Store) (log : Log) (position : Nat) : Option Id :=
  (log.topic position).bind store.offering?

/-- The related id that the tables give to a job of a type for a log. -/
def steadyId? (store : Store) (log : Log) : JobType → Option Id
  | .agentAfterChannelCreate | .clientAfterOfferingPublish | .clientRecordClosing => none
  | .clientAfterOfferingPopUp | .agentAfterOfferingPublish | .agentAfterOfferingPopUp
  | .agentAfterOfferingDelete | .clientAfterOfferingDelete => store.offeringOf? log 2
  | .decrementSupply | .incrementSupply => store.offeringOf? log 3
  | .preAccountAddBalance => do
    let owner ← log.topicAddress 1
    store.account? [owner]
  | .afterAccountAddBalance | .afterAccountReturnBalance => do
    let sender ← log.topicAddress 1
    let receiver ← log.topicAddress 2
    store.account? [sender, receiver]
  | _ => log.kind.bind (store.channelOf? log)

theorem steadyId?_channel {role : Role} {kind : EventKind} {type : JobType}
    (named : entityJob role kind = some type) (channel : kind.isOffering = false)
    (entity : role = .client ∨ kind ≠ .channelCreated) (store : Store) (log : Log) :
    store.steadyId? log type = log.kind.bind (store.channelOf? log) := by
  rcases entity with rfl | other
  · cases kind <;> cases named <;> first | rfl | cases channel
  · cases role <;> cases kind <;> cases named <;> first | rfl | exact absurd rfl other | cases channel

theorem steadyId?_offering {role : Role} {kind : EventKind} {type : JobType}
    (named : entityJob role kind = some type) (offering : kind.isOffering = true)
    (entity : role = .agent ∨ kind = .offeringDeleted) (store : Store) (log : Log) :
    store.steadyId? log type = store.offeringOf? log 2 := by
  rcases entity with rfl | rfl
  · cases kind <;> cases named <;> first | rfl | cases offering
  · cases role <;> cases named <;> rfl

end Store

namespace World.Agrees

variable {before after : World}

theorem channel? (agrees : before.Agrees after) (condition : Channel → Bool) :
    after.store.channel? condition = before.store.channel? condition := by
  rw [Store.channel?, Store.channel?, agrees.channels]

theorem offering? (agrees : before.Agrees after) (offering : Hash) :
    after.store.offering? offering = before.store.offering? offering := by
  rw [Store.offering?, Store.offering?, agrees.offerings]

theorem account? (agrees : before.Agrees after) (addresses : List Address) :
    after.store.account? addresses = before.store.account? addresses := by
  rw [Store.account?, Store.account?, agrees.accounts]

end World.Agrees

/-- The job answers the event. -/
structure Job.Answers (job : Job) (event : StoredEvent) : Prop where
  mark : job.createdBy = Job.watchMark
  origin : job.originEvent = event.id
  log : job.payload?.map Payload.log = some event.log

/-- Jobs that lookups made for an event, out of a list of types. -/
structure Made (event : StoredEvent) (types : List JobType) (acts : List Act) (jobs : List Job) :
    Prop where
  types : (jobs.map Job.type).Sublist types
  answers : ∀ job ∈ jobs, job.Answers event
  /-- Jobs that are not renewed are named by the tables alone. -/
  steady : ∀ tables : World, (∀ act ∈ acts, tables.Agrees act.site.world) → ∀ job ∈ jobs,
    tables.store.steadyId? event.log job.type = some job.relatedId ∨
      tables.store.steadyId? event.log job.type = none ∧ job.type.renewed = true

namespace Made

variable {event : StoredEvent} {types more : List JobType} {acts behind : List Act}
  {jobs rest : List Job}

theorem none : Made event types acts [] :=
  ⟨List.nil_sublist _, by simp, by simp⟩

theorem append (first : Made event types acts jobs) (second : Made event more behind rest) :
    Made event (types ++ more) (acts ++ behind) (jobs ++ rest) where
  types := by simpa using first.types.append second.types
  answers job mem := by
    rcases List.mem_append.1 mem with mem | mem
    · exact first.answers job mem
    · exact second.answers job mem
  steady tables same job mem := by
    rcases List.mem_append.1 mem with mem | mem
    · exact first.steady tables (fun act mem => same act (by simp [mem])) job mem
    · exact second.steady tables (fun act mem => same act (by simp [mem])) job mem

theorem single {type : JobType} {related : RelatedType} {id : Id}
    (steady : ∀ tables : World, (∀ act ∈ acts, tables.Agrees act.site.world) →
      tables.store.steadyId? event.log type = some id ∨
        tables.store.steadyId? event.log type = Option.none ∧ type.renewed = true) :
    Made event [type] acts [event.job type related id] where
  types := List.Sublist.refl _
  answers job mem := by
    rw [List.mem_singleton.1 mem]
    exact ⟨rfl, rfl, by simp [StoredEvent.job, Job.payload?_withPayload, Payload.ofLog]⟩
  steady tables same job mem := by
    rw [List.mem_singleton.1 mem]
    exact steady tables same

end Made

namespace Cycle

variable {acts : List Act}

/-- A lookup that was granted found what the tables at its site hold. -/
theorem gives_lookUp_iff {t : Transaction} {value : t.Value} :
    (lookUp t).Gives acts value ↔
      ∃ site, acts = [⟨site, .store t⟩] ∧ site.world.store.available = true ∧
        (site.world.store.grant site.world.mint t).1 = .ok value := by
  rw [lookUp, gives_transact_iff]
  refine exists_congr fun site => and_congr_right fun _ => ?_
  rw [World.transact_eq]
  cases on : site.world.store.available <;> simp [Store.transact, on]

theorem gives_offeringByHash {offering : Hash} {found : Option Id}
    (given : (lookUp (.offeringByHash offering)).Gives acts found) :
    ∃ site, acts = [⟨site, .store (.offeringByHash offering)⟩] ∧
      found = site.world.store.offering? offering := by
  obtain ⟨site, rfl, -, granted⟩ := gives_lookUp_iff.1 given
  exact ⟨site, rfl, (Except.ok.inj granted).symm⟩

theorem gives_accountByAddresses {addresses : List Address} {found : Option Id}
    (given : (lookUp (.accountByAddresses addresses)).Gives acts found) :
    ∃ site, acts = [⟨site, .store (.accountByAddresses addresses)⟩] ∧
      found = site.world.store.account? addresses := by
  obtain ⟨site, rfl, -, granted⟩ := gives_lookUp_iff.1 given
  exact ⟨site, rfl, (Except.ok.inj granted).symm⟩

theorem gives_channelByKey {key : ChannelKey} {found : Option Id}
    (given : (lookUp (.channelByKey key)).Gives acts found) :
    ∃ site, acts = [⟨site, .store (.channelByKey key)⟩] ∧
      found = site.world.store.channel? fun channel => channel.key = key := by
  obtain ⟨site, rfl, -, granted⟩ := gives_lookUp_iff.1 given
  exact ⟨site, rfl, (Except.ok.inj granted).symm⟩

theorem gives_channelByTx {tx : Hash} {found : Option Id}
    (given : (lookUp (.channelByTx tx)).Gives acts found) :
    ∃ site, acts = [⟨site, .store (.channelByTx tx)⟩] ∧
      found = site.world.store.channel? fun channel => channel.tx = some tx := by
  obtain ⟨site, rfl, -, granted⟩ := gives_lookUp_iff.1 given
  exact ⟨site, rfl, (Except.ok.inj granted).symm⟩

/-- How the channel of a log is looked for: what is asked, and what is found. -/
inductive ChannelSearch (log : Log) (kind : EventKind) : List Act → Option Id → Prop where
  | unnamed (unnamed : channelKey? log 0 = none) : ChannelSearch log kind [] none
  | undecoded {key : ChannelKey} {site : Site} (named : channelKey? log 0 = some key)
      (undecoded : channelOpenBlock? log kind = none) :
      ChannelSearch log kind [⟨site, .store (.channelByTx log.tx)⟩]
        (site.world.store.channel? fun channel => channel.tx = some log.tx)
  | keyed {key : ChannelKey} {openBlock : BlockNumber} {site : Site}
      (named : channelKey? log 0 = some key) (opened : channelOpenBlock? log kind = some openBlock)
      (settled : (site.world.store.channel? fun channel =>
        channel.key = { key with openBlock }).isSome ∨ kind ≠ .channelCreated) :
      ChannelSearch log kind [⟨site, .store (.channelByKey { key with openBlock })⟩]
        (site.world.store.channel? fun channel => channel.key = { key with openBlock })
  | absent {key : ChannelKey} {openBlock : BlockNumber} {first last : Site}
      (named : channelKey? log 0 = some key) (opened : channelOpenBlock? log kind = some openBlock)
      (absent : (first.world.store.channel? fun channel =>
        channel.key = { key with openBlock }) = none) (created : kind = .channelCreated) :
      ChannelSearch log kind
        [⟨first, .store (.channelByKey { key with openBlock })⟩,
          ⟨last, .store (.channelByTx log.tx)⟩]
        (last.world.store.channel? fun channel => channel.tx = some log.tx)

theorem gives_findChannel {log : Log} {kind : EventKind} {found : Option Id}
    (given : (findChannel log kind).Gives acts found) : ChannelSearch log kind acts found := by
  unfold findChannel at given
  cases named : channelKey? log 0 with
  | none =>
    rw [named] at given
    obtain ⟨rfl, rfl⟩ := gives_pure_iff.1 given
    exact .unnamed named
  | some key =>
    rw [named] at given
    cases opened : channelOpenBlock? log kind with
    | none =>
      rw [opened] at given
      obtain ⟨site, rfl, rfl⟩ := gives_channelByTx given
      exact .undecoded named opened
    | some openBlock =>
      rw [opened] at given
      obtain ⟨first, before, behind, rfl, looked, given⟩ := gives_bind_iff.1 given
      obtain ⟨site, rfl, rfl⟩ := gives_channelByKey looked
      split at given
      · rename_i settled
        obtain ⟨rfl, rfl⟩ := gives_pure_iff.1 given
        exact .keyed named opened settled
      · rename_i unsettled
        obtain ⟨nobody, created⟩ := not_or.1 unsettled
        obtain ⟨last, rfl, rfl⟩ := gives_channelByTx given
        exact .absent named opened (Option.not_isSome_iff_eq_none.1 nobody) (not_not.1 created)

/-- While the tables stay, an event has one channel. -/
theorem findChannel_steady {log : Log} {kind : EventKind} {found : Option Id}
    (given : (findChannel log kind).Gives acts found) {tables : World}
    (same : ∀ act ∈ acts, tables.Agrees act.site.world) :
    found = tables.store.channelOf? log kind := by
  unfold Store.channelOf?
  cases gives_findChannel given with
  | unnamed unnamed => rw [unnamed]
  | undecoded named undecoded =>
    rw [named, undecoded]
    exact (same _ (List.mem_singleton_self _)).channel? _
  | keyed named opened settled =>
    rw [(same _ (List.mem_singleton_self _)).channel?] at settled ⊢
    rw [named, opened]
    exact (if_pos settled).symm
  | absent named opened absent created =>
    rw [(same _ List.mem_cons_self).channel?] at absent
    rw [named, opened, (same _ (List.mem_cons_of_mem _ (List.mem_singleton_self _))).channel?]
    simp [absent, created]

variable {event : StoredEvent} {jobs batch : List Job}

/-- The job on the channel of an event is named by the tables that it was found in. -/
theorem findChannel_made {kind : EventKind} {type : JobType} {found : Option Id}
    (known : event.log.kind = some kind)
    (steady : ∀ store : Store,
      store.steadyId? event.log type = event.log.kind.bind (store.channelOf? event.log))
    (looked : (findChannel event.log kind).Gives acts found) :
    Made event [type] acts (found.map fun id => event.job type .channel id).toList := by
  cases found with
  | none => exact .none
  | some id =>
    refine .single fun tables same => .inl ?_
    rw [steady, known, Option.bind_some, ← findChannel_steady looked same]

theorem channelJobs_made {role : Role} {kind : EventKind} (known : event.log.kind = some kind)
    (channel : kind.isOffering = false) (entity : role = .client ∨ kind ≠ .channelCreated)
    (given : (channelJobs role event kind).Gives acts jobs) :
    Made event (entityJob role kind).toList acts jobs := by
  unfold channelJobs at given
  cases named : entityJob role kind with
  | none =>
    rw [named] at given
    obtain ⟨rfl, rfl⟩ := gives_pure_iff.1 given
    exact .none
  | some type =>
    rw [named] at given
    obtain ⟨found, before, behind, rfl, looked, given⟩ := gives_bind_iff.1 given
    have made := findChannel_made known
      (fun store => store.steadyId?_channel named channel entity event.log) looked
    cases found with
    | none =>
      obtain ⟨rfl, rfl⟩ := gives_pure_iff.1 given
      exact .none
    | some id =>
      obtain ⟨rfl, rfl⟩ := gives_pure_iff.1 given
      simpa using made

theorem closingJobs_made {rateAfter : UInt32} {kind : ClosingKind}
    (given : (closingJobs rateAfter event kind).Gives acts jobs) :
    Made event [.clientRecordClosing] acts jobs := by
  unfold closingJobs at given
  split at given
  · simp only [gives_bind_iff, gives_pure_iff] at given
    obtain ⟨id, _, _, rfl, -, due, _, _, rfl, -, relatedId, _, _, rfl, -, rfl, rfl⟩ := given
    refine ⟨List.Sublist.refl _, ?_, ?_⟩
    · intro job mem
      rw [List.mem_singleton.1 mem]
      exact ⟨rfl, rfl, by simp [Job.payload?_withPayload]⟩
    · intro tables _ job mem
      rw [List.mem_singleton.1 mem]
      exact .inr ⟨rfl, rfl⟩
  · obtain ⟨rfl, rfl⟩ := gives_pure_iff.1 given
    exact .none

theorem agentCreated_made (given : (agentCreated event).Gives acts jobs) :
    Made event [.agentAfterChannelCreate] acts jobs := by
  unfold agentCreated at given
  split at given
  · obtain ⟨rfl, rfl⟩ := gives_pure_iff.1 given
    exact .none
  · obtain ⟨found, before, behind, rfl, looked, given⟩ := gives_bind_iff.1 given
    cases found with
    | none =>
      obtain ⟨rfl, rfl⟩ := gives_pure_iff.1 given
      exact .none
    | some offering =>
      simp only [gives_bind_iff, gives_pure_iff] at given
      obtain ⟨id, _, _, rfl, -, rfl, rfl⟩ := given
      exact .single fun tables same => .inr ⟨rfl, rfl⟩

theorem clientOffered_made (given : (clientOffered event).Gives acts jobs) :
    Made event [.clientAfterOfferingPublish] acts jobs := by
  unfold clientOffered at given
  split at given
  · obtain ⟨rfl, rfl⟩ := gives_pure_iff.1 given
    exact .none
  · obtain ⟨deleted, before, behind, rfl, looked, given⟩ := gives_bind_iff.1 given
    split at given
    · obtain ⟨rfl, rfl⟩ := gives_pure_iff.1 given
      exact .none
    · simp only [gives_bind_iff, gives_pure_iff] at given
      obtain ⟨id, _, _, rfl, -, rfl, rfl⟩ := given
      exact .single fun tables same => .inr ⟨rfl, rfl⟩

theorem clientPoppedUp_made (given : (clientPoppedUp event).Gives acts jobs) :
    Made event [.clientAfterOfferingPopUp] acts jobs := by
  unfold clientPoppedUp at given
  cases named : event.log.topic 2 with
  | none =>
    rw [named] at given
    obtain ⟨rfl, rfl⟩ := gives_pure_iff.1 given
    exact .none
  | some offering =>
    rw [named] at given
    obtain ⟨found, before, behind, rfl, looked, given⟩ := gives_bind_iff.1 given
    obtain ⟨site, rfl, read⟩ := gives_offeringByHash looked
    have steady : ∀ tables : World, tables.Agrees site.world →
        tables.store.steadyId? event.log .clientAfterOfferingPopUp = found := by
      intro tables agrees
      rw [read, agrees.offering?]
      simp [Store.steadyId?, Store.offeringOf?, named]
    cases found with
    | some id =>
      obtain ⟨rfl, rfl⟩ := gives_pure_iff.1 given
      exact .single fun tables same => .inl (steady tables (same _ List.mem_cons_self))
    | none =>
      simp only [gives_bind_iff, gives_pure_iff] at given
      obtain ⟨id, _, _, rfl, -, rfl, rfl⟩ := given
      exact .single fun tables same => .inr ⟨steady tables (same _ List.mem_cons_self), rfl⟩

theorem offeringJobs_made {role : Role} {kind : EventKind} (offering : kind.isOffering = true)
    (entity : role = .agent ∨ kind = .offeringDeleted)
    (given : (offeringJobs role event kind).Gives acts jobs) :
    Made event (entityJob role kind).toList acts jobs := by
  unfold offeringJobs at given
  split at given
  · rename_i type hash named topic
    obtain ⟨found, before, behind, rfl, looked, given⟩ := gives_bind_iff.1 given
    obtain ⟨site, rfl, read⟩ := gives_offeringByHash looked
    cases found with
    | none =>
      obtain ⟨rfl, rfl⟩ := gives_pure_iff.1 given
      exact .none
    | some id =>
      obtain ⟨rfl, rfl⟩ := gives_pure_iff.1 given
      rw [named]
      refine .single fun tables same => .inl ?_
      rw [Store.steadyId?_offering named offering entity, Store.offeringOf?, topic,
        Option.bind_some, read]
      exact ((same _ List.mem_cons_self).offering? _).symm
  · obtain ⟨rfl, rfl⟩ := gives_pure_iff.1 given
    exact .none

theorem accountJobs_made {type : JobType} {addresses : List Address}
    (steady : ∀ store : Store, store.steadyId? event.log type = store.account? addresses)
    (given : (accountJobs event type addresses).Gives acts jobs) :
    Made event [type] acts jobs := by
  obtain ⟨found, before, behind, rfl, looked, given⟩ := gives_bind_iff.1 given
  obtain ⟨site, rfl, read⟩ := gives_accountByAddresses looked
  cases found with
  | none =>
    obtain ⟨rfl, rfl⟩ := gives_pure_iff.1 given
    exact .none
  | some id =>
    obtain ⟨rfl, rfl⟩ := gives_pure_iff.1 given
    refine .single fun tables same => .inl ?_
    rw [steady, read]
    exact ((same _ List.mem_cons_self).account? _).symm

/-- How the offering of a supply job is found: in the store, else in the queue, else among the
jobs of the sweep. -/
theorem gives_supplyOffering {log : Log} {offering : Hash} {result : Option Id}
    (named : log.topic 3 = some offering)
    (given : (supplyOffering log batch).Gives acts result) :
    ∃ site rest, acts = ⟨site, .store (.offeringByHash offering)⟩ :: rest ∧
      ((∃ id, site.world.store.offering? offering = some id ∧ rest = [] ∧ result = some id) ∨
        site.world.store.offering? offering = none ∧
          ∃ asked, rest = [⟨asked, .offeringJob offering⟩] ∧
            result = match asked.world.queue.offeringJob offering with
              | .ok (some id) => some id
              | _ => batch.findSome? fun job => job.announced? offering) := by
  unfold supplyOffering at given
  rw [named] at given
  obtain ⟨found, before, behind, rfl, looked, given⟩ := gives_bind_iff.1 given
  obtain ⟨site, rfl, read⟩ := gives_offeringByHash looked
  refine ⟨site, behind, rfl, ?_⟩
  cases found with
  | some id =>
    obtain ⟨rfl, rfl⟩ := gives_pure_iff.1 given
    exact .inl ⟨id, read.symm, rfl, rfl⟩
  | none =>
    obtain ⟨reply, first, last, rfl, answered, given⟩ := gives_bind_iff.1 given
    obtain ⟨asked, rfl, rfl⟩ := gives_request_iff.1 answered
    refine .inr ⟨read.symm, asked, ?_⟩
    split at given
    · rename_i id found
      have found : asked.world.queue.offeringJob offering = .ok (some id) := found
      obtain ⟨rfl, rfl⟩ := gives_pure_iff.1 given
      exact ⟨rfl, by rw [found]⟩
    · rename_i other
      obtain ⟨rfl, rfl⟩ := gives_pure_iff.1 given
      refine ⟨rfl, ?_⟩
      split
      · rename_i id found
        exact absurd found (other id)
      · rfl

theorem topic_of_supplyOffering {log : Log} {id : Id}
    (given : (supplyOffering log batch).Gives acts (some id)) :
    ∃ offering, log.topic 3 = some offering := by
  cases named : log.topic 3 with
  | some offering => exact ⟨offering, rfl⟩
  | none =>
    unfold supplyOffering at given
    rw [named] at given
    cases (gives_pure_iff.1 given).2

theorem gives_supplyJobs {type : JobType}
    (given : (supplyJobs event type batch).Gives acts jobs) :
    ∃ result, (supplyOffering event.log batch).Gives acts result ∧
      jobs = (result.map fun id => event.job type .offering id).toList := by
  obtain ⟨result, before, behind, rfl, found, given⟩ := gives_bind_iff.1 given
  cases result with
  | none =>
    obtain ⟨rfl, rfl⟩ := gives_pure_iff.1 given
    exact ⟨none, by simpa using found, rfl⟩
  | some id =>
    obtain ⟨rfl, rfl⟩ := gives_pure_iff.1 given
    exact ⟨some id, by simpa using found, rfl⟩

theorem supplyJobs_made {type : JobType} (supply : type.changesSupply = true)
    (given : (supplyJobs event type batch).Gives acts jobs) : Made event [type] acts jobs := by
  obtain ⟨result, found, rfl⟩ := gives_supplyJobs given
  cases result with
  | none => exact .none
  | some id =>
    refine .single fun tables same => ?_
    have steadyId : tables.store.steadyId? event.log type = tables.store.offeringOf? event.log 3 := by
      cases type <;> first | rfl | cases supply
    have renewed : type.renewed = true := by
      cases type <;> first | rfl | cases supply
    rw [steadyId, Store.offeringOf?]
    cases named : event.log.topic 3 with
    | none => exact .inr ⟨rfl, renewed⟩
    | some offering =>
      obtain ⟨site, rest, rfl, source⟩ := gives_supplyOffering named found
      have agrees := (same _ List.mem_cons_self).offering? offering
      rw [Option.bind_some, ← agrees]
      rcases source with ⟨stored, known, -, result⟩ | ⟨unknown, -⟩
      · exact .inl (known.trans result.symm)
      · exact .inr ⟨unknown, renewed⟩

theorem clientClosed_made {rateAfter : UInt32} {kind : EventKind} {closing : ClosingKind}
    (known : event.log.kind = some kind) (channel : kind.isOffering = false)
    (given : (clientClosed rateAfter event kind closing batch).Gives acts jobs) :
    Made event ((entityJob .client kind).toList ++ [.clientRecordClosing, .incrementSupply])
      acts jobs := by
  simp only [clientClosed, gives_bind_iff, gives_pure_iff] at given
  obtain ⟨_, first, _, rfl, entity, _, second, _, rfl, recorded, supply, third, _, rfl,
    changed, rfl, rfl⟩ := given
  have entity := channelJobs_made known channel (.inl rfl) entity
  have changed := supplyJobs_made rfl changed
  simpa using (entity.append (closingJobs_made recorded)).append changed

theorem clientCreated_made (known : event.log.kind = some .channelCreated)
    (given : (clientCreated event batch).Gives acts jobs) :
    Made event [.clientAfterChannelCreate, .decrementSupply] acts jobs := by
  simp only [clientCreated, gives_bind_iff, gives_pure_iff] at given
  obtain ⟨channel, first, _, rfl, looked, supply, second, _, rfl, changed, rfl, rfl⟩ := given
  have created : Made event [.clientAfterChannelCreate] first _ :=
    findChannel_made known (fun _ => rfl) looked
  simpa using created.append (supplyJobs_made rfl changed)

theorem transferJobs_made {contracts : Contracts}
    (given : (transferJobs contracts event).Gives acts jobs) :
    Made event
      [if event.log.topicAddress 1 = some contracts.service then .afterAccountReturnBalance
        else .afterAccountAddBalance] acts jobs := by
  unfold transferJobs at given
  split at given
  · rename_i sender receiver sent received
    rw [sent]
    by_cases service : sender = contracts.service
    · subst service
      simp only [if_true] at given ⊢
      exact accountJobs_made (fun store => by simp [Store.steadyId?, sent, received]) given
    · simp only [if_neg service, Option.some.injEq] at given ⊢
      exact accountJobs_made (fun store => by simp [Store.steadyId?, sent, received]) given
  · obtain ⟨rfl, rfl⟩ := gives_pure_iff.1 given
    exact .none

theorem approvalJobs_made (given : (approvalJobs event).Gives acts jobs) :
    Made event [.preAccountAddBalance] acts jobs := by
  unfold approvalJobs at given
  split at given
  · obtain ⟨rfl, rfl⟩ := gives_pure_iff.1 given
    exact .none
  · rename_i owner named
    exact accountJobs_made (fun store => by simp [Store.steadyId?, named]) given

/-- Every job of an event answers it, is of one of the types that are called for, and has the
id that the tables give it, unless its type is renewed and the tables give none. -/
theorem produce_made {profile : Profile}
    (given : (produce profile event batch).Gives acts jobs) :
    Made event (calledFor profile event.log) acts jobs := by
  unfold produce at given
  unfold calledFor
  cases known : event.log.kind with
  | none =>
    cases acting : profile.role <;> rw [known, acting] at given <;>
      obtain ⟨rfl, rfl⟩ := gives_pure_iff.1 given <;> exact .none
  | some kind =>
    cases acting : profile.role with
    | agent =>
      rw [known, acting] at given
      cases kind with
      | approval => exact approvalJobs_made given
      | transfer => exact transferJobs_made given
      | channelCreated => exact agentCreated_made given
      | channelToppedUp | closeRequested | cooperativeClose | uncooperativeClose =>
        exact channelJobs_made known rfl (.inr (by decide)) given
      | offeringCreated | offeringPoppedUp | offeringDeleted =>
        exact offeringJobs_made rfl (.inl rfl) given
    | client =>
      rw [known, acting] at given
      cases kind with
      | approval => exact approvalJobs_made given
      | transfer => exact transferJobs_made given
      | channelCreated => exact clientCreated_made known given
      | cooperativeClose => exact clientClosed_made known rfl given
      | uncooperativeClose => exact clientClosed_made known rfl given
      | channelToppedUp | closeRequested => exact channelJobs_made known rfl (.inl rfl) given
      | offeringCreated => exact clientOffered_made given
      | offeringPoppedUp => exact clientPoppedUp_made given
      | offeringDeleted => exact offeringJobs_made rfl (.inr rfl) given

/-- The change of supply is looked for last, and no other job of the event changes supply. -/
theorem produce_supply {profile : Profile} {kind : EventKind} (client : profile.role = .client)
    (known : event.log.kind = some kind) (supply : kind.changesSupply = true)
    (given : (produce profile event batch).Gives acts jobs) :
    ∃ before behind front result, acts = before ++ behind ∧
      (supplyOffering event.log batch).Gives behind result ∧
      jobs = front ++ (result.map fun id => event.job (supplyType kind) .offering id).toList ∧
      ∀ job ∈ front, job.type.changesSupply = false := by
  unfold produce at given
  rw [known, client] at given
  have plain : ∀ {front : List Job} {types : List JobType} {acts : List Act},
      Made event types acts front → (∀ type ∈ types, type.changesSupply = false) →
      ∀ job ∈ front, job.type.changesSupply = false := fun made none job mem =>
    none _ (made.types.subset (List.mem_map_of_mem mem))
  cases kind with
  | channelCreated =>
    simp only [clientCreated, gives_bind_iff, gives_pure_iff] at given
    obtain ⟨channel, first, _, rfl, looked, supply, second, _, rfl, changed, rfl, rfl⟩ := given
    have created : Made event [.clientAfterChannelCreate] first _ :=
      findChannel_made known (fun _ => rfl) looked
    obtain ⟨result, found, rfl⟩ := gives_supplyJobs changed
    exact ⟨first, second, _, result, by simp, found, rfl, plain created (by decide)⟩
  | cooperativeClose | uncooperativeClose =>
    simp only [clientClosed, gives_bind_iff, gives_pure_iff] at given
    obtain ⟨channel, first, _, rfl, entity, closing, second, _, rfl, recorded, supply, third, _, rfl,
      changed, rfl, rfl⟩ := given
    have entity := channelJobs_made known rfl (.inl rfl) entity
    obtain ⟨result, found, rfl⟩ := gives_supplyJobs changed
    exact ⟨first ++ second, third, channel ++ closing, result, by simp, found, rfl,
      plain (entity.append (closingJobs_made recorded)) (by decide)⟩
  | _ => cases supply

theorem lookUp_straight {t : Transaction} (looks : (Request.store t).looks) :
    (lookUp t).Straight (Yielding Request.looks) :=
  straight_transact ⟨looks, .inr rfl⟩

theorem prompt_straight {guard : Guard} {request : Request} (looks : request.looks)
    (prompt : request.hurdles = []) :
    (Cycle.request guard request).Straight (Yielding Request.looks) :=
  straight_request ⟨looks, .inl prompt⟩

theorem findChannel_straight (log : Log) (kind : EventKind) :
    (findChannel log kind).Straight (Yielding Request.looks) := by
  unfold findChannel
  split
  · exact straight_pure _
  · split
    · exact lookUp_straight trivial
    · refine straight_bind (lookUp_straight trivial) fun found => ?_
      split
      · exact straight_pure _
      · exact lookUp_straight trivial

theorem channelJobs_straight (role : Role) (event : StoredEvent) (kind : EventKind) :
    (channelJobs role event kind).Straight (Yielding Request.looks) := by
  unfold channelJobs
  split
  · exact straight_pure _
  · apply straight_bind (findChannel_straight _ _)
    intro found
    cases found <;> exact straight_pure _

theorem supplyJobs_straight (event : StoredEvent) (type : JobType) (batch : List Job) :
    (supplyJobs event type batch).Straight (Yielding Request.looks) := by
  refine straight_bind ?_ fun result => by cases result <;> exact straight_pure _
  unfold supplyOffering
  split
  · exact straight_pure _
  · refine straight_bind (lookUp_straight trivial) fun found => ?_
    cases found with
    | some id => exact straight_pure _
    | none =>
      refine straight_bind (prompt_straight trivial rfl) fun reply => ?_
      split <;> exact straight_pure _

theorem closingJobs_straight (rateAfter : UInt32) (event : StoredEvent) (kind : ClosingKind) :
    (closingJobs rateAfter event kind).Straight (Yielding Request.looks) := by
  unfold closingJobs
  split
  · exact straight_bind (prompt_straight trivial rfl) fun _ =>
      straight_bind (prompt_straight trivial rfl) fun _ =>
        straight_bind (prompt_straight trivial rfl) fun _ => straight_pure _
  · exact straight_pure _

theorem clientClosed_straight (rateAfter : UInt32) (event : StoredEvent) (kind : EventKind)
    (closing : ClosingKind) (batch : List Job) :
    (clientClosed rateAfter event kind closing batch).Straight (Yielding Request.looks) :=
  straight_bind (channelJobs_straight _ _ _) fun _ =>
    straight_bind (closingJobs_straight _ _ _) fun _ =>
      straight_bind (supplyJobs_straight _ _ _) fun _ => straight_pure _

theorem clientCreated_straight (event : StoredEvent) (batch : List Job) :
    (clientCreated event batch).Straight (Yielding Request.looks) :=
  straight_bind (findChannel_straight _ _) fun _ =>
    straight_bind (supplyJobs_straight _ _ _) fun _ => straight_pure _

theorem agentCreated_straight (event : StoredEvent) :
    (agentCreated event).Straight (Yielding Request.looks) := by
  unfold agentCreated
  split
  · exact straight_pure _
  · refine straight_bind (lookUp_straight trivial) fun found => ?_
    cases found with
    | none => exact straight_pure _
    | some id => exact straight_bind (prompt_straight trivial rfl) fun _ => straight_pure _

theorem clientOffered_straight (event : StoredEvent) :
    (clientOffered event).Straight (Yielding Request.looks) := by
  unfold clientOffered
  split
  · exact straight_pure _
  · refine straight_bind (lookUp_straight trivial) fun deleted => ?_
    split
    · exact straight_pure _
    · exact straight_bind (prompt_straight trivial rfl) fun _ => straight_pure _

theorem clientPoppedUp_straight (event : StoredEvent) :
    (clientPoppedUp event).Straight (Yielding Request.looks) := by
  unfold clientPoppedUp
  split
  · exact straight_pure _
  · refine straight_bind (lookUp_straight trivial) fun found => ?_
    cases found with
    | some id => exact straight_pure _
    | none => exact straight_bind (prompt_straight trivial rfl) fun _ => straight_pure _

theorem offeringJobs_straight (role : Role) (event : StoredEvent) (kind : EventKind) :
    (offeringJobs role event kind).Straight (Yielding Request.looks) := by
  unfold offeringJobs
  split
  · refine straight_bind (lookUp_straight trivial) fun found => ?_
    cases found <;> exact straight_pure _
  · exact straight_pure _

theorem accountJobs_straight (event : StoredEvent) (type : JobType) (addresses : List Address) :
    (accountJobs event type addresses).Straight (Yielding Request.looks) := by
  refine straight_bind (lookUp_straight trivial) fun found => ?_
  cases found <;> exact straight_pure _

theorem approvalJobs_straight (event : StoredEvent) :
    (approvalJobs event).Straight (Yielding Request.looks) := by
  unfold approvalJobs
  split
  · exact straight_pure _
  · exact accountJobs_straight _ _ _

theorem transferJobs_straight (contracts : Contracts) (event : StoredEvent) :
    (transferJobs contracts event).Straight (Yielding Request.looks) := by
  unfold transferJobs
  split
  · exact accountJobs_straight _ _ _
  · exact straight_pure _

/-- What takes time while the jobs of an event are made ends at a cancellation. -/
theorem produce_straight (profile : Profile) (event : StoredEvent) (batch : List Job) :
    (produce profile event batch).Straight (Yielding Request.looks) := by
  unfold produce
  split
  · exact straight_pure _
  · exact approvalJobs_straight _
  · exact transferJobs_straight _ _
  · exact agentCreated_straight _
  · exact clientCreated_straight _ _
  · exact clientClosed_straight _ _ _ _ _
  · exact clientClosed_straight _ _ _ _ _
  · exact channelJobs_straight _ _ _
  · exact channelJobs_straight _ _ _
  · exact channelJobs_straight _ _ _
  · exact channelJobs_straight _ _ _
  · exact clientOffered_straight _
  · exact clientPoppedUp_straight _
  · exact offeringJobs_straight _ _ _
  · exact offeringJobs_straight _ _ _
  · exact offeringJobs_straight _ _ _

/-- The jobs of an event are made by lookups and fresh ids alone. -/
theorem produce_asks (profile : Profile) (event : StoredEvent) (batch : List Job) :
    (produce profile event batch).Asks Request.looks :=
  (produce_straight profile event batch).asks_of_yielding

end Cycle

/-- A job that changes a supply answers a client's event that does. -/
theorem changesSupply_of_mem_calledFor {profile : Profile} {log : Log} {type : JobType}
    (called : type ∈ calledFor profile log) (supply : type.changesSupply = true) :
    profile.role = .client ∧
      ∃ kind, log.kind = some kind ∧ kind.changesSupply = true ∧ type = supplyType kind := by
  unfold calledFor at called
  generalize profile.role = role at called ⊢
  generalize log.kind = kind? at called ⊢
  rcases kind? with _ | kind
  · cases role <;> cases called
  · cases role <;> cases kind <;>
      simp only [entityJob, Option.toList, List.mem_cons, List.not_mem_nil, or_false] at called <;>
      rcases called with rfl | rfl | rfl <;>
      first
        | exact ⟨rfl, _, rfl, rfl, rfl⟩
        | cases supply
        | (split at supply <;> cases supply)

/-- A job that announces an offering answers a client's event that does. -/
theorem announcing_of_mem_calledFor {profile : Profile} {log : Log} {type : JobType}
    (called : type ∈ calledFor profile log) (announces : type.announcesOffering = true) :
    profile.role = .client ∧
      (log.kind = some .offeringCreated ∨ log.kind = some .offeringPoppedUp) := by
  unfold calledFor at called
  generalize profile.role = role at called ⊢
  generalize log.kind = kind? at called ⊢
  rcases kind? with _ | kind
  · cases role <;> cases called
  · cases role <;> cases kind <;>
      simp only [entityJob, Option.toList, List.mem_cons, List.not_mem_nil, or_false] at called <;>
      rcases called with rfl | rfl | rfl <;>
      first
        | exact ⟨rfl, .inl rfl⟩
        | exact ⟨rfl, .inr rfl⟩
        | cases announces
        | (split at announces <;> cases announces)

end ChannelWatch
