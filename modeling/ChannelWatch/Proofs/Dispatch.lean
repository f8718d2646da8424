import Mathlib.Data.List.Nodup
import ChannelWatch.Proofs.Collect
import ChannelWatch.Proofs.Produce

/-!
# Which jobs an event calls for

`entityJob` is the table of the jobs that channels and offerings call for, by role and kind. The
main statement is `Cycle.produce_dispatches`: the jobs of every event agree with it. `InOrder` says
what may stand around the job of the table and where, `OnAccount` what the jobs of the token
contract's events act on.
-/

namespace ChannelWatch
set_option autoImplicit false

namespace EventKind

/-- The event reports that a channel was closed. -/
def isClosing : EventKind → Bool
  | cooperativeClose | uncooperativeClose => true
  | _ => false

/-- The kind of entity that an event is about. -/
def related (kind : EventKind) : RelatedType :=
  if kind.isToken then .account else if kind.isOffering then .offering else .channel

end EventKind

namespace JobType

/-- The kind of entity that a job acts on. -/
def related : JobType → RelatedType
  | agentAfterOfferingPublish | agentAfterOfferingPopUp | agentAfterOfferingDelete
  | clientAfterOfferingPublish | clientAfterOfferingPopUp | clientAfterOfferingDelete
  | decrementSupply | incrementSupply => .offering
  | preAccountAddBalance | afterAccountAddBalance | afterAccountReturnBalance => .account
  | _ => .channel

/-- The role that a job is for; the jobs on accounts are for either. -/
def role? : JobType → Option Role
  | agentAfterChannelCreate | agentAfterChannelTopUp | agentAfterUncooperativeCloseRequest
  | agentAfterCooperativeClose | agentAfterUncooperativeClose | agentAfterOfferingPublish
  | agentAfterOfferingPopUp | agentAfterOfferingDelete => some .agent
  | preAccountAddBalance | afterAccountAddBalance | afterAccountReturnBalance => none
  | _ => some .client

theorem related_of_entityJob {role : Role} {kind : EventKind} {type : JobType}
    (named : entityJob role kind = some type) : type.related = kind.related := by
  cases role <;> cases kind <;> cases named <;> rfl

end JobType

/-- The job acts on an entity of the kind that its type is for. -/
def Job.Fits (job : Job) : Prop := job.relatedType = job.type.related

namespace Cycle

variable {α β : Type}

/-- Whatever the cycle ends with has a property, unless that is an error. -/
def Yields (property : α → Prop) (cycle : Cycle α) : Prop :=
  ∀ acts value, cycle.Gives acts value → property value

theorem yields_pure {property : α → Prop} {value : α} (holds : property value) :
    (pure value : Cycle α).Yields property := by
  intro acts result given
  obtain ⟨-, rfl⟩ := gives_pure_iff.1 given
  exact holds

theorem yields_bind {property : α → Prop} {other : β → Prop} {cycle : Cycle α} {f : α → Cycle β}
    (first : cycle.Yields property) (second : ∀ value, property value → (f value).Yields other) :
    (cycle >>= f).Yields other := by
  intro acts result given
  obtain ⟨value, before, behind, rfl, here, there⟩ := gives_bind_iff.1 given
  exact second value (first before value here) behind result there

theorem yields_anything (cycle : Cycle α) : cycle.Yields fun _ => True := fun _ _ _ => trivial

/-- All jobs that the cycle ends with fit. -/
abbrev MakesFitting (cycle : Cycle (List Job)) : Prop :=
  cycle.Yields fun jobs => ∀ job ∈ jobs, job.Fits

theorem makesFitting_none : (pure [] : Cycle (List Job)).MakesFitting :=
  yields_pure nofun

theorem makesFitting_single {event : StoredEvent} {type : JobType} {related : RelatedType} {id : Id}
    (fits : related = type.related) :
    (pure [event.job type related id] : Cycle (List Job)).MakesFitting := by
  refine yields_pure fun job mem => ?_
  rw [List.mem_singleton.1 mem]
  exact fits

theorem channelJobs_fits {kind : EventKind} (channel : kind.related = .channel) (role : Role)
    (event : StoredEvent) : (channelJobs role event kind).MakesFitting := by
  unfold channelJobs
  split
  · exact makesFitting_none
  · rename_i type named
    refine yields_bind (yields_anything _) fun found _ => ?_
    cases found with
    | none => exact makesFitting_none
    | some id =>
      exact makesFitting_single (channel.symm.trans (JobType.related_of_entityJob named).symm)

theorem offeringJobs_fits {kind : EventKind} (offering : kind.related = .offering) (role : Role)
    (event : StoredEvent) : (offeringJobs role event kind).MakesFitting := by
  unfold offeringJobs
  split
  · rename_i type hash named topic
    refine yields_bind (yields_anything _) fun found _ => ?_
    cases found with
    | none => exact makesFitting_none
    | some id =>
      exact makesFitting_single (offering.symm.trans (JobType.related_of_entityJob named).symm)
  · exact makesFitting_none

theorem closingJobs_fits (rateAfter : UInt32) (event : StoredEvent) (kind : ClosingKind) :
    (closingJobs rateAfter event kind).MakesFitting := by
  unfold closingJobs
  split
  · refine yields_bind (yields_anything _) fun id _ => yields_bind (yields_anything _) fun due _ =>
      yields_bind (yields_anything _) fun related _ => yields_pure fun job mem => ?_
    rw [List.mem_singleton.1 mem]
    rfl
  · exact makesFitting_none

theorem supplyJobs_fits {type : JobType} (offering : type.related = .offering) (event : StoredEvent)
    (batch : List Job) : (supplyJobs event type batch).MakesFitting := by
  refine yields_bind (yields_anything _) fun found _ => ?_
  cases found with
  | none => exact makesFitting_none
  | some id => exact makesFitting_single offering.symm

theorem accountJobs_fits {type : JobType} (account : type.related = .account) (event : StoredEvent)
    (addresses : List Address) : (accountJobs event type addresses).MakesFitting := by
  refine yields_bind (yields_anything _) fun found _ => ?_
  cases found with
  | none => exact makesFitting_none
  | some id => exact makesFitting_single account.symm

theorem agentCreated_fits (event : StoredEvent) : (agentCreated event).MakesFitting := by
  unfold agentCreated
  split
  · exact makesFitting_none
  · refine yields_bind (yields_anything _) fun found _ => ?_
    cases found with
    | none => exact makesFitting_none
    | some offering => exact yields_bind (yields_anything _) fun id _ => makesFitting_single rfl

theorem clientOffered_fits (event : StoredEvent) : (clientOffered event).MakesFitting := by
  unfold clientOffered
  split
  · exact makesFitting_none
  · refine yields_bind (yields_anything _) fun deleted _ => ?_
    split
    · exact makesFitting_none
    · exact yields_bind (yields_anything _) fun id _ => makesFitting_single rfl

theorem clientPoppedUp_fits (event : StoredEvent) : (clientPoppedUp event).MakesFitting := by
  unfold clientPoppedUp
  split
  · exact makesFitting_none
  · refine yields_bind (yields_anything _) fun found _ => ?_
    cases found with
    | some id => exact makesFitting_single rfl
    | none => exact yields_bind (yields_anything _) fun id _ => makesFitting_single rfl

theorem makesFitting_append {first second : List Job} (here : ∀ job ∈ first, job.Fits)
    (there : ∀ job ∈ second, job.Fits) : ∀ job ∈ first ++ second, job.Fits := by
  intro job mem
  rcases List.mem_append.1 mem with mem | mem
  · exact here job mem
  · exact there job mem

theorem clientCreated_fits (event : StoredEvent) (batch : List Job) :
    (clientCreated event batch).MakesFitting := by
  refine yields_bind (yields_anything _) fun found _ =>
    yields_bind (supplyJobs_fits rfl _ _) fun _ supply =>
      yields_pure (makesFitting_append (fun job mem => ?_) supply)
  obtain ⟨id, -, rfl⟩ := Option.map_eq_some_iff.1 (Option.mem_toList.1 mem)
  rfl

theorem clientClosed_fits {kind : EventKind} (channel : kind.related = .channel)
    (rateAfter : UInt32) (event : StoredEvent) (closing : ClosingKind) (batch : List Job) :
    (clientClosed rateAfter event kind closing batch).MakesFitting :=
  yields_bind (channelJobs_fits channel _ _) fun _ channel =>
    yields_bind (closingJobs_fits _ _ _) fun _ closing =>
      yields_bind (supplyJobs_fits rfl _ _) fun _ supply =>
        yields_pure (makesFitting_append (makesFitting_append channel closing) supply)

theorem approvalJobs_fits (event : StoredEvent) : (approvalJobs event).MakesFitting := by
  unfold approvalJobs
  split
  · exact makesFitting_none
  · exact accountJobs_fits rfl _ _

theorem transferJobs_fits (contracts : Contracts) (event : StoredEvent) :
    (transferJobs contracts event).MakesFitting := by
  unfold transferJobs
  split
  · exact accountJobs_fits (by split <;> rfl) _ _
  · exact makesFitting_none

/-- Every job of an event acts on an entity of the kind that its type is for. -/
theorem produce_fits (profile : Profile) (event : StoredEvent) (batch : List Job) :
    (produce profile event batch).MakesFitting := by
  unfold produce
  split
  · exact makesFitting_none
  · exact approvalJobs_fits _
  · exact transferJobs_fits _ _
  · exact agentCreated_fits _
  · exact clientCreated_fits _ _
  · exact clientClosed_fits rfl _ _ _ _
  · exact clientClosed_fits rfl _ _ _ _
  · exact channelJobs_fits rfl _ _
  · exact channelJobs_fits rfl _ _
  · exact channelJobs_fits rfl _ _
  · exact channelJobs_fits rfl _ _
  · exact clientOffered_fits _
  · exact clientPoppedUp_fits _
  · exact offeringJobs_fits rfl _ _
  · exact offeringJobs_fits rfl _ _
  · exact offeringJobs_fits rfl _ _

/-- What comes of the lookup of an account: a job of a type on an account with one of the
addresses, or none where no account has one. -/
inductive AccountCall (event : StoredEvent) (type : JobType) (addresses : List Address) :
    List Act → List Job → Prop where
  | found {site : Site} {account : Account} (mem : account ∈ site.world.store.accounts)
      (named : account.address ∈ addresses) :
      AccountCall event type addresses [⟨site, .store (.accountByAddresses addresses)⟩]
        [event.job type .account account.id]
  | unknown {site : Site}
      (nobody : ∀ account ∈ site.world.store.accounts, account.address ∉ addresses) :
      AccountCall event type addresses [⟨site, .store (.accountByAddresses addresses)⟩] []

theorem accountJobs_calls {event : StoredEvent} {type : JobType} {addresses : List Address}
    {acts : List Act} {jobs : List Job}
    (given : (accountJobs event type addresses).Gives acts jobs) :
    AccountCall event type addresses acts jobs := by
  obtain ⟨found, before, behind, rfl, looked, given⟩ := gives_bind_iff.1 given
  obtain ⟨site, rfl, rfl⟩ := gives_accountByAddresses looked
  unfold Store.account? at given
  cases first : site.world.store.accounts.find? fun account =>
      addresses.contains account.address with
  | none =>
    rw [first] at given
    obtain ⟨rfl, rfl⟩ := gives_pure_iff.1 given
    exact .unknown fun account mem => by simpa using List.find?_eq_none.1 first account mem
  | some account =>
    rw [first] at given
    obtain ⟨rfl, rfl⟩ := gives_pure_iff.1 given
    exact .found (List.mem_of_find?_eq_some first) (by simpa using List.find?_some first)

end Cycle

/-- The job that a channel or offering event may add for the recording of a closing. -/
def closingType? (role : Role) (kind : EventKind) : Option JobType :=
  if role = .client ∧ kind.isClosing = true then some .clientRecordClosing else none

/-- The job that a channel or offering event may add for a change of supply. -/
def supplyType? (role : Role) (kind : EventKind) : Option JobType :=
  if role = .client ∧ kind.changesSupply = true then some (supplyType kind) else none

theorem calledFor_eq {profile : Profile} {log : Log} {kind : EventKind}
    (known : log.kind = some kind) (entity : kind.isToken = false) :
    calledFor profile log = (entityJob profile.role kind).toList ++
      ((closingType? profile.role kind).toList ++
        ((supplyType? profile.role kind).toList ++ [])) := by
  rw [calledFor, known]
  generalize profile.role = role
  cases role <;> cases kind <;> first | rfl | cases entity

/-- A list whose images lie in a row may have an element for the first one. -/
theorem exists_of_map_sublist {α β : Type} {f : α → β} {row : Option β} {tail : List β}
    {list : List α} (sublist : (list.map f).Sublist (row.toList ++ tail)) :
    ∃ (first : Option α) (rest : List α), list = first.toList ++ rest ∧
      (∀ x ∈ first, row = some (f x)) ∧ (rest.map f).Sublist tail := by
  cases row with
  | none => exact ⟨none, list, rfl, nofun, sublist⟩
  | some image =>
    cases list with
    | nil => exact ⟨none, [], rfl, nofun, List.nil_sublist _⟩
    | cons x list =>
      rcases List.sublist_cons_iff.1 sublist with within | ⟨rest, same, within⟩
      · exact ⟨none, x :: list, rfl, nofun, within⟩
      · obtain ⟨rfl, rfl⟩ := List.cons.inj same
        refine ⟨some x, list, rfl, ?_, within⟩
        rintro _ ⟨⟩
        rfl

/-- The jobs of a channel or offering event, in their order: the job of the table, the recording of
a closing, and the change of a supply. -/
structure InOrder (role : Role) (kind : EventKind) (entity closing supply : Option Job) : Prop where
  entity : ∀ job ∈ entity, entityJob role kind = some job.type ∧ job.relatedType = kind.related
  closing : ∀ job ∈ closing, job.type = .clientRecordClosing ∧ job.relatedType = .channel ∧
    role = .client ∧ kind.isClosing = true
  supply : ∀ job ∈ supply, job.relatedType = .offering ∧ role = .client ∧
    (job.type = .decrementSupply ∧ kind = .channelCreated ∨
      job.type = .incrementSupply ∧ kind.isClosing = true)

theorem closingType?_eq_some_iff {role : Role} {kind : EventKind} {type : JobType} :
    closingType? role kind = some type ↔
      type = .clientRecordClosing ∧ role = .client ∧ kind.isClosing = true := by
  rw [closingType?, Option.ite_none_right_eq_some, Option.some.injEq, and_comm, eq_comm]

theorem supplyType?_eq_some_iff {role : Role} {kind : EventKind} {type : JobType} :
    supplyType? role kind = some type ↔ role = .client ∧
      (type = .decrementSupply ∧ kind = .channelCreated ∨
        type = .incrementSupply ∧ kind.isClosing = true) := by
  rw [supplyType?, Option.ite_none_right_eq_some, Option.some.injEq, and_assoc]
  refine and_congr_right fun _ => ?_
  cases kind <;> simp [EventKind.changesSupply, EventKind.isClosing, supplyType, eq_comm]

theorem inOrder_of_calledFor {profile : Profile} {log : Log} {kind : EventKind} {jobs : List Job}
    (known : log.kind = some kind) (token : kind.isToken = false)
    (types : (jobs.map Job.type).Sublist (calledFor profile log)) (fit : ∀ job ∈ jobs, job.Fits) :
    ∃ entity closing supply, InOrder profile.role kind entity closing supply ∧
      jobs = entity.toList ++ closing.toList ++ supply.toList := by
  rw [calledFor_eq known token] at types
  obtain ⟨entity, rest, rfl, named, types⟩ := exists_of_map_sublist types
  obtain ⟨closing, rest, rfl, records, types⟩ := exists_of_map_sublist types
  obtain ⟨supply, rest, rfl, changes, types⟩ := exists_of_map_sublist types
  obtain rfl := List.map_eq_nil_iff.1 (List.sublist_nil.1 types)
  refine ⟨entity, closing, supply, ⟨?_, ?_, ?_⟩, by simp⟩
  · intro job mem
    have type := named job mem
    have fits : job.Fits := fit job (by simp [Option.mem_toList.2 mem])
    exact ⟨type, fits.trans (JobType.related_of_entityJob type)⟩
  · intro job mem
    obtain ⟨type, client, closes⟩ := closingType?_eq_some_iff.1 (records job mem)
    have fits : job.relatedType = job.type.related := fit job (by simp [Option.mem_toList.2 mem])
    rw [type] at fits
    exact ⟨type, fits, client, closes⟩
  · intro job mem
    obtain ⟨client, change⟩ := supplyType?_eq_some_iff.1 (changes job mem)
    have fits : job.relatedType = job.type.related := fit job (by simp [Option.mem_toList.2 mem])
    refine ⟨?_, client, change⟩
    rcases change with ⟨type, -⟩ | ⟨type, -⟩ <;> rw [fits, type] <;> rfl

/-- The roles that the jobs of an event are for. -/
theorem role?_of_mem_calledFor {profile : Profile} {log : Log} {type : JobType}
    (called : type ∈ calledFor profile log) :
    ∃ kind, log.kind = some kind ∧
      type.role? = if kind.isToken then none else some profile.role := by
  unfold calledFor at called
  generalize profile.role = role at called ⊢
  generalize log.kind = kind? at called ⊢
  rcases kind? with _ | kind
  · cases role <;> cases called
  · cases role <;> cases kind <;>
      simp only [entityJob, Option.toList, List.mem_cons, List.not_mem_nil, or_false] at called <;>
      rcases called with rfl | rfl | rfl <;>
      first
        | exact ⟨_, rfl, rfl⟩
        | (split <;> exact ⟨_, rfl, rfl⟩)

namespace Cycle

section

variable {event : StoredEvent} (profile : Profile) (batch : List Job)

theorem produce_unknown (unknown : event.log.kind = none) :
    produce profile event batch = pure [] := by
  unfold produce
  rw [unknown]

theorem produce_approval (known : event.log.kind = some .approval) :
    produce profile event batch = approvalJobs event := by
  unfold produce
  rw [known]

theorem produce_transfer (known : event.log.kind = some .transfer) :
    produce profile event batch = transferJobs profile.contracts event := by
  unfold produce
  rw [known]

/-- What the token contract reports calls for the same jobs whatever the role is. -/
theorem produce_token {kind : EventKind} (known : event.log.kind = some kind)
    (token : kind.isToken = true) (role : Role) :
    produce { profile with role } event batch = produce profile event batch := by
  cases kind with
  | approval => rw [produce_approval _ _ known, produce_approval _ _ known]
  | transfer => rw [produce_transfer _ _ known, produce_transfer _ _ known]
  | _ => cases token

end

/-- The jobs of an event agree with the table of entity jobs, for its role and kind. -/
structure Dispatched (profile : Profile) (event : StoredEvent) (batch : List Job)
    (acts : List Act) (jobs : List Job) : Prop where
  unknown : event.log.kind = none → jobs = []
  distinct : (jobs.map Job.type).Nodup
  inOrder : ∀ kind, event.log.kind = some kind → kind.isToken = false →
    ∃ entity closing supply, InOrder profile.role kind entity closing supply ∧
      jobs = entity.toList ++ closing.toList ++ supply.toList
  /-- The account of an approval is that of its owner. -/
  approval : event.log.kind = some .approval → ∀ owner, event.log.topicAddress 1 = some owner →
    AccountCall event .preAccountAddBalance [owner] acts jobs
  /-- The account of a transfer is that of its sender or receiver. -/
  transfer : event.log.kind = some .transfer → ∀ sender receiver,
    event.log.topicAddress 1 = some sender → event.log.topicAddress 2 = some receiver →
      AccountCall event
        (if sender = profile.contracts.service then .afterAccountReturnBalance
          else .afterAccountAddBalance)
        [sender, receiver] acts jobs
  /-- An event of the token contract that names no such address calls for nothing. -/
  nameless : event.log.kind = some .approval ∧ event.log.topicAddress 1 = none ∨
      event.log.kind = some .transfer ∧
        (event.log.topicAddress 1 = none ∨ event.log.topicAddress 2 = none) → jobs = []
  /-- What the token contract reports calls for the same jobs whatever the role is. -/
  alike : ∀ kind, event.log.kind = some kind → kind.isToken = true →
    ∀ role, (produce { profile with role } event batch).Gives acts jobs
  /-- All other jobs are for the role that makes them. -/
  apart : ∀ job ∈ jobs, ∃ kind, event.log.kind = some kind ∧
    job.type.role? = if kind.isToken then none else some profile.role

/-- The jobs of every event are those that the table names for its role and kind, with what a client
adds for closings and supplies; those of the token contract's events do not depend on the role. -/
theorem produce_dispatches {profile : Profile} {event : StoredEvent} {batch : List Job}
    {acts : List Act} {jobs : List Job} (given : (produce profile event batch).Gives acts jobs) :
    Dispatched profile event batch acts jobs := by
  have made := produce_made given
  have called : ∀ job ∈ jobs, job.type ∈ calledFor profile event.log :=
    fun job mem => made.types.subset (List.mem_map_of_mem mem)
  constructor
  case unknown =>
    intro unknown
    rw [produce_unknown _ _ unknown] at given
    exact (gives_pure_iff.1 given).2
  case distinct => exact (nodup_calledFor profile event.log).sublist made.types
  case inOrder =>
    intro kind known token
    exact inOrder_of_calledFor known token made.types (produce_fits _ _ _ acts jobs given)
  case approval =>
    intro known owner named
    rw [produce_approval _ _ known, approvalJobs, named] at given
    exact accountJobs_calls given
  case transfer =>
    intro known sender receiver sent received
    rw [produce_transfer _ _ known, transferJobs, sent, received] at given
    exact accountJobs_calls given
  case nameless =>
    rintro (⟨known, unnamed⟩ | ⟨known, unnamed⟩)
    · rw [produce_approval _ _ known, approvalJobs, unnamed] at given
      exact (gives_pure_iff.1 given).2
    · have nothing : transferJobs profile.contracts event = pure [] := by
        rw [transferJobs]
        rcases unnamed with unnamed | unnamed
        · rw [unnamed]
        · rw [unnamed]
          cases event.log.topicAddress 1 <;> rfl
      rw [produce_transfer _ _ known, nothing] at given
      exact (gives_pure_iff.1 given).2
  case alike =>
    intro kind known token role
    rw [produce_token _ _ known token]
    exact given
  case apart => exact fun job mem => role?_of_mem_calledFor (called job mem)

end Cycle

/-! A client has a channel and its offering on file when the channel is closed. -/

namespace Sample

def outfitted : Site :=
  let site := ready [] [(offering, Id.counted 0)]
  let channel : Channel :=
    ⟨Id.counted 1, ⟨offering, .ofNat 20 0xa9e1, .ofNat 20 0xc1e1, 5⟩, none⟩
  { site with
    world := { site.world with store := { site.world.store with channels := [channel] } } }

def closingRow : StoredEvent := ⟨Id.counted 2, closing, none, 0⟩

def dispatched : Program.Solo (Except CycleError (List Job)) :=
  (Cycle.produce client closingRow []).run.alone outfitted

theorem dispatched_gives :
    ∃ jobs, (Cycle.produce client closingRow []).Gives dispatched.acts jobs ∧
      jobs.map Job.type =
        [.clientAfterCooperativeClose, .clientRecordClosing, .incrementSupply] := by
  have types : dispatched.value.map (List.map Job.type) =
      .ok [.clientAfterCooperativeClose, .clientRecordClosing, .incrementSupply] := by
    decide +kernel
  cases value : dispatched.value with
  | error e =>
    rw [value] at types
    cases types
  | ok jobs =>
    rw [value] at types
    refine ⟨jobs, ?_, Except.ok.inj types⟩
    rw [Cycle.Gives, ← value]
    exact Program.alone_course _ _

end Sample

namespace Cycle

/-- The closing calls for a job of each kind. -/
theorem dispatched_closing :
    ∃ jobs, (produce Sample.client Sample.closingRow []).Gives Sample.dispatched.acts jobs ∧
      Dispatched Sample.client Sample.closingRow [] Sample.dispatched.acts jobs ∧
      jobs.map Job.type =
        [.clientAfterCooperativeClose, .clientRecordClosing, .incrementSupply] := by
  obtain ⟨jobs, given, types⟩ := Sample.dispatched_gives
  exact ⟨jobs, given, produce_dispatches given, types⟩

end Cycle

end ChannelWatch
