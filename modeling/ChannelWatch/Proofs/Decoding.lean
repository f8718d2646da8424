import ChannelWatch.Log.Draft
import ChannelWatch.Proofs.Dispatch

/-!
# What channel events decode to

A drafted channel event is read in two places: for the channel that it is about, and for the
recording of a closing. `ReadsBack` says that both read what the event was drafted from, and
`ReadsAlike` that they agree on every log, drafted or not. The main statement is
`Cycle.reads_channel_events`.
-/

namespace ChannelWatch
set_option autoImplicit false

/-- The low bytes of a number stand last. -/
theorem bigEndian_add (high low value : Nat) :
    bigEndian (high + low) value =
      bigEndian high (value / capacity low) ++ bigEndian low value := by
  induction low generalizing value with
  | zero => simp [bigEndian, capacity]
  | succ low ih =>
    rw [← Nat.add_assoc, bigEndian, ih, bigEndian, capacity, Nat.div_div_eq_div_mul,
      List.append_assoc]

theorem drop_bigEndian {width size : Nat} (value : Nat) (within : size ≤ width) :
    (bigEndian width value).drop (width - size) = bigEndian size value := by
  obtain ⟨high, rfl⟩ := Nat.exists_eq_add_of_le' within
  rw [bigEndian_add, Nat.add_sub_cancel, List.drop_left' (length_bigEndian _ _)]

theorem drop_flatMap_words (words : List Hash) (index : Nat) :
    (words.flatMap Octets.toList).drop (32 * index) =
      (words.drop index).flatMap Octets.toList := by
  induction index generalizing words with
  | zero => rfl
  | succ index ih =>
    cases words with
    | nil => simp
    | cons word words =>
      rw [List.flatMap_cons, List.drop_succ_cons, ← ih, Nat.mul_succ, Nat.add_comm,
        ← List.drop_drop, List.drop_left' word.length_toList]

/-- The end of a word that holds a number is the number, as far as it fits. -/
theorem wordTail_words {words : List Hash} {index value size : Nat}
    (found : words[index]? = some (Draft.word value)) (within : size ≤ 32) :
    Log.wordTail (words.flatMap Octets.toList) index size = value % capacity size := by
  obtain ⟨inside, here⟩ := List.getElem?_eq_some_iff.1 found
  have row : words.drop index = Draft.word value :: words.drop (index + 1) := by
    rw [List.drop_eq_getElem_cons inside, here]
  have tail : (Draft.word value).toList.drop (32 - size) = bigEndian size value :=
    drop_bigEndian value within
  have long : 32 - size ≤ (Draft.word value).toList.length := by
    rw [(Draft.word value).length_toList]
    omega
  rw [Log.wordTail, ← List.drop_drop, drop_flatMap_words, row, List.flatMap_cons,
    List.drop_append_of_le_length long, tail, List.take_left' (length_bigEndian _ _),
    ofBigEndian_bigEndian]

namespace Log

variable {log : Log} {closing : ClosingKind}

theorem closingTerms?_isSome_iff :
    (log.closingTerms? closing).isSome ↔
      log.kind = some closing.event ∧ log.topics.length = 4 ∧ 64 ≤ log.data.length := by
  unfold closingTerms?
  split <;> simp_all

/-- On a closing both decoders succeed together, with the same open block. -/
theorem openBlock_closingTerms? (known : log.kind = some closing.event) :
    (log.closingTerms? closing).map ClosingTerms.openBlock = log.openBlock? := by
  have carries : closing.event.carriesOpenBlock = true := by cases closing <;> rfl
  rw [openBlock?_of_carries known carries, closingTerms?, known]
  by_cases complete : log.topics.length = 4 ∧ 64 ≤ log.data.length
  · simp [complete]
  · simp [complete]

theorem topicAddress_isSome {position : Nat} (within : position < log.topics.length) :
    ∃ address, log.topicAddress position = some address := by
  rw [topicAddress, topic, List.getElem?_eq_getElem within]
  exact ⟨_, rfl⟩

end Log

/-- The payloads of the jobs that record closings. -/
def closingPayloads (jobs : List Job) : List (Option Payload) :=
  (jobs.filter fun job => job.type = .clientRecordClosing).map Job.payload?

theorem closingPayloads_append (first second : List Job) :
    closingPayloads (first ++ second) = closingPayloads first ++ closingPayloads second := by
  rw [closingPayloads, List.filter_append, List.map_append]
  rfl

theorem closingPayloads_of_types {jobs : List Job} {types : List JobType}
    (within : (jobs.map Job.type).Sublist types) (others : .clientRecordClosing ∉ types) :
    closingPayloads jobs = [] := by
  rw [closingPayloads, List.map_eq_nil_iff, List.filter_eq_nil_iff]
  intro job mem same
  refine others ?_
  rw [← of_decide_eq_true same]
  exact within.subset (List.mem_map_of_mem mem)

namespace Cycle

variable {acts : List Act} {jobs batch : List Job} {event : StoredEvent} {closing : ClosingKind}

/-- A closing is recorded if its terms decode, and with these terms. -/
theorem closingPayloads_closingJobs {rateAfter : UInt32}
    (given : (closingJobs rateAfter event closing).Gives acts jobs) :
    (event.log.closingTerms? closing = none → closingPayloads jobs = []) ∧
      ∀ terms agent client, event.log.closingTerms? closing = some terms →
        event.log.topicAddress 1 = some agent → event.log.topicAddress 2 = some client →
        ∃ id due, closingPayloads jobs =
          [some ⟨event.log, some ⟨id, closing, agent, client, terms.balance, terms.openBlock⟩,
            due⟩] := by
  unfold closingJobs at given
  refine ⟨fun undecoded => ?_, fun terms agent client decoded payee payer => ?_⟩
  · rw [undecoded] at given
    obtain ⟨rfl, rfl⟩ := gives_pure_iff.1 given
    rfl
  · simp only [decoded, payee, payer, gives_bind_iff, gives_pure_iff] at given
    obtain ⟨id, _, _, rfl, -, due, _, _, rfl, -, relatedId, _, _, rfl, -, rfl, rfl⟩ := given
    refine ⟨id, due, ?_⟩
    simp [closingPayloads, Job.withPayload, Job.payload?, Payload.ofJson?_toJson]

/-- A client's jobs for a closing record it where the recording of closings does. -/
theorem produce_closing {profile : Profile} (client : profile.role = .client)
    (known : event.log.kind = some closing.event)
    (given : (produce profile event batch).Gives acts jobs) :
    ∃ own recorded, (closingJobs profile.rateAfter event closing).Gives own recorded ∧
      closingPayloads jobs = closingPayloads recorded := by
  have closed :
      (clientClosed profile.rateAfter event closing.event closing batch).Gives acts jobs := by
    unfold produce at given
    rw [known, client] at given
    cases closing <;> exact given
  simp only [clientClosed, gives_bind_iff, gives_pure_iff] at closed
  obtain ⟨channel, first, _, rfl, entity, recorded, own, _, rfl, recording, supply, third, _, rfl,
    changed, rfl, rfl⟩ := closed
  have entity := channelJobs_made known (by cases closing <;> rfl) (.inl rfl) entity
  have changed := supplyJobs_made rfl changed
  refine ⟨own, recorded, recording, ?_⟩
  rw [closingPayloads_append, closingPayloads_append,
    closingPayloads_of_types entity.types (by cases closing <;> decide),
    closingPayloads_of_types changed.types (by decide), List.nil_append, List.append_nil]

end Cycle

namespace Draft

variable (draft : Draft) (kind : EventKind) (indexed words : List Hash)

theorem kind_emit : (draft.emit kind indexed words).kind = some kind :=
  EventKind.ofSignature?_signature kind

theorem data_emit : (draft.emit kind indexed words).data = words.flatMap Octets.toList := rfl

theorem length_data_emit : (draft.emit kind indexed words).data.length = 32 * words.length := by
  simp [data_emit, List.length_flatMap, Octets.length_toList, Nat.mul_comm]

variable (agent client : Address) (offering : Hash) (openBlock : UInt32) (amount : UInt64)

/-- The log of an event of a channel that was opened earlier. -/
def channelLog : Log :=
  draft.emit kind [agent.toTopic, client.toTopic, offering]
    [word openBlock.toNat, word amount.toNat]

theorem kind_channelLog :
    (draft.channelLog kind agent client offering openBlock amount).kind = some kind :=
  kind_emit _ _ _ _

theorem long_channelLog :
    64 ≤ (draft.channelLog kind agent client offering openBlock amount).data.length := by
  rw [channelLog, length_data_emit]
  exact Nat.le_refl 64

variable {kind}

theorem channelEvent?_eq (carries : kind.carriesOpenBlock = true) :
    draft.channelEvent? kind agent client offering openBlock amount =
      some (draft.channelLog kind agent client offering openBlock amount) := by
  cases kind <;> first | rfl | cases carries

theorem wordTail_openBlock :
    Log.wordTail (draft.channelLog kind agent client offering openBlock amount).data 0 4 =
      openBlock.toNat := by
  rw [channelLog, data_emit, wordTail_words List.getElem?_cons_zero (by decide)]
  exact Nat.mod_eq_of_lt openBlock.toNat_lt

theorem wordTail_amount :
    Log.wordTail (draft.channelLog kind agent client offering openBlock amount).data 1 24 =
      amount.toNat := by
  have second : [word openBlock.toNat, word amount.toNat][1]? = some (word amount.toNat) := rfl
  rw [channelLog, data_emit, wordTail_words second (by decide)]
  exact Nat.mod_eq_of_lt (Nat.lt_trans amount.toNat_lt (by decide))

theorem openBlock?_channelLog (carries : kind.carriesOpenBlock = true) :
    (draft.channelLog kind agent client offering openBlock amount).openBlock? =
      some openBlock.toUInt64 := by
  have known := draft.kind_channelLog kind agent client offering openBlock amount
  have long := draft.long_channelLog kind agent client offering openBlock amount
  have four :
      (draft.channelLog kind agent client offering openBlock amount).topics.length = 4 := rfl
  rw [Log.openBlock?_of_carries known carries, wordTail_openBlock]
  simp [four, long]

theorem closingTerms?_channelLog {closing : ClosingKind} (closes : kind = closing.event) :
    (draft.channelLog kind agent client offering openBlock amount).closingTerms? closing =
      some ⟨openBlock.toUInt64, BitVec.ofNat 256 amount.toNat⟩ := by
  have known := draft.kind_channelLog kind agent client offering openBlock amount
  have long := draft.long_channelLog kind agent client offering openBlock amount
  have four :
      (draft.channelLog kind agent client offering openBlock amount).topics.length = 4 := rfl
  rw [Log.closingTerms?, known, wordTail_openBlock, wordTail_amount]
  subst closes
  simp [four, long]

end Draft

namespace Cycle

/-- The channel of an event that refers to an earlier block is looked up by its key alone. -/
theorem findChannel_of_named {log : Log} {kind : EventKind} {key : ChannelKey}
    (other : kind ≠ .channelCreated) (named : channelKey? log 0 = some { key with openBlock := 0 })
    (opened : log.openBlock? = some key.openBlock) :
    findChannel log kind = lookUp (.channelByKey key) := by
  have block : channelOpenBlock? log kind = some key.openBlock := (if_neg other).trans opened
  rw [findChannel, named, block]
  simp [other]

section

variable (log : Log) (kind : EventKind) (agent client : Address) (offering : Hash)
  (openBlock : UInt32) (amount : UInt64)

/-- Both decoders read what a channel event was drafted from. -/
structure ReadsBack : Prop where
  known : log.kind = some kind
  payee : log.topicAddress 1 = some agent
  payer : log.topicAddress 2 = some client
  offered : log.topic 3 = some offering
  opened : log.openBlock? = some openBlock.toUInt64
  /-- The event is about the first channel on file under its key. -/
  channel : ∀ acts found, (findChannel log kind).Gives acts found ↔
    ∃ site, acts = [⟨site, .store (.channelByKey ⟨offering, agent, client, openBlock.toUInt64⟩)⟩] ∧
      site.world.store.available = true ∧
      found = (site.world.store.channels.find? fun channel =>
        channel.key = ⟨offering, agent, client, openBlock.toUInt64⟩).map Channel.id
  /-- Where it is a closing, a client records it with these terms. -/
  recorded : ∀ closing : ClosingKind, kind = closing.event → ∀ profile event batch acts jobs,
    profile.role = .client → event.log = log → (produce profile event batch).Gives acts jobs →
      ∃ id due, closingPayloads jobs = [some ⟨log, some ⟨id, closing, agent, client,
        BitVec.ofNat 256 amount.toNat, openBlock.toUInt64⟩, due⟩]

/-- Both decoders take the same logs, and read the same open block. -/
structure ReadsAlike : Prop where
  decodes : log.openBlock?.isSome ↔
    (∃ kind, log.kind = some kind ∧ kind.carriesOpenBlock = true) ∧ log.topics.length = 4 ∧
      64 ≤ log.data.length
  terms : ∀ closing : ClosingKind, log.kind = some closing.event →
    (log.closingTerms? closing).map ClosingTerms.openBlock = log.openBlock?
  recorded : ∀ closing : ClosingKind, log.kind = some closing.event →
    ∀ profile event batch acts jobs, profile.role = .client → event.log = log →
      (produce profile event batch).Gives acts jobs →
        (log.openBlock? = none → closingPayloads jobs = []) ∧
          ∀ openBlock, log.openBlock? = some openBlock → ∃ record due,
            closingPayloads jobs = [some ⟨log, some record, due⟩] ∧ record.openBlock = openBlock

end

theorem readsAlike (log : Log) : ReadsAlike log := by
  refine ⟨log.openBlock?_isSome_iff, fun closing known => Log.openBlock_closingTerms? known, ?_⟩
  intro closing known profile event batch acts jobs client same given
  subst same
  obtain ⟨own, recorded, recording, payloads⟩ := produce_closing client known given
  obtain ⟨nothing, something⟩ := closingPayloads_closingJobs recording
  rw [payloads, ← Log.openBlock_closingTerms? known]
  refine ⟨fun undecoded => nothing (Option.map_eq_none_iff.1 undecoded), ?_⟩
  intro openBlock decoded
  obtain ⟨terms, found, rfl⟩ := Option.map_eq_some_iff.1 decoded
  have complete := Log.closingTerms?_isSome_iff.1 (Option.isSome_of_eq_some found)
  have first : 1 < event.log.topics.length := by
    rw [complete.2.1]
    decide
  have second : 2 < event.log.topics.length := by
    rw [complete.2.1]
    decide
  obtain ⟨agent, payee⟩ := Log.topicAddress_isSome first
  obtain ⟨client, payer⟩ := Log.topicAddress_isSome second
  obtain ⟨id, due, payload⟩ := something terms agent client found payee payer
  exact ⟨_, due, payload, rfl⟩

theorem readsBack (draft : Draft) {kind : EventKind} (carries : kind.carriesOpenBlock = true)
    (agent client : Address) (offering : Hash) (openBlock : UInt32) (amount : UInt64) :
    ReadsBack (draft.channelLog kind agent client offering openBlock amount) kind agent client
      offering openBlock amount := by
  have known := draft.kind_channelLog kind agent client offering openBlock amount
  have opened := draft.openBlock?_channelLog agent client offering openBlock amount carries
  have payee : (draft.channelLog kind agent client offering openBlock amount).topicAddress 1 =
      some agent := congrArg some (Address.ofTopic_toTopic agent)
  have payer : (draft.channelLog kind agent client offering openBlock amount).topicAddress 2 =
      some client := congrArg some (Address.ofTopic_toTopic client)
  have offered : (draft.channelLog kind agent client offering openBlock amount).topic 3 =
      some offering := rfl
  refine ⟨known, payee, payer, offered, opened, fun acts found => ?_, ?_⟩
  · have other : kind ≠ .channelCreated := by
      rintro rfl
      cases carries
    let key : ChannelKey := ⟨offering, agent, client, openBlock.toUInt64⟩
    have named : channelKey? (draft.channelLog kind agent client offering openBlock amount) 0 =
        some { key with openBlock := 0 } := by
      rw [channelKey?, payee, payer, offered]
      rfl
    have opened : (draft.channelLog kind agent client offering openBlock amount).openBlock? =
        some key.openBlock := opened
    rw [findChannel_of_named other named opened, gives_lookUp_iff]
    simp only [Store.grant, Store.channel?, Except.ok.injEq, eq_comm, key]
  · intro closing closes profile event batch acts jobs acting same given
    have decoded :=
      draft.closingTerms?_channelLog agent client offering openBlock amount closes
    rw [← same] at known payee payer decoded ⊢
    obtain ⟨own, recorded, recording, payloads⟩ :=
      produce_closing acting (known.trans (congrArg some closes)) given
    rw [payloads]
    exact (closingPayloads_closingJobs recording).2 _ agent client decoded payee payer

/-- A drafted channel event is read back in full wherever it is read; and on every log the two
decoders agree whether there is an open block, and which. -/
theorem reads_channel_events :
    (∀ (draft : Draft) (kind : EventKind) (agent client : Address) (offering : Hash)
      (openBlock : UInt32) (amount : UInt64), kind.carriesOpenBlock = true →
        ∃ log, draft.channelEvent? kind agent client offering openBlock amount = some log ∧
          ReadsBack log kind agent client offering openBlock amount) ∧
      ∀ log, ReadsAlike log := by
  refine ⟨fun draft kind agent client offering openBlock amount carries => ?_, readsAlike⟩
  exact ⟨_, draft.channelEvent?_eq agent client offering openBlock amount carries,
    readsBack draft carries agent client offering openBlock amount⟩

/-- The closing on file is a drafted one, and a client records what it was drafted from. -/
theorem read_closing :
    EventKind.cooperativeClose.carriesOpenBlock = true ∧
      Draft.channelEvent? ⟨Sample.contracts.service, 10, some (.ofNat 32 7), false⟩
        .cooperativeClose (.ofNat 20 0xa9e1) (.ofNat 20 0xc1e1) Sample.offering 5 1 =
          some Sample.closing ∧
      ReadsBack Sample.closing .cooperativeClose (.ofNat 20 0xa9e1) (.ofNat 20 0xc1e1)
        Sample.offering 5 1 ∧
      ReadsAlike Sample.closing ∧
      ∃ jobs, (produce Sample.client Sample.closingRow []).Gives Sample.dispatched.acts jobs ∧
        ∃ id due, closingPayloads jobs = [some ⟨Sample.closing, some ⟨id, .cooperative,
          .ofNat 20 0xa9e1, .ofNat 20 0xc1e1, 1, 5⟩, due⟩] := by
  have drafted : Draft.channelEvent? ⟨Sample.contracts.service, 10, some (.ofNat 32 7), false⟩
      .cooperativeClose (.ofNat 20 0xa9e1) (.ofNat 20 0xc1e1) Sample.offering 5 1 =
        some Sample.closing := by decide +kernel
  obtain ⟨log, same, reads⟩ := reads_channel_events.1
    ⟨Sample.contracts.service, 10, some (.ofNat 32 7), false⟩ .cooperativeClose
    (.ofNat 20 0xa9e1) (.ofNat 20 0xc1e1) Sample.offering 5 1 (by decide)
  obtain rfl : log = Sample.closing := Option.some.inj (same.symm.trans drafted)
  obtain ⟨jobs, given, -⟩ := Sample.dispatched_gives
  exact ⟨by decide, drafted, reads, reads_channel_events.2 _, jobs, given,
    reads.recorded .cooperative rfl _ Sample.closingRow _ _ _ rfl rfl given⟩

end Cycle

end ChannelWatch
