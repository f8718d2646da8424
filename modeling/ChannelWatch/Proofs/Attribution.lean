import ChannelWatch.Proofs.Supply

/-!
# Which channel an event is about

A channel that is found by its key bears what the event names: the offering, both parties and the
open block. One that is found by the recorded transaction need not, as its key is not looked at;
that is how a channel is found where the open block does not decode, or nothing is stored under the
key of a created channel. The main statement is `attributed_iff`.
-/

namespace ChannelWatch
set_option autoImplicit false

/-- The topics of a log name the offering and the parties of a key. -/
structure ChannelKey.Named (key : ChannelKey) (log : Log) : Prop where
  offering : log.topic 3 = some key.offering
  agent : log.topicAddress 1 = some key.agent
  client : log.topicAddress 2 = some key.client

/-- What a log leaves open of a key is the open block. -/
theorem ChannelKey.Named.eq {log : Log} {key other : ChannelKey} (named : key.Named log)
    (too : other.Named log) : other = { key with openBlock := other.openBlock } := by
  have offering := Option.some.inj (too.offering.symm.trans named.offering)
  have agent := Option.some.inj (too.agent.symm.trans named.agent)
  have client := Option.some.inj (too.client.symm.trans named.client)
  rw [← offering, ← agent, ← client]

namespace Store

variable {store : Store} {condition : Channel → Bool}

theorem channel?_eq_some_iff {id : Id} :
    store.channel? condition = some id ↔
      ∃ channel, store.channels.find? condition = some channel ∧ channel.id = id :=
  Option.map_eq_some_iff

theorem channel?_eq_none_iff :
    store.channel? condition = none ↔ ∀ channel ∈ store.channels, ¬ condition channel := by
  rw [channel?, Option.map_eq_none_iff, List.find?_eq_none]

end Store

namespace Cycle

/-- The key that a log names is not looked up, or it is that of a created channel and nothing is
stored under it. -/
def Unkeyed (log : Log) (kind : EventKind) (store : Store) : Prop :=
  channelOpenBlock? log kind = none ∨
    kind = .channelCreated ∧
      ∀ channel ∈ store.channels, channel.key.Named log → channel.key.openBlock ≠ log.block

/-- How a channel comes to be taken for that of a log: `first` is the store when the search begins,
and `last` is the store when it ends. -/
inductive Attributes (log : Log) (kind : EventKind) (first last : Store) (channel : Channel) :
    Prop where
  /-- It is the first channel stored under the key that the log names. -/
  | byKey (named : channel.key.Named log)
      (opened : channelOpenBlock? log kind = some channel.key.openBlock)
      (found : first.channels.find? (fun other => other.key = channel.key) = some channel)
  /-- It is the first channel recorded under the transaction of the log. -/
  | byTransaction (names : ∃ key : ChannelKey, key.Named log) (unkeyed : Unkeyed log kind first)
      (found : last.channels.find? (fun other => other.tx = some log.tx) = some channel)

variable {log : Log} {kind : EventKind} {key : ChannelKey} {openBlock : BlockNumber}

theorem named_of_channelKey? (read : channelKey? log openBlock = some key) : key.Named log := by
  simp only [channelKey?, Option.bind_eq_bind, Option.bind_eq_some_iff, Option.some.injEq] at read
  obtain ⟨agent, first, client, second, offering, third, rfl⟩ := read
  exact ⟨third, first, second⟩

theorem channelOpenBlock?_of_ne (other : kind ≠ .channelCreated) :
    channelOpenBlock? log kind = log.openBlock? :=
  if_neg other

theorem key_eq_of_opened {other : ChannelKey} (named : key.Named log)
    (opened : channelOpenBlock? log kind = some openBlock) (too : other.Named log)
    (same : channelOpenBlock? log kind = some other.openBlock) :
    other = { key with openBlock } := by
  rw [Option.some.inj (opened.symm.trans same)]
  exact named.eq too

theorem channelOpenBlock?_created : channelOpenBlock? log .channelCreated = some log.block :=
  if_pos rfl

/-- Where there is a key to look up, a search goes on behind it exactly if it finds nothing and the
channel was created. -/
theorem unkeyed_iff {store : Store} (named : key.Named log)
    (opened : channelOpenBlock? log kind = some openBlock) :
    Unkeyed log kind store ↔
      kind = .channelCreated ∧
        (store.channel? fun channel => channel.key = { key with openBlock }) = none := by
  rw [Store.channel?_eq_none_iff, Unkeyed, opened]
  constructor
  · rintro (undecoded | ⟨rfl, nothing⟩)
    · cases undecoded
    · obtain rfl := Option.some.inj (channelOpenBlock?_created.symm.trans opened)
      refine ⟨rfl, fun channel mem same => ?_⟩
      have same : channel.key = { key with openBlock := log.block } := by simpa using same
      refine nothing channel mem ?_ (congrArg ChannelKey.openBlock same)
      rw [same]
      exact ⟨named.offering, named.agent, named.client⟩
  · rintro ⟨rfl, nothing⟩
    obtain rfl := Option.some.inj (channelOpenBlock?_created.symm.trans opened)
    refine .inr ⟨rfl, fun channel mem too same => nothing channel mem ?_⟩
    have bears := named.eq too
    rw [same] at bears
    simpa using bears

/-- A search finds the channel that is attributed to the log, if there is one. -/
theorem ChannelSearch.finds_iff {acts : List Act} {found : Option Id}
    (search : ChannelSearch log kind acts found) (id : Id) :
    found = some id ↔
      ∃ first ∈ acts.head?, ∃ last ∈ acts.getLast?, ∃ channel,
        Attributes log kind first.site.world.store last.site.world.store channel ∧
          channel.id = id := by
  cases search with
  | unnamed unnamed => simp
  | undecoded read undecoded =>
    have named := named_of_channelKey? read
    simp only [List.head?_cons, List.getLast?_singleton, Option.mem_some_iff, exists_eq_left']
    rw [Store.channel?_eq_some_iff]
    refine exists_congr fun channel => and_congr_left fun _ => ⟨?_, ?_⟩
    · exact .byTransaction ⟨_, named⟩ (.inl undecoded)
    · intro attributes
      cases attributes with
      | byKey _ opened =>
        rw [undecoded] at opened
        cases opened
      | byTransaction _ _ found => exact found
  | @keyed key openBlock site read opened settled =>
    have named := named_of_channelKey? read
    simp only [List.head?_cons, List.getLast?_singleton, Option.mem_some_iff, exists_eq_left']
    rw [Store.channel?_eq_some_iff]
    refine exists_congr fun channel => and_congr_left fun _ => ⟨?_, ?_⟩
    · intro found
      have bears : channel.key = { key with openBlock } := by simpa using List.find?_some found
      refine .byKey ?_ ?_ ?_ <;> rw [bears]
      · exact ⟨named.offering, named.agent, named.client⟩
      · exact opened
      · exact found
    · intro attributes
      cases attributes with
      | byKey too same found =>
        rwa [key_eq_of_opened named opened too same] at found
      | byTransaction _ unkeyed =>
        -- the search would have gone on
        obtain ⟨created, nothing⟩ := (unkeyed_iff named opened).1 unkeyed
        rcases settled with something | other
        · rw [nothing] at something
          cases something
        · exact absurd created other
  | @absent key openBlock first last read opened nothing created =>
    have named := named_of_channelKey? read
    have unkeyed := (unkeyed_iff named opened).2 ⟨created, nothing⟩
    simp only [List.head?_cons, List.getLast?_cons_cons, List.getLast?_singleton,
      Option.mem_some_iff, exists_eq_left']
    rw [Store.channel?_eq_some_iff]
    refine exists_congr fun channel => and_congr_left fun _ => ⟨?_, ?_⟩
    · exact .byTransaction ⟨_, named⟩ unkeyed
    · intro attributes
      cases attributes with
      | byKey too same found =>
        -- the channel would have been found under its key
        have bears := key_eq_of_opened named opened too same
        have stored := List.mem_of_find?_eq_some found
        exact absurd (by simpa using bears) (Store.channel?_eq_none_iff.1 nothing channel stored)
      | byTransaction _ _ found => exact found

/-- A channel that an event is about is the first one under the key that the event names, or it is
the first one recorded under the event's transaction where that key leads to nothing. So a channel
bears everything that an event names whose open block decodes, unless the event created it. -/
theorem attributed_iff {acts : List Act} {found : Option Id}
    (given : (findChannel log kind).Gives acts found) :
    (∀ id, found = some id ↔
      ∃ first ∈ acts.head?, ∃ last ∈ acts.getLast?, ∃ channel,
        Attributes log kind first.site.world.store last.site.world.store channel ∧
          channel.id = id) ∧
      (kind ≠ .channelCreated → ∀ openBlock, log.openBlock? = some openBlock →
        ∀ id, found = some id → ∃ act ∈ acts, ∃ channel ∈ act.site.world.store.channels,
          channel.id = id ∧ channel.key.Named log ∧ channel.key.openBlock = openBlock) := by
  have search := gives_findChannel given
  refine ⟨search.finds_iff, fun other openBlock decoded id same => ?_⟩
  obtain ⟨first, head, last, -, channel, attributes, same⟩ := (search.finds_iff id).1 same
  cases attributes with
  | byKey named opened found =>
    rw [channelOpenBlock?_of_ne other, decoded] at opened
    exact ⟨first, List.mem_of_mem_head? head, channel, List.mem_of_find?_eq_some found, same, named,
      (Option.some.inj opened).symm⟩
  | byTransaction _ unkeyed =>
    rcases unkeyed with undecoded | ⟨created, -⟩
    · rw [channelOpenBlock?_of_ne other, decoded] at undecoded
      cases undecoded
    · exact absurd created other

end Cycle

/-! A store has one channel, which a transaction opened in block 5. The same transaction creates
the channel of another client, and later the channel on file is closed. -/

namespace Sample

def registered : Site :=
  let site := ready [] []
  let channel : Channel :=
    ⟨Id.counted 0, ⟨offering, .ofNat 20 0xa9e1, .ofNat 20 0xc1e1, 5⟩, some (.ofNat 32 9)⟩
  { site with
    world := { site.world with store := { site.world.store with channels := [channel] } } }

/-- What `created` reports, with another client. -/
def shared : Log :=
  Draft.channelCreated ⟨contracts.service, 11, some (.ofNat 32 9), false⟩ (.ofNat 20 0xa9e1)
    (.ofNat 20 0xc1e2) offering

def search (log : Log) (kind : EventKind) : Program.Solo (Except CycleError (Option Id)) :=
  (Cycle.findChannel log kind).run.alone registered

theorem search_gives {log : Log} {kind : EventKind} {found : Option Id}
    (ended : (search log kind).value = .ok found) :
    (Cycle.findChannel log kind).Gives (search log kind).acts found := by
  rw [Cycle.Gives, ← ended]
  exact Program.alone_course _ _

theorem shared_found : (search shared .channelCreated).value = .ok (some (Id.counted 0)) := by
  decide +kernel

end Sample

namespace Cycle

/-- The channel on file is found for either event, but bears only what the closing names. -/
theorem attributed_registered :
    (∃ first ∈ (Sample.search Sample.shared .channelCreated).acts.head?,
      ∃ last ∈ (Sample.search Sample.shared .channelCreated).acts.getLast?, ∃ channel,
        Attributes Sample.shared .channelCreated first.site.world.store last.site.world.store
          channel ∧ channel.id = Id.counted 0) ∧
      ∃ act ∈ (Sample.search Sample.closing .cooperativeClose).acts,
        ∃ channel ∈ act.site.world.store.channels,
          channel.id = Id.counted 0 ∧ channel.key.Named Sample.closing ∧
            channel.key.openBlock = 5 := by
  have closed : (Sample.search Sample.closing .cooperativeClose).value =
      .ok (some (Id.counted 0)) := by decide +kernel
  exact ⟨((attributed_iff (Sample.search_gives Sample.shared_found)).1 _).1 rfl,
    (attributed_iff (Sample.search_gives closed)).2 (by decide) 5 (by decide +kernel) _ rfl⟩

/-- A channel that is found by the transaction of an event may be that of another client. -/
theorem not_forall_attributed :
    ¬ ∀ (log : Log) (kind : EventKind) (acts : List Act) (id : Id),
      (findChannel log kind).Gives acts (some id) →
        ∃ act ∈ acts, ∃ channel ∈ act.site.world.store.channels,
          channel.id = id ∧ channel.key.Named log ∧
            (kind ≠ .channelCreated → ∀ openBlock, log.openBlock? = some openBlock →
              channel.key.openBlock = openBlock) := by
  intro sound
  obtain ⟨act, among, channel, mem, -, named, -⟩ :=
    sound _ _ _ _ (Sample.search_gives Sample.shared_found)
  have theirs : ∀ act ∈ (Sample.search Sample.shared .channelCreated).acts,
      ∀ channel ∈ act.site.world.store.channels,
        Sample.shared.topicAddress 2 ≠ some channel.key.client := by decide +kernel
  exact theirs act among channel mem named.client

end Cycle

end ChannelWatch
