import ChannelWatch.Proofs.Emission

/-!
# Which offering a change of supply names

A change of supply names its offering by the id in the store, else by the id that an accepted
announcement gave it, else by the id of an announcement that was handled earlier in the sweep.
The queue need not have accepted that one: `grounded_iff` says when a job names an id that
nobody knows. A lookup that fails counts like one that finds nothing: `updated_iff` says when
a change of supply is lost that way.
-/

namespace ChannelWatch
set_option autoImplicit false

namespace Queue

/-- An accepted job gave the id to the offering. -/
def Announces (queue : Queue) (offering : Hash) (id : Id) : Prop :=
  ∃ job ∈ queue.accepted, job.announced? offering = some id

theorem announced?_eq (queue : Queue) (offering : Hash) :
    queue.announced? offering = queue.accepted.findSome? fun job => job.announced? offering := by
  rw [announced?, accepted, List.findSome?_map]
  rfl

theorem announces_of_offeringJob {queue : Queue} {offering : Hash} {id : Id}
    (found : queue.offeringJob offering = .ok (some id)) : queue.Announces offering id := by
  unfold offeringJob at found
  split at found
  · cases found
  · rw [announced?_eq] at found
    exact List.exists_of_findSome?_eq_some (Except.ok.inj found)

/-- A lookup that does not fail finds an announcement if there is one. -/
theorem exists_offeringJob {queue : Queue} {offering : Hash} {id : Id}
    (answers : queue.failsLookups = false) (announces : queue.Announces offering id) :
    ∃ found, queue.offeringJob offering = .ok (some found) := by
  obtain ⟨job, mem, announced⟩ := announces
  cases found : queue.announced? offering with
  | some other => exact ⟨other, by simp [offeringJob, answers, found]⟩
  | none =>
    rw [announced?_eq] at found
    rw [List.findSome?_eq_none_iff.1 found job mem] at announced
    cases announced

end Queue

theorem Queue.Announces.grow {before after : World} {offering : Hash} {id : Id}
    (announces : before.queue.Announces offering id) (grows : before.Grows after) :
    after.queue.Announces offering id := by
  obtain ⟨job, mem, announced⟩ := announces
  exact ⟨job, (grows.jobs.map Prod.snd).subset mem, announced⟩

/-- The jobs of an event that changes a supply announce nothing. -/
theorem Made.announced?_eq_none {profile : Profile} {event : StoredEvent} {acts : List Act}
    {jobs : List Job} {kind : EventKind} (made : Made event (calledFor profile event.log) acts jobs)
    (known : event.log.kind = some kind) (supply : kind.changesSupply = true) (offering : Hash) :
    ∀ job ∈ jobs, job.announced? offering = .none := by
  intro job mem
  have quiet : job.type.announcesOffering = false := by
    rw [← Bool.not_eq_true]
    intro announces
    have called := made.types.subset (List.mem_map_of_mem mem)
    obtain ⟨-, other | other⟩ := announcing_of_mem_calledFor called announces <;>
      rw [known] at other <;> cases other <;> cases supply
  simp [Job.announced?, quiet]

/-- How an offering was last looked for: at a site in the store, and by the rest of the acts. -/
structure Search (acts : List Act) (offering : Hash) (looked : Site) (rest : List Act) : Prop where
  parts : ∃ front, acts = front ++ ⟨looked, .store (.offeringByHash offering)⟩ :: rest
  last : ∀ act ∈ rest, ∀ other, act.request ≠ .store (.offeringByHash other)

/-- The search for an offering ended with an announcement that the queue only claimed to have:
neither the store nor the queue gave an id, and the first announcement that was handled in the
sweep has an id that no accepted one has. -/
structure Borrows (acts rest : List Act) (looked : Site) (queue : Queue) (offering : Hash) :
    Prop where
  unstored : looked.world.store.offering? offering = none
  unanswered : ∀ asked id, ⟨asked, .offeringJob offering⟩ ∈ rest →
    asked.world.queue.offeringJob offering ≠ .ok (some id)
  claimed : ∃ id, (settlements acts).findSome? (fun job => job.announced? offering) = some id ∧
    ¬ queue.Announces offering id

section

variable {profile : Profile} {freedom : Freedom} {first last site : Site} {before behind : List Act}
  {left : Program (Except CycleError SweepReport)}

/-- The jobs that an event that changes a supply had handled announce nothing; the other ones
that were handled are in the batch. -/
theorem Sweeping.Turn.announced_eq {event : StoredEvent} {turn : SweepBatch}
    {earlier made own : List Act} {jobs : List Job} {kind : EventKind}
    (taken : Turn [] before event turn earlier (made ++ own))
    (given : (Cycle.produce profile event turn.settled).Gives made jobs)
    (known : event.log.kind = some kind) (supply : kind.changesSupply = true)
    (handled : settlements own ⊆ jobs) (offering : Hash) :
    ((settlements before).findSome? fun job => job.announced? offering) =
      turn.settled.findSome? fun job => job.announced? offering := by
  have silent : ((settlements own).findSome? fun job => job.announced? offering) = none :=
    List.findSome?_eq_none_iff.2 fun job mem =>
      (Cycle.produce_made given).announced?_eq_none known supply offering job (handled mem)
  rw [taken.settlements_eq (given.asked (Cycle.produce_asks _ _ _)), List.findSome?_append, silent,
    Option.or_none, taken.batch, List.nil_append]

/-- How an accepted change of supply got the id of its offering. -/
theorem grounded_in_sweep {job : Job}
    (spared : ∀ request, freedom.requests request → ¬ request.sweeps)
    (course : (Cycle.sweep profile).run.Course (before ++ ⟨site, .offer job⟩ :: behind) left)
    (joins : freedom.Joins first (before ++ ⟨site, .offer job⟩ :: behind) last)
    (numbered : first.world.Numbered) (apart : last.world.mint.used.Nodup)
    (supply : job.type.changesSupply = true) :
    ∃ log offering looked rest, site.world.Files job.originEvent log ∧
      log.topic 3 = some offering ∧ Search before offering looked rest ∧
      ((looked.world.store.offering? offering = some job.relatedId ∨
          site.world.queue.Announces offering job.relatedId) ↔
        ¬ Borrows before rest looked site.world.queue offering) := by
  obtain ⟨event, turn, earlier, made, own, jobs, waits, taken, submits, given, offered⟩ :=
    Cycle.sweep_at_offer spared course joins numbered apart
  have produced := Cycle.produce_made given
  have called : job ∈ jobs := offered.subset (by simp)
  obtain ⟨client, kind, known, changes, type⟩ :=
    changesSupply_of_mem_calledFor (produced.types.subset (List.mem_map_of_mem called)) supply
  obtain ⟨opening, search, front, result, rfl, found, rfl, plain⟩ :=
    Cycle.produce_supply client known changes given
  -- The job is the last one of its event, so the search gave its id.
  obtain ⟨id, rfl, rfl⟩ : ∃ id, result = some id ∧
      job = event.job (supplyType kind) .offering id := by
    rcases List.mem_append.1 called with other | this
    · rw [plain job other] at supply
      cases supply
    · obtain ⟨id, kept, rfl⟩ : ∃ id, result = some id ∧
          event.job (supplyType kind) .offering id = job := by simpa using this
      exact ⟨id, kept, rfl⟩
  obtain ⟨offering, named⟩ := Cycle.topic_of_supplyOffering found
  obtain ⟨looked, rest, rfl, source⟩ := Cycle.gives_supplyOffering named found
  have handled : settlements own ⊆ _ := fun job mem =>
    offered.subset (List.mem_append_left _ ((settlements_sublist_offers own).subset mem))
  have batch := taken.announced_eq given known changes handled offering
  obtain ⟨start, -⟩ := joins.at
  obtain ⟨began, rfl⟩ := taken.parts
  have reached : ∀ act ∈ rest, act.site.world.Grows site.world := fun act mem =>
    (start.grows_at (by simp [mem])).2
  refine ⟨event.log, offering, looked, rest ++ own, waits.files, named, ⟨⟨earlier ++
    ⟨began, .isCancelled⟩ :: opening, by simp⟩, ?_⟩, ?_⟩
  · intro act mem other same
    rcases List.mem_append.1 mem with mem | mem
    · rcases source with ⟨_, -, rfl, -⟩ | ⟨-, asked, rfl, -⟩
      · cases mem
      · rw [List.mem_singleton.1 mem] at same
        cases same
    · have kind := submits act mem
      rw [same] at kind
      exact kind
  rcases source with ⟨stored, held, rfl, result⟩ | ⟨unstored, asked, rfl, result⟩
  · have same : looked.world.store.offering? offering = some id := held.trans result.symm
    refine ⟨fun _ borrows => ?_, fun _ => .inl same⟩
    rw [borrows.unstored] at same
    cases same
  have among : ⟨asked, .offeringJob offering⟩ ∈
      [Act.mk asked (.offeringJob offering)] ++ own := List.mem_cons_self
  split at result
  · rename_i other answer
    have same : id = other := Option.some.inj result
    have announces : site.world.queue.Announces offering id :=
      (Queue.announces_of_offeringJob (same ▸ answer)).grow (reached _ (List.mem_singleton_self _))
    exact ⟨fun _ borrows => borrows.unanswered asked other among answer, fun _ => .inr announces⟩
  · rename_i unanswered
    constructor
    · rintro (same | announces) borrows
      · rw [unstored] at same
        cases same
      · obtain ⟨other, first, unknown⟩ := borrows.claimed
        rw [batch, ← result] at first
        exact unknown (Option.some.inj first ▸ announces)
    · intro free
      by_contra nobody
      refine free ⟨unstored, fun other found mem answer => ?_, id, batch.trans result.symm,
        fun announces => nobody (.inr announces)⟩
      rcases List.mem_append.1 mem with mem | mem
      · cases List.mem_singleton.1 mem
        exact unanswered found answer
      · exact submits _ mem

end

/-- An accepted change of supply names its offering by the id that the store had for it or that an
accepted job gave it, unless the id was borrowed. -/
theorem grounded_iff {start last : Site} {rounds : List Round}
    (unused : start.world.store.events = [])
    (sweeps : Series Cycle.sweep betweenSweeps withinSweep start rounds last)
    (apart : last.world.mint.used.Nodup) {round : Round} (among : round ∈ rounds)
    {before behind : List Act} {act : Act} (parts : round.acts = before ++ act :: behind) {job : Job}
    (accepted : act.accepted? = some job) (supply : job.type.changesSupply = true) :
    ∃ log offering looked rest, act.site.world.Files job.originEvent log ∧
      log.topic 3 = some offering ∧ Search before offering looked rest ∧
      ((looked.world.store.offering? offering = some job.relatedId ∨
          act.site.world.queue.Announces offering job.relatedId) ↔
        ¬ Borrows before rest looked act.site.world.queue offering) := by
  obtain ⟨earlier, later, rfl⟩ := List.append_of_mem among
  obtain ⟨first, next, left, pre, course, joins, post⟩ := sweeps.at_round
  obtain ⟨site, rfl, -⟩ := Act.accepted?_eq_some accepted
  rw [parts] at course joins
  exact grounded_in_sweep Freedom.within_spares course joins
    (pre.numbered (numbered_of_unused unused)) (post.grows.used.nodup apart) supply

/-! A client that does not know the offering of a channel collects that the offering popped up
and that the channel was created. The queue claims to have the announcement already. -/

namespace Sample

def poppedUp : Log :=
  Draft.offeringPoppedUp ⟨contracts.service, 10, some (.ofNat 32 8), false⟩ (.ofNat 20 0xa9e1) offering

def created (block : BlockNumber) : Log :=
  Draft.channelCreated ⟨contracts.service, block, some (.ofNat 32 9), false⟩ (.ofNat 20 0xa9e1)
    (.ofNat 20 0xc1e1) offering

def unknown : Site := ready [poppedUp, created 11] []

def claimed : Site :=
  told ((Cycle.collect client).run.alone unknown).last fun queue =>
    queue.refuse .clientAfterOfferingPopUp .duplicated

/-- The sweep, once it has its snapshot. -/
def borrowing : Program.Solo (Except CycleError SweepReport) :=
  (Cycle.sweepThrough client claimed.world.store.events .empty .zero).run.alone
    (Act.mk claimed (.store .unscheduledEvents)).after

/-- All acts of the sweep. -/
def borrowed : List Act := ⟨claimed, .store .unscheduledEvents⟩ :: borrowing.acts

/-- The events are on file in the order of their blocks, and both wait. -/
theorem claimed_unscheduled : claimed.world.store.unscheduled = claimed.world.store.events :=
  Store.unscheduled_of_ordered (by decide +kernel) (by decide +kernel)

theorem borrowed_course :
    (Cycle.sweep client).run.Course borrowed (.done borrowing.value) :=
  Cycle.sweptAlone_course (by decide +kernel) claimed_unscheduled

theorem borrows : Series Cycle.sweep betweenSweeps withinSweep unknown [⟨client, borrowed⟩]
    borrowing.last := by
  have collecting : (Cycle.collect client).Asks betweenSweeps.requests :=
    (collect_beside_sweeps client).mono fun _ may => may.1
  have joins : withinSweep.Joins claimed borrowed borrowing.last :=
    .act ⟨claimed, .store .unscheduledEvents⟩ (Freedom.alone_joins _ _)
  refine .pause (Freedom.joins_of_asks collecting unknown) ?_
  refine .stir (.queue trivial (.refuse .clientAfterOfferingPopUp .duplicated)) ?_
  exact .round client borrowed_course joins (.rest _)

theorem exists_supplied : ∃ before act behind job, borrowed = before ++ act :: behind ∧
    act.accepted? = some job ∧ job.type.changesSupply = true := by
  obtain ⟨job, mem, supply⟩ :
      ∃ job ∈ acceptances borrowed, job.type.changesSupply = true := by decide +kernel
  obtain ⟨act, among, accepted⟩ := List.mem_filterMap.1 mem
  obtain ⟨before, behind, parts⟩ := List.append_of_mem among
  exact ⟨before, act, behind, job, parts, accepted, supply⟩

theorem borrowing_apart : borrowing.last.world.mint.used.Nodup := by decide +kernel

/-- Neither the store nor the queue knows an offering, all along. -/
theorem nobody_knows {before behind : List Act} {act : Act}
    (parts : borrowed = before ++ act :: behind) {offering : Hash} {looked : Site}
    {rest : List Act} (search : Search before offering looked rest) (id : Id) :
    ¬ (looked.world.store.offering? offering = some id ∨
      act.site.world.queue.Announces offering id) := by
  have blank : ∀ act ∈ borrowed, act.site.world.store.offerings = [] ∧
      ∀ job ∈ act.site.world.queue.accepted, job.type.announcesOffering = false := by decide +kernel
  rintro (stored | ⟨job, mem, announced⟩)
  · obtain ⟨front, rfl⟩ := search.parts
    have none : looked.world.store.offerings = [] :=
      (blank ⟨looked, .store (.offeringByHash offering)⟩ (by simp [parts])).1
    simp [Store.offering?, none] at stored
  · simp [Job.announced?, (blank act (by simp [parts])).2 job mem] at announced

end Sample

/-- A change of supply is accepted with a borrowed id. -/
theorem exists_borrows :
    ∃ before act behind offering looked rest, Sample.borrowed = before ++ act :: behind ∧
      Search before offering looked rest ∧
      Borrows before rest looked act.site.world.queue offering := by
  obtain ⟨before, act, behind, job, parts, accepted, supply⟩ := Sample.exists_supplied
  obtain ⟨log, offering, looked, rest, -, -, search, grounded⟩ := grounded_iff rfl Sample.borrows
    Sample.borrowing_apart (List.mem_singleton_self _) parts accepted supply
  have ungrounded := Sample.nobody_knows parts search job.relatedId
  exact ⟨before, act, behind, offering, looked, rest, parts, search,
    not_not.1 fun free => ungrounded (grounded.2 free)⟩

/-- Changes of supply do not always name an offering that the store or the queue knows. -/
theorem not_forall_grounded :
    ¬ ∀ start last rounds, start.world.store.events = [] →
      Series Cycle.sweep betweenSweeps withinSweep start rounds last →
      last.world.mint.used.Nodup → ∀ round ∈ rounds, ∀ before act behind job,
        round.acts = before ++ act :: behind → act.accepted? = some job →
        job.type.changesSupply = true →
        ∃ log offering looked rest, act.site.world.Files job.originEvent log ∧
          log.topic 3 = some offering ∧ Search before offering looked rest ∧
          (looked.world.store.offering? offering = some job.relatedId ∨
            act.site.world.queue.Announces offering job.relatedId) := by
  intro grounded
  obtain ⟨before, act, behind, job, parts, accepted, supply⟩ := Sample.exists_supplied
  obtain ⟨log, offering, looked, rest, -, -, search, known⟩ := grounded _ _ _ rfl Sample.borrows
    Sample.borrowing_apart _ (List.mem_singleton_self _) before act behind job parts accepted supply
  exact Sample.nobody_knows parts search job.relatedId known

/-- The store or an accepted announcement gives an id to the offering. -/
def World.Knows (world : World) (offering : Hash) : Prop :=
  world.store.offering? offering ≠ none ∨ ∃ id, world.queue.Announces offering id

/-- The queue was asked for the offering and failed, and no announcement was handled before. -/
structure Overlooks (acts : List Act) (world : World) (offering : Hash) : Prop where
  unstored : world.store.offering? offering = none
  failing : world.queue.failsLookups = true
  unannounced : ∀ job ∈ settlements acts, job.announced? offering = none

theorem World.carries_failsLookups {freedom : Freedom} (silent : ¬ freedom.orders) :
    freedom.Carries fun before after => after.queue.failsLookups = before.queue.failsLookups where
  refl _ := rfl
  trans start rest := rest.trans start
  request site request _ := failsLookups_of_makes (site.makes request)
  chain _ _ _ := rfl
  queue _ _ may _ := absurd may silent

section

variable {profile : Profile} {first last site : Site} {before behind : List Act}
  {left : Program (Except CycleError SweepReport)}

/-- A change of supply was handled for an event in its turn if and only if its offering was
found. -/
theorem Sweeping.Turn.submitted_iff {event : StoredEvent} {turn : SweepBatch} {kind : EventKind}
    {earlier made own : List Act} {front : List Job} {result : Option Id}
    (taken : Turn [] before event turn earlier (made ++ own))
    (looks : ∀ act ∈ made, act.request.looks)
    (parts : settlements own =
      front ++ (result.map fun id => event.job (supplyType kind) .offering id).toList)
    (plain : ∀ job ∈ front, job.type.changesSupply = false) :
    (∃ act ∈ before, ∃ job, act.handled? = some job ∧ job.originEvent = event.id ∧
        job.type = supplyType kind) ↔ ∃ id, result = some id := by
  have handled := taken.settlements_eq looks
  constructor
  · rintro ⟨act, mem, job, settled, origin, type⟩
    have among : job ∈ settlements before := List.mem_filterMap.2 ⟨act, mem, settled⟩
    rw [handled, parts] at among
    rcases List.mem_append.1 among with other | this
    · exact absurd origin (taken.others job ((settlements_sublist_offers earlier).subset other))
    rcases List.mem_append.1 this with other | this
    · have quiet := plain job other
      rw [type, changesSupply_supplyType] at quiet
      cases quiet
    · obtain ⟨id, same, -⟩ : ∃ id, result = some id ∧
          event.job (supplyType kind) .offering id = job := by simpa using this
      exact ⟨id, same⟩
  · rintro ⟨id, rfl⟩
    have among : event.job (supplyType kind) .offering id ∈ settlements before := by
      simp [handled, parts]
    obtain ⟨act, mem, settled⟩ := List.mem_filterMap.1 among
    exact ⟨act, mem, _, settled, rfl, rfl⟩

/-- What the search for an offering finds, once its event is noted to be done. -/
theorem overlooks_in_sweep {id : Id} {disposition : Disposition} (kept : disposition ≠ .failed)
    (client : profile.role = .client)
    (course : (Cycle.sweep profile).run.Course
      (before ++ ⟨site, .store (.disposeEvent id disposition)⟩ :: behind) left)
    (joins : withinSweep.steady.silent.Joins first
      (before ++ ⟨site, .store (.disposeEvent id disposition)⟩ :: behind) last)
    (numbered : first.world.Numbered) (apart : last.world.mint.used.Nodup) {log : Log}
    (files : site.world.Files id log) {kind : EventKind} (known : log.kind = some kind)
    (supply : kind.changesSupply = true) {offering : Hash} (named : log.topic 3 = some offering)
    (knows : site.world.Knows offering) :
    (∃ act ∈ before, ∃ job, act.handled? = some job ∧ job.originEvent = id ∧
        job.type = supplyType kind) ↔ ¬ Overlooks before site.world offering := by
  obtain ⟨event, turn, earlier, made, own, rfl, filed, taken, given⟩ :=
    Cycle.sweep_at_note kept course joins numbered apart
  obtain ⟨start, rest⟩ := joins.at
  have grows : site.world.Grows last.world := .trans (.of_makes (site.makes _)) rest.grows
  obtain rfl : event.log = log :=
    filed.unique (start.numbered numbered) (grows.used.nodup apart) files
  obtain ⟨opening, search, front, result, rfl, found, parts, plain⟩ :=
    Cycle.produce_supply client known supply given
  obtain ⟨looked, rest, rfl, source⟩ := Cycle.gives_supplyOffering named found
  have batch := taken.announced_eq given known supply (fun _ mem => mem) offering
  rw [taken.submitted_iff (given.asked (Cycle.produce_asks _ _ _)) parts plain]
  obtain ⟨began, rfl⟩ := taken.parts
  have kinds := course.asked (Cycle.sweep_asks profile)
  have agrees : looked.world.Agrees site.world := by
    have steady : withinSweep.steady.silent.Carries World.Agrees :=
      World.carries_agrees fun _ may => may.2
    exact steady.onward start (fun act mem => .of_makes (act.site.makes act.request)
      (Request.not_seeds_of_ofSweep (kinds act (List.mem_append_left _ mem))))
      ⟨looked, .store (.offeringByHash offering)⟩ (by simp)
  rcases source with ⟨stored, held, rfl, rfl⟩ | ⟨unstored, asked, rfl, result⟩
  · refine ⟨fun _ overlooks => ?_, fun _ => ⟨stored, rfl⟩⟩
    have none := overlooks.unstored
    rw [agrees.offering?, held] at none
    cases none
  have unstored : site.world.store.offering? offering = none := by
    rw [agrees.offering?, unstored]
  have failing : site.world.queue.failsLookups = asked.world.queue.failsLookups := by
    have carries : withinSweep.steady.silent.Carries fun before after =>
        after.queue.failsLookups = before.queue.failsLookups := World.carries_failsLookups id
    exact carries.onward start (fun act _ => World.failsLookups_of_makes (act.site.makes act.request))
      ⟨asked, .offeringJob offering⟩ (by simp)
  cases fails : site.world.queue.failsLookups with
  | true =>
    rw [Queue.offeringJob, ← failing, fails] at result
    simp only [if_true] at result
    rw [← batch] at result
    subst result
    constructor
    · rintro ⟨id, first⟩ overlooks
      rw [List.findSome?_eq_none_iff.2 overlooks.unannounced] at first
      cases first
    · intro noted
      by_contra nothing
      refine noted ⟨unstored, fails, List.findSome?_eq_none_iff.1 ?_⟩
      exact Option.eq_none_iff_forall_ne_some.2 fun id first => nothing ⟨id, first⟩
  | false =>
    refine ⟨fun _ overlooks => ?_, fun _ => ?_⟩
    · rw [overlooks.failing] at fails
      cases fails
    -- Nothing that the event had accepted itself announces the offering.
    rcases knows with stored | ⟨id, job, mem, announced⟩
    · exact absurd unstored stored
    have tail : withinSweep.steady.silent.Joins (Act.mk asked (.offeringJob offering)).after own
        site := by
      have whole : withinSweep.steady.silent.Joins first ((earlier ++ ⟨began, .isCancelled⟩ ::
          (opening ++ [⟨looked, .store (.offeringByHash offering)⟩])) ++
            ⟨asked, .offeringJob offering⟩ :: own) site := by simpa using start
      exact whole.at.2
    have accepted := tail.accepted (Freedom.silent_spares (Freedom.steady_spares Freedom.within_spares))
    rw [accepted] at mem
    rcases List.mem_append.1 mem with mem | mem
    · have announces : asked.world.queue.Announces offering id := ⟨job, mem, announced⟩
      obtain ⟨other, answer⟩ := Queue.exists_offeringJob (failing ▸ fails) announces
      exact ⟨other, by rw [result, answer]⟩
    · have handled := (acceptances_sublist_settlements own).subset mem
      have silent := (Cycle.produce_made given).announced?_eq_none known supply offering job handled
      rw [silent] at announced
      cases announced

end

/-- When a sweep of a client notes an event to be done and the offering is known, it has handed in
the change of supply, unless the offering was overlooked. -/
theorem updated_iff {start last : Site} {rounds : List Round}
    (unused : start.world.store.events = [])
    (sweeps : Series Cycle.sweep betweenSweeps withinSweep.steady.silent start rounds last)
    (apart : last.world.mint.used.Nodup) {round : Round} (among : round ∈ rounds)
    (client : round.profile.role = .client) {before behind : List Act} {note : Act}
    (parts : round.acts = before ++ note :: behind) {event : Id} {disposition : Disposition}
    (noted : note.noted? = some (event, disposition)) (kept : disposition ≠ .failed) {log : Log}
    (files : note.site.world.Files event log) {kind : EventKind} (known : log.kind = some kind)
    (supply : kind.changesSupply = true) {offering : Hash} (named : log.topic 3 = some offering)
    (knows : note.site.world.Knows offering) :
    (∃ act ∈ before, ∃ job, act.handled? = some job ∧ job.originEvent = event ∧
        job.type = supplyType kind) ↔ ¬ Overlooks before note.site.world offering := by
  obtain ⟨earlier, later, rfl⟩ := List.append_of_mem among
  obtain ⟨first, next, left, pre, course, joins, post⟩ := sweeps.at_round
  obtain ⟨site, rfl⟩ := Act.noted?_eq_some noted
  rw [parts] at course joins
  exact overlooks_in_sweep kept client course joins (pre.numbered (numbered_of_unused unused))
    (post.grows.used.nodup apart) files known supply named knows

/-! The announcement was accepted before the channel was created, but when the creation is
swept the lookup fails. -/

namespace Sample

def popped : Site := ((Cycle.collect client).run.alone (ready [poppedUp] [])).last

def announcing : Program.Solo (Except CycleError SweepReport) := (Cycle.sweep client).run.alone popped

/-- The chain has grown. -/
def grown : Site :=
  { announcing.last with
    world := { announcing.last.world with chain := { Chain.ending 40 with logs := [poppedUp, created 31] } } }

def failing : Site :=
  told ((Cycle.collect client).run.alone grown).last fun queue => queue.failLookups true

def overlooking : Program.Solo (Except CycleError SweepReport) := (Cycle.sweep client).run.alone failing

theorem overlooks : Series Cycle.sweep betweenSweeps withinSweep.steady.silent
    (ready [poppedUp] []) [⟨client, announcing.acts⟩, ⟨client, overlooking.acts⟩]
    overlooking.last := by
  have collecting : (Cycle.collect client).Asks betweenSweeps.requests :=
    (collect_beside_sweeps client).mono fun _ may => may.1
  refine .pause (Freedom.joins_of_asks collecting _) (.alone client ?_)
  refine .stir (.chain trivial) (.pause (Freedom.joins_of_asks collecting grown) ?_)
  exact .stir (.queue trivial (.failLookups true)) (.alone client (.rest _))

theorem overlooking_apart : overlooking.last.world.mint.used.Nodup := by decide +kernel

theorem exists_noted : ∃ before note behind event disposition,
    overlooking.acts = before ++ note :: behind ∧ note.noted? = some (event, disposition) ∧
      disposition ≠ .failed ∧ note.site.world.Files event (created 31) ∧
      note.site.world.Knows offering := by
  have found : ∃ note ∈ overlooking.acts, ∃ entry ∈ note.noted?.toList, entry.2 ≠ .failed ∧
      (entry.1, created 31) ∈ note.site.world.store.events.map StoredEvent.sighting ∧
      ∃ job ∈ note.site.world.queue.accepted, (job.announced? offering).isSome = true := by
    decide +kernel
  obtain ⟨note, mem, ⟨event, disposition⟩, noted, kept, files, job, accepted, announces⟩ := found
  obtain ⟨before, behind, parts⟩ := List.append_of_mem mem
  obtain ⟨id, announced⟩ := Option.isSome_iff_exists.1 announces
  exact ⟨before, note, behind, event, disposition, parts, Option.mem_toList.1 noted, kept, files,
    .inr ⟨id, job, accepted, announced⟩⟩

/-- The sweep handed in nothing at all. -/
theorem nothing_handled {before behind : List Act} {note : Act}
    (parts : overlooking.acts = before ++ note :: behind) (event : Id) (kind : EventKind) :
    ¬ ∃ act ∈ before, ∃ job, act.handled? = some job ∧ job.originEvent = event ∧
        job.type = supplyType kind := by
  have idle : ∀ act ∈ overlooking.acts, act.handled?.isNone = true := by decide +kernel
  rintro ⟨act, mem, job, handled, -⟩
  have none := idle act (by simp [parts, mem])
  rw [handled] at none
  cases none

end Sample

/-- A change of supply is overlooked although the queue has the announcement. -/
theorem exists_overlooks :
    ∃ before note behind, Sample.overlooking.acts = before ++ note :: behind ∧
      Overlooks before note.site.world Sample.offering := by
  obtain ⟨before, note, behind, event, disposition, parts, noted, kept, files, knows⟩ :=
    Sample.exists_noted
  have kind : (Sample.created 31).kind = some .channelCreated := by decide +kernel
  have updated := updated_iff rfl Sample.overlooks Sample.overlooking_apart
    (List.mem_cons_of_mem _ (List.mem_singleton_self _)) rfl parts noted kept files kind rfl rfl knows
  exact ⟨before, note, behind, parts,
    not_not.1 fun free => Sample.nothing_handled parts _ _ (updated.2 free)⟩

/-- The change of supply is not always handed in when its offering is known. -/
theorem not_forall_updated :
    ¬ ∀ start last rounds, start.world.store.events = [] →
      Series Cycle.sweep betweenSweeps withinSweep.steady.silent start rounds last →
      last.world.mint.used.Nodup → ∀ round ∈ rounds, round.profile.role = .client →
      ∀ before note behind event disposition, round.acts = before ++ note :: behind →
        note.noted? = some (event, disposition) → disposition ≠ .failed →
        ∀ log kind offering, note.site.world.Files event log → log.kind = some kind →
          kind.changesSupply = true → log.topic 3 = some offering →
          note.site.world.Knows offering →
          ∃ act ∈ before, ∃ job, act.handled? = some job ∧ job.originEvent = event ∧
            job.type = supplyType kind := by
  intro updated
  obtain ⟨before, note, behind, event, disposition, parts, noted, kept, files, knows⟩ :=
    Sample.exists_noted
  have kind : (Sample.created 31).kind = some .channelCreated := by decide +kernel
  exact Sample.nothing_handled parts _ _ (updated _ _ _ rfl Sample.overlooks
    Sample.overlooking_apart _ (List.mem_cons_of_mem _ (List.mem_singleton_self _)) rfl before note
    behind event disposition parts noted kept _ _ _ files kind rfl rfl knows)

end ChannelWatch
