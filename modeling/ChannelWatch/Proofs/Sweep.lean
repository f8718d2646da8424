import ChannelWatch.Proofs.Submit

/-!
# The acts of a sweep

A sweep handles the events of its snapshot one after the other. `Sweeping` is the shape of
what it does, however it ends: `Cycle.sweep_course` says that nothing else happens. From the
shape it follows whose turn it is at an act, and that the batch holds the jobs that were
handled so far.
-/

namespace ChannelWatch
set_option autoImplicit false

/-- The request is one of a sweep. -/
def Request.ofSweep : Request → Prop
  | .store .unscheduledEvents | .store (.disposeEvent _ _) | .isCancelled => True
  | request => request.settles

theorem Request.ofSweep_of_settles {request : Request} (settles : request.settles) :
    request.ofSweep := by
  cases request with
  | store t => cases t <;> first | exact settles | trivial
  | _ => first | exact settles | trivial

theorem Request.not_seeds_of_ofSweep {request : Request} (ofSweep : request.ofSweep) :
    ¬ request.seeds := by
  cases request with
  | upkeep u => rcases ofSweep with kind | kind <;> cases kind
  | _ => exact id

theorem Request.not_settles_disposeEvent (event : Id) (disposition : Disposition) :
    ¬ (Request.store (.disposeEvent event disposition)).settles :=
  fun kind => kind.elim id id

/-- What a sweep does with events, however it ends. -/
inductive Sweeping (profile : Profile) : List StoredEvent → SweepBatch → List Act → Prop where
  | rest (events : List StoredEvent) (batch : SweepBatch) : Sweeping profile events batch []
  /-- The watch is cancelled, or the sweep gets no further. -/
  | halted (events : List StoredEvent) (batch : SweepBatch) (asked : Site) :
      Sweeping profile events batch [⟨asked, .isCancelled⟩]
  /-- The event waits for the announcement of its offering. -/
  | held {event : StoredEvent} {events : List StoredEvent} {batch : SweepBatch} {acts : List Act}
      (awaits : batch.awaitsAnnouncement event = true) (asked noted : Site)
      (granted : acts = [] ∨ (noted.world.transact (.disposeEvent event.id .failed)).1 = .ok ())
      (rest : Sweeping profile events batch acts) :
      Sweeping profile (event :: events) batch
        (⟨asked, .isCancelled⟩ :: ⟨noted, .store (.disposeEvent event.id .failed)⟩ :: acts)
  /-- The sweep ends while the event is worked on, or is just about to note that it timed out. -/
  | broken {event : StoredEvent} (events : List StoredEvent) {batch : SweepBatch} {acts : List Act}
      {left : Program (Except CycleError Submission)} (asked : Site)
      (course : (Cycle.settle profile event batch).run.Course acts left) :
      Sweeping profile (event :: events) batch (⟨asked, .isCancelled⟩ :: acts)
  /-- The sweep runs out of time with the event. -/
  | expired {event : StoredEvent} (events : List StoredEvent) {batch : SweepBatch}
      {acts : List Act} (asked noted : Site)
      (course : (Cycle.settle profile event batch).run.Course acts (.done (.error .timedOut))) :
      Sweeping profile (event :: events) batch
        (⟨asked, .isCancelled⟩ :: acts ++ [⟨noted, .store (.disposeEvent event.id .failed)⟩])
  /-- The event is settled, and the sweep goes on if that could be noted. -/
  | settled {event : StoredEvent} {events : List StoredEvent} {batch : SweepBatch}
      {acts behind : List Act} {submission : Submission}
      (free : batch.awaitsAnnouncement event = false) (asked noted : Site)
      (given : (Cycle.settle profile event batch).Gives acts submission)
      (granted : behind = [] ∨
        (noted.world.transact (.disposeEvent event.id submission.disposition)).1 = .ok ())
      (rest : Sweeping profile events (batch.extend submission) behind) :
      Sweeping profile (event :: events) batch
        (⟨asked, .isCancelled⟩ :: acts ++
          ⟨noted, .store (.disposeEvent event.id submission.disposition)⟩ :: behind)

/-- Rows that wait, and stand in the order of their blocks, are listed as they stand. -/
theorem Store.unscheduled_of_ordered {store : Store}
    (waiting : ∀ row ∈ store.events, row.isScheduled = false)
    (ordered : store.events.Pairwise fun row later => row.log.block ≤ later.log.block) :
    store.unscheduled = store.events := by
  have all : store.events.filter (fun row => !row.isScheduled) = store.events :=
    List.filter_eq_self.2 fun row mem => by simp [waiting row mem]
  rw [Store.unscheduled, all]
  exact List.mergeSort_of_pairwise (ordered.imp fun le => decide_eq_true le)

theorem World.eq_unscheduled {world : World} {events : List StoredEvent}
    (granted : (world.transact .unscheduledEvents).1 = .ok events) :
    events = world.store.unscheduled := by
  rw [transact_eq] at granted
  cases on : world.store.available with
  | false => simp [Store.transact, on] at granted
  | true =>
    simp only [Store.transact, on, if_true] at granted
    exact (Except.ok.inj granted).symm

namespace Cycle

variable {profile : Profile} {events : List StoredEvent} {batch : SweepBatch}
  {report : SweepReport} {acts : List Act}

/-- What is left of an attempt is what is left of the cycle. -/
theorem attempt_course {α : Type} {cycle : Cycle α}
    {left : Program (Except CycleError (Except CycleError α))}
    (course : (attempt cycle).run.Course acts left) : ∃ first, cycle.run.Course acts first := by
  rcases Program.Course.of_bind course with ⟨first, run, -⟩ | ⟨value, before, behind, rfl, run, last⟩
  · exact ⟨first, run⟩
  · obtain ⟨rfl, -⟩ := Program.course_done_iff.1 last
    exact ⟨_, by rwa [List.append_nil]⟩

theorem attempt_gives {α : Type} {cycle : Cycle α} {result : Except CycleError α}
    (given : (attempt cycle).Gives acts result) : cycle.run.Course acts (.done result) := by
  obtain ⟨value, before, behind, rfl, run, last⟩ := Program.Course.of_bind_done given
  obtain ⟨rfl, same⟩ := Program.course_done_iff.1 last
  cases same
  rwa [List.append_nil]

/-- A note is under way, refused or granted; only then the cycle goes on. -/
theorem dispose_course {α : Type} {event : StoredEvent} {disposition : Disposition}
    {next : Unit → Cycle α} {left : Program (Except CycleError α)}
    (course : (dispose event disposition >>= next).run.Course acts left) :
    acts = [] ∨ ∃ noted behind,
      acts = ⟨noted, .store (.disposeEvent event.id disposition)⟩ :: behind ∧
        (behind = [] ∨ ((noted.world.transact (.disposeEvent event.id disposition)).1 = .ok () ∧
          (next ()).run.Course behind left)) := by
  rcases course_bind course with ⟨first, run⟩ | ⟨_, before, behind, rfl, noted, rest⟩
  · rcases course_transact run with rfl | ⟨site, rfl⟩
    · exact .inl rfl
    · exact .inr ⟨site, [], rfl, .inl rfl⟩
  · obtain ⟨site, rfl, granted⟩ := gives_transact_iff.1 noted
    exact .inr ⟨site, behind, rfl, .inr ⟨granted, rest⟩⟩

theorem sweepThrough_course {left : Program (Except CycleError SweepReport)}
    (course : (sweepThrough profile events batch report).run.Course acts left) :
    Sweeping profile events batch acts := by
  induction events generalizing batch report acts with
  | nil =>
    rw [(Program.course_done_iff.1 course).1]
    exact .rest _ _
  | cons event events ih =>
    rw [sweepThrough] at course
    rcases course_bind course with ⟨first, run⟩ | ⟨cancelled, before, behind, rfl, answer, tail⟩
    · rcases course_request run with rfl | ⟨asked, rfl⟩
      · exact .rest _ _
      · exact .halted _ _ asked
    obtain ⟨asked, rfl, rfl⟩ := gives_request_iff.1 answer
    split at tail
    · rw [(Program.course_done_iff.1 tail).1]
      exact .halted _ _ asked
    split at tail
    · rename_i awaits
      rcases dispose_course tail with rfl | ⟨noted, rest, rfl, rfl | ⟨granted, next⟩⟩
      · exact .halted _ _ asked
      · exact .held awaits asked noted (.inl rfl) (.rest _ _)
      · exact .held awaits asked noted (.inr granted) (ih next)
    rename_i free
    rw [Bool.not_eq_true] at free
    rcases course_bind tail with ⟨first, partway⟩ | ⟨result, own, rest, rfl, settled, last⟩
    · obtain ⟨left, run⟩ := attempt_course partway
      exact .broken _ asked run
    have run := attempt_gives settled
    have broken := Sweeping.broken events asked run
    split at last
    · rename_i submission
      rcases dispose_course last with rfl | ⟨noted, rest, rfl, rfl | ⟨granted, next⟩⟩
      · simpa using broken
      · exact .settled free asked noted run (.inl rfl) (.rest _ _)
      · exact .settled free asked noted run (.inr granted) (ih next)
    · rcases dispose_course last with rfl | ⟨noted, rest, rfl, rfl | ⟨granted, next⟩⟩
      · simpa using broken
      · exact .expired _ asked noted run
      · rw [(Program.course_done_iff.1 next).1]
        exact .expired _ asked noted run
    · rw [(Program.course_done_iff.1 last).1]
      simpa using broken

/-- A sweep takes a snapshot of the events that wait and handles them. -/
theorem sweep_course {left : Program (Except CycleError SweepReport)}
    (course : (sweep profile).run.Course acts left) :
    acts = [] ∨ ∃ site behind, acts = ⟨site, .store .unscheduledEvents⟩ :: behind ∧
      Sweeping profile site.world.store.unscheduled .empty behind := by
  rcases course_bind course with ⟨first, run⟩ | ⟨events, before, behind, rfl, listed, tail⟩
  · rcases course_transact run with rfl | ⟨site, rfl⟩
    · exact .inl rfl
    · exact .inr ⟨site, [], rfl, .rest _ _⟩
  · obtain ⟨site, rfl, granted⟩ := gives_transact_iff.1 listed
    obtain rfl := World.eq_unscheduled granted
    exact .inr ⟨site, behind, rfl, sweepThrough_course tail⟩

/-- What a sweep does that nothing disturbs once it has its snapshot. -/
def sweptAlone (profile : Profile) (listed : Site) (events : List StoredEvent) :
    Program.Solo (Except CycleError SweepReport) :=
  (sweepThrough profile events .empty .zero).run.alone
    (Act.mk listed (.store .unscheduledEvents)).after

theorem sweptAlone_course {listed : Site} (on : listed.world.store.available = true)
    (snapshot : listed.world.store.unscheduled = events) :
    (sweep profile).run.Course
      (⟨listed, .store .unscheduledEvents⟩ :: (sweptAlone profile listed events).acts)
      (.done (sweptAlone profile listed events).value) := by
  have granted : (listed.world.transact .unscheduledEvents).1 = .ok events := by
    simp [World.transact_eq, Store.transact, on, Store.grant, snapshot]
  have asked : (transact .reading .unscheduledEvents).Gives
      [⟨listed, .store .unscheduledEvents⟩] events := gives_transact_iff.2 ⟨listed, rfl, granted⟩
  rw [sweep, run_bind]
  exact Program.Course.bind asked (Program.alone_course _ _)

theorem sweepThrough_asks (profile : Profile) (events : List StoredEvent) (batch : SweepBatch)
    (report : SweepReport) : (sweepThrough profile events batch report).Asks Request.ofSweep := by
  induction events generalizing batch report with
  | nil => exact asks_pure _
  | cons event events ih =>
    have note : ∀ disposition, (dispose event disposition).Asks Request.ofSweep := fun _ =>
      asks_transact _ trivial
    rw [sweepThrough]
    apply asks_bind (asks_request _ trivial)
    intro cancelled
    split
    · exact asks_pure _
    split
    · exact asks_bind (note _) fun _ => ih _ _
    · have settled := (settle_asks profile event batch).mono fun _ => Request.ofSweep_of_settles
      refine asks_bind (Program.Asks.bind settled fun _ => trivial) fun result => ?_
      split
      · exact asks_bind (note _) fun _ => ih _ _
      · exact asks_bind (note _) fun _ => asks_throw _
      · exact asks_throw _

theorem sweep_asks (profile : Profile) : (sweep profile).Asks Request.ofSweep :=
  asks_bind (asks_transact _ trivial) fun _ => sweepThrough_asks _ _ _ _

end Cycle

/-- Where an act lies among those of one event and those of later ones. -/
theorem split_at_note {head note act : Act} {own rest before behind : List Act}
    (parts : head :: own ++ note :: rest = before ++ act :: behind) :
    (before = [] ∧ act = head) ∨
      (∃ first last, before = head :: first ∧ own = first ++ act :: last) ∨
      (before = head :: own ∧ act = note) ∨
      ∃ later, before = head :: own ++ note :: later ∧ rest = later ++ act :: behind := by
  cases before with
  | nil => exact .inl ⟨rfl, (List.cons.inj parts).1.symm⟩
  | cons first before =>
    obtain ⟨rfl, body⟩ := List.cons.inj parts
    rcases List.append_eq_append_iff.1 body with ⟨late, rfl, tail⟩ | ⟨late, rfl, tail⟩
    · cases late with
      | nil => exact .inr (.inr (.inl ⟨by simp, (List.cons.inj tail).1.symm⟩))
      | cons first late =>
        obtain ⟨rfl, rest⟩ := List.cons.inj tail
        exact .inr (.inr (.inr ⟨late, by simp, rest⟩))
    · cases late with
      | nil => exact .inr (.inr (.inl ⟨by simp, (List.cons.inj tail).1⟩))
      | cons first late =>
        obtain ⟨rfl, rest⟩ := List.cons.inj tail
        exact .inr (.inl ⟨before, late, rfl, rfl⟩)

/-- What a job is for. -/
def Job.purpose (job : Job) : JobType × Id := (job.type, job.originEvent)

namespace Cycle

theorem settle_purposes {profile : Profile} {event : StoredEvent} {batch : SweepBatch}
    {acts : List Act} {left : Program (Except CycleError Submission)}
    (course : (settle profile event batch).run.Course acts left) :
    ((offers acts).map Job.purpose).Nodup ∧
      ∀ purpose ∈ (offers acts).map Job.purpose, purpose.2 = event.id := by
  obtain ⟨answers, types⟩ := settle_offers course
  constructor
  · have apart : ∀ a b : JobType × Id, a.1 ≠ b.1 → a ≠ b := fun a b differ same =>
      differ (congrArg Prod.fst same)
    apply List.Pairwise.of_map Prod.fst apart
    rwa [List.map_map]
  · intro purpose mem
    obtain ⟨job, offered, rfl⟩ := List.mem_map.1 mem
    exact (answers job offered).origin

end Cycle

namespace Sweeping

variable {profile : Profile} {events : List StoredEvent} {batch : SweepBatch} {acts : List Act}

/-- A sweep offers no two jobs for one purpose. -/
theorem purposes (sweeping : Sweeping profile events batch acts)
    (distinct : (events.map StoredEvent.id).Nodup) :
    ((offers acts).map Job.purpose).Nodup ∧
      ∀ purpose ∈ (offers acts).map Job.purpose, purpose.2 ∈ events.map StoredEvent.id := by
  induction sweeping with
  | rest | halted => exact ⟨List.nodup_nil, by simp [offers, Act.offered?]⟩
  | held awaits asked noted granted rest ih =>
    obtain ⟨apart, known⟩ := ih (List.nodup_cons.1 distinct).2
    exact ⟨apart, fun purpose mem => List.mem_cons_of_mem _ (known purpose mem)⟩
  | broken events asked course =>
    obtain ⟨apart, known⟩ := Cycle.settle_purposes course
    refine ⟨apart, fun purpose mem => ?_⟩
    rw [known purpose mem]
    exact List.mem_cons_self
  | @expired event events batch own asked noted course =>
    obtain ⟨apart, known⟩ := Cycle.settle_purposes course
    have same : offers (⟨asked, .isCancelled⟩ :: own ++
        [⟨noted, .store (.disposeEvent event.id .failed)⟩]) = offers own := by
      rw [offers_append]
      exact List.append_nil _
    rw [same]
    refine ⟨apart, fun purpose mem => ?_⟩
    rw [known purpose mem]
    exact List.mem_cons_self
  | @settled event events batch own behind submission free asked noted given granted rest ih =>
    obtain ⟨fresh, distinct⟩ := List.nodup_cons.1 distinct
    obtain ⟨apart, known⟩ := Cycle.settle_purposes given
    obtain ⟨later, others⟩ := ih distinct
    have same : offers (⟨asked, .isCancelled⟩ :: own ++
        ⟨noted, .store (.disposeEvent event.id submission.disposition)⟩ :: behind) =
        offers own ++ offers behind := offers_append _ _
    rw [same, List.map_append]
    refine ⟨List.nodup_append.2 ⟨apart, later, ?_⟩, ?_⟩
    · intro purpose mem other among equal
      have origin := others other among
      rw [← equal, known purpose mem] at origin
      exact fresh origin
    · intro purpose mem
      rcases List.mem_append.1 mem with mem | mem
      · rw [known purpose mem]
        exact List.mem_cons_self
      · exact List.mem_cons_of_mem _ (others purpose mem)

/-- An event's turn in a sweep: before it other events were handled, and their jobs that were
handled are in the batch; since the sweep took the event up it did its own acts. -/
structure Turn (settled : List Job) (before : List Act) (event : StoredEvent) (batch : SweepBatch)
    (earlier own : List Act) : Prop where
  parts : ∃ asked, before = earlier ++ ⟨asked, .isCancelled⟩ :: own
  batch : batch.settled = settled ++ settlements earlier
  spared : ∀ act ∈ earlier, ∀ disposition,
    act.request ≠ .store (.disposeEvent event.id disposition)
  others : ∀ job ∈ offers earlier, job.originEvent ≠ event.id

theorem Turn.first (event : StoredEvent) (batch : SweepBatch) (asked : Site) (own : List Act) :
    Turn batch.settled (⟨asked, .isCancelled⟩ :: own) event batch [] own :=
  ⟨⟨asked, rfl⟩, by simp [settlements], by simp, by simp [offers]⟩

/-- A turn comes after that of another event. -/
theorem Turn.after {event other : StoredEvent} {turn : SweepBatch} {own before earlier acts : List Act}
    {left : Program (Except CycleError Submission)} (asked noted : Site) {disposition : Disposition}
    (course : (Cycle.settle profile other batch).run.Course own left) {settled : List Job}
    (apart : event.id ≠ other.id)
    (later : Turn (settled ++ settlements own) before event turn earlier acts) :
    Turn settled (⟨asked, .isCancelled⟩ :: own ++
        ⟨noted, .store (.disposeEvent other.id disposition)⟩ :: before) event turn
      (⟨asked, .isCancelled⟩ :: own ++
        ⟨noted, .store (.disposeEvent other.id disposition)⟩ :: earlier) acts where
  parts := by
    obtain ⟨site, parts⟩ := later.parts
    exact ⟨site, by simp [parts]⟩
  batch := by
    have same : settlements (⟨asked, .isCancelled⟩ :: own ++
        ⟨noted, .store (.disposeEvent other.id disposition)⟩ :: earlier) =
        settlements own ++ settlements earlier := settlements_append _ _
    rw [later.batch, same, List.append_assoc]
  spared act mem d same := by
    simp only [List.mem_append, List.mem_cons] at mem
    rcases mem with (rfl | mem) | (rfl | mem)
    · cases same
    · have kind := course.asked (Cycle.settle_asks _ _ _) act mem
      rw [same] at kind
      exact Request.not_settles_disposeEvent _ _ kind
    · simp only [Request.store.injEq, Transaction.disposeEvent.injEq] at same
      exact apart same.1.symm
    · exact later.spared act mem d same
  others job mem := by
    have same : offers (⟨asked, .isCancelled⟩ :: own ++
        ⟨noted, .store (.disposeEvent other.id disposition)⟩ :: earlier) =
        offers own ++ offers earlier := offers_append _ _
    rw [same, List.mem_append] at mem
    rcases mem with mem | mem
    · rw [((Cycle.settle_offers course).1 job mem).origin]
      exact apart.symm
    · exact later.others job mem

/-- While an event is being settled it has not been disposed of. -/
theorem Turn.unnoted {settled : List Job} {before earlier own : List Act} {event : StoredEvent}
    {turn : SweepBatch} {left : Program (Except CycleError Submission)}
    (taken : Turn settled before event turn earlier own)
    (course : (Cycle.settle profile event turn).run.Course own left) :
    ∀ act ∈ before, ∀ disposition, act.request ≠ .store (.disposeEvent event.id disposition) := by
  obtain ⟨asked, rfl⟩ := taken.parts
  intro act among disposition same
  rcases List.mem_append.1 among with among | among
  · exact taken.spared act among disposition same
  rcases List.mem_cons.1 among with rfl | among
  · cases same
  · have kind := course.asked (Cycle.settle_asks _ _ _) act among
    rw [same] at kind
    exact Request.not_settles_disposeEvent _ _ kind

/-- Before the first turn a sweep lists the events. -/
theorem Turn.listed {settled : List Job} {before earlier own : List Act} {event : StoredEvent}
    {turn : SweepBatch} (taken : Turn settled before event turn earlier own) (listed : Site) :
    Turn settled (⟨listed, .store .unscheduledEvents⟩ :: before) event turn
      (⟨listed, .store .unscheduledEvents⟩ :: earlier) own where
  parts := by
    obtain ⟨asked, parts⟩ := taken.parts
    exact ⟨asked, by simp [parts]⟩
  batch := taken.batch
  spared act mem disposition same := by
    rcases List.mem_cons.1 mem with rfl | mem
    · cases same
    · exact taken.spared act mem disposition same
  others := taken.others

/-- What was handled so far is what earlier turns and the event's own one handled. -/
theorem Turn.settlements_eq {settled : List Job} {before earlier made own : List Act}
    {event : StoredEvent} {turn : SweepBatch}
    (taken : Turn settled before event turn earlier (made ++ own))
    (looks : ∀ act ∈ made, act.request.looks) :
    settlements before = settlements earlier ++ settlements own := by
  obtain ⟨asked, rfl⟩ := taken.parts
  have asking : settlements (⟨asked, .isCancelled⟩ :: (made ++ own)) = settlements (made ++ own) :=
    List.filterMap_cons_none rfl
  rw [settlements_append, asking, settlements_append, settlements_of_looks looks, List.nil_append]

/-- What an act of a sweep is: the question whether to go on, or part of an event's turn, namely
a step of settling it or the note of how it ended. -/
theorem at_act (sweeping : Sweeping profile events batch acts)
    (distinct : (events.map StoredEvent.id).Nodup) {before behind : List Act} {act : Act}
    (parts : acts = before ++ act :: behind) :
    act.request = .isCancelled ∨ ∃ event ∈ events, ∃ turn earlier own,
      Turn batch.settled before event turn earlier own ∧
        ((∃ last left, (Cycle.settle profile event turn).run.Course (own ++ act :: last) left) ∨
          (∃ left, (Cycle.settle profile event turn).run.Course own left) ∧
            act.request = .store (.disposeEvent event.id .failed) ∨
          ∃ submission, (Cycle.settle profile event turn).Gives own submission ∧
            act.request = .store (.disposeEvent event.id submission.disposition)) := by
  induction sweeping generalizing before with
  | rest => simp at parts
  | halted events batch asked =>
    cases before with
    | nil =>
      obtain ⟨rfl, -⟩ := List.cons.inj parts
      exact .inl rfl
    | cons head before => simp at parts
  | @held event events batch acts awaits asked noted granted rest ih =>
    have parts : [⟨asked, .isCancelled⟩] ++ ⟨noted, .store (.disposeEvent event.id .failed)⟩ :: acts =
      before ++ act :: behind := parts
    rcases split_at_note parts with
      ⟨rfl, rfl⟩ | ⟨first, last, rfl, none⟩ | ⟨rfl, rfl⟩ | ⟨later, rfl, rest⟩
    · exact .inl rfl
    · simp at none
    · exact .inr ⟨event, List.mem_cons_self, batch, [], [], .first event batch asked [],
        .inr (.inl ⟨⟨_, .rest _⟩, rfl⟩)⟩
    · obtain ⟨fresh, distinct⟩ := List.nodup_cons.1 distinct
      apply (ih distinct rest).imp_right
      rintro ⟨taken, mem, turn, earlier, own, later, step⟩
      have apart : taken.id ≠ event.id := fun same => fresh (same ▸ List.mem_map_of_mem mem)
      have idle : batch.settled = batch.settled ++ settlements [] := by simp [settlements]
      rw [idle] at later
      exact ⟨taken, List.mem_cons_of_mem _ mem, turn, _, own,
        later.after asked noted (.rest (Cycle.settle profile event batch).run) apart, step⟩
  | broken events asked course =>
    cases before with
    | nil =>
      obtain ⟨rfl, -⟩ := List.cons.inj parts
      exact .inl rfl
    | cons head first =>
      obtain ⟨rfl, rfl⟩ := List.cons.inj parts
      exact .inr ⟨_, List.mem_cons_self, _, [], first, .first _ _ asked first,
        .inl ⟨behind, _, course⟩⟩
  | @expired event events batch own asked noted course =>
    rcases split_at_note parts with
      ⟨rfl, rfl⟩ | ⟨first, last, rfl, rfl⟩ | ⟨rfl, rfl⟩ | ⟨later, -, none⟩
    · exact .inl rfl
    · exact .inr ⟨event, List.mem_cons_self, batch, [], first, .first event batch asked first,
        .inl ⟨last, _, course⟩⟩
    · exact .inr ⟨event, List.mem_cons_self, batch, [], own, .first event batch asked own,
        .inr (.inl ⟨⟨_, course⟩, rfl⟩)⟩
    · simp at none
  | @settled event events batch own rest submission free asked noted given granted sweeping ih =>
    rcases split_at_note parts with
      ⟨rfl, rfl⟩ | ⟨first, last, rfl, rfl⟩ | ⟨rfl, rfl⟩ | ⟨later, rfl, tail⟩
    · exact .inl rfl
    · exact .inr ⟨event, List.mem_cons_self, batch, [], first, .first event batch asked first,
        .inl ⟨last, _, given⟩⟩
    · exact .inr ⟨event, List.mem_cons_self, batch, [], own, .first event batch asked own,
        .inr (.inr ⟨submission, given, rfl⟩)⟩
    · obtain ⟨fresh, distinct⟩ := List.nodup_cons.1 distinct
      apply (ih distinct tail).imp_right
      rintro ⟨taken, mem, turn, earlier, acts, later, step⟩
      have apart : taken.id ≠ event.id := fun same => fresh (same ▸ List.mem_map_of_mem mem)
      rw [SweepBatch.extend, Cycle.settle_settlements given] at later
      exact ⟨taken, List.mem_cons_of_mem _ mem, turn, _, acts,
        later.after asked noted given apart, step⟩

/-- A job is offered while an event is settled. -/
theorem settling (sweeping : Sweeping profile events batch acts) {before behind : List Act}
    {site : Site} {job : Job} (parts : acts = before ++ ⟨site, .offer job⟩ :: behind) :
    ∃ event turn earlier own last left, before = earlier ++ own ∧
      (Cycle.settle profile event turn).run.Course (own ++ ⟨site, .offer job⟩ :: last) left := by
  induction sweeping generalizing before with
  | rest => simp at parts
  | halted events batch asked =>
    cases before with
    | nil => cases parts
    | cons head before => simp at parts
  | @held event events batch acts awaits asked noted granted rest ih =>
    have parts : [⟨asked, .isCancelled⟩] ++ ⟨noted, .store (.disposeEvent event.id .failed)⟩ :: acts =
      before ++ ⟨site, .offer job⟩ :: behind := parts
    rcases split_at_note parts with
      ⟨-, other⟩ | ⟨first, last, -, none⟩ | ⟨-, other⟩ | ⟨later, rfl, tail⟩
    · cases other
    · simp at none
    · cases other
    · obtain ⟨taken, turn, earlier, own, last, left, rfl, course⟩ := ih tail
      exact ⟨taken, turn, _, own, last, left, (List.append_assoc _ (_ :: _) _).symm, course⟩
  | @broken event events batch own left asked course =>
    cases before with
    | nil => cases parts
    | cons head first =>
      obtain ⟨rfl, rfl⟩ := List.cons.inj parts
      exact ⟨event, batch, [_], first, behind, left, rfl, course⟩
  | @expired event events batch own asked noted course =>
    rcases split_at_note parts with
      ⟨-, other⟩ | ⟨first, last, rfl, rfl⟩ | ⟨-, other⟩ | ⟨later, -, none⟩
    · cases other
    · exact ⟨event, batch, [_], first, last, _, rfl, course⟩
    · cases other
    · simp at none
  | @settled event events batch own rest submission free asked noted given granted sweeping ih =>
    rcases split_at_note parts with
      ⟨-, other⟩ | ⟨first, last, rfl, rfl⟩ | ⟨-, other⟩ | ⟨later, rfl, tail⟩
    · cases other
    · exact ⟨event, batch, [_], first, last, _, rfl, given⟩
    · cases other
    · obtain ⟨taken, turn, earlier, acts, last, left, rfl, course⟩ := ih tail
      exact ⟨taken, turn, _, acts, last, left, (List.append_assoc _ (_ :: _) _).symm, course⟩

/-- When a job is offered, the jobs of its event were made and those in front were offered. -/
theorem at_offer (sweeping : Sweeping profile events batch acts)
    (distinct : (events.map StoredEvent.id).Nodup) {before behind : List Act} {site : Site}
    {job : Job} (parts : acts = before ++ ⟨site, .offer job⟩ :: behind) :
    ∃ event ∈ events, ∃ turn earlier made own jobs,
      Turn batch.settled before event turn earlier (made ++ own) ∧
        (∀ act ∈ own, act.request.submits) ∧
        (Cycle.produce profile event turn.settled).Gives made jobs ∧ offers own ++ [job] <+: jobs ∧
        ∀ act ∈ before, ∀ disposition,
          act.request ≠ .store (.disposeEvent event.id disposition) := by
  rcases sweeping.at_act distinct parts with other | ⟨event, mem, turn, earlier, acts, taken, step⟩
  · cases other
  rcases step with ⟨last, left, course⟩ | ⟨-, other⟩ | ⟨submission, -, other⟩
  · obtain ⟨made, own, jobs, rfl, submits, given, offered⟩ := Cycle.settle_at_offer course
    obtain ⟨first, before, -⟩ := course.of_append
    exact ⟨event, mem, turn, earlier, made, own, jobs, taken, submits, given, offered,
      taken.unnoted before⟩
  · cases other
  · cases other

/-- An event is disposed of once. -/
theorem at_dispose (sweeping : Sweeping profile events batch acts)
    (distinct : (events.map StoredEvent.id).Nodup) {before behind : List Act} {site : Site}
    {id : Id} {disposition : Disposition}
    (parts : acts = before ++ ⟨site, .store (.disposeEvent id disposition)⟩ :: behind) :
    ∃ event ∈ events, event.id = id ∧ ∀ act ∈ before, ∀ disposition,
      act.request ≠ .store (.disposeEvent id disposition) := by
  have step := sweeping.at_act distinct parts
  rcases step with other | ⟨event, mem, turn, earlier, own, taken, step⟩
  · cases other
  have settled : event.id = id ∧ ∃ left, (Cycle.settle profile event turn).run.Course own left := by
    rcases step with ⟨last, left, course⟩ | ⟨course, failed⟩ | ⟨submission, given, noted⟩
    · have kind := course.asked (Cycle.settle_asks _ _ _)
        ⟨site, .store (.disposeEvent id disposition)⟩ (by simp)
      exact absurd kind (Request.not_settles_disposeEvent _ _)
    · have same : id = event.id ∧ disposition = .failed := by simpa using failed
      exact ⟨same.1.symm, course⟩
    · have same : id = event.id ∧ disposition = submission.disposition := by simpa using noted
      exact ⟨same.1.symm, _, given⟩
  obtain ⟨rfl, left, course⟩ := settled
  exact ⟨event, mem, rfl, taken.unnoted course⟩

/-- When an event is noted to be done, all its jobs were handled. -/
theorem at_note (sweeping : Sweeping profile events batch acts)
    (distinct : (events.map StoredEvent.id).Nodup) {before behind : List Act} {site : Site}
    {id : Id} {disposition : Disposition} (kept : disposition ≠ .failed)
    (parts : acts = before ++ ⟨site, .store (.disposeEvent id disposition)⟩ :: behind) :
    ∃ event ∈ events, event.id = id ∧ ∃ turn earlier made own,
      Turn batch.settled before event turn earlier (made ++ own) ∧
        (Cycle.produce profile event turn.settled).Gives made (settlements own) := by
  rcases sweeping.at_act distinct parts with other | ⟨event, mem, turn, earlier, acts, taken, step⟩
  · cases other
  rcases step with ⟨last, left, course⟩ | ⟨-, failed⟩ | ⟨submission, given, noted⟩
  · have kind := course.asked (Cycle.settle_asks _ _ _) ⟨site, .store (.disposeEvent id disposition)⟩
      (List.mem_append_right _ List.mem_cons_self)
    exact absurd kind (Request.not_settles_disposeEvent _ _)
  · cases failed
    exact absurd rfl kept
  · obtain ⟨rfl, rfl⟩ : id = event.id ∧ disposition = submission.disposition := by
      simpa using noted
    obtain ⟨made, own, jobs, rfl, looks, given, submitted⟩ := Cycle.settle_gives given
    refine ⟨event, mem, rfl, turn, earlier, made, own, taken, ?_⟩
    have all := submitted.split
    rw [submitted.complete kept, List.append_nil, submitted.settled] at all
    rwa [all]

/-- When an event is noted to be scheduled, it is under the id of a job of it that was accepted. -/
theorem at_scheduled (sweeping : Sweeping profile events batch acts)
    (distinct : (events.map StoredEvent.id).Nodup) {before behind : List Act} {site : Site}
    {event id : Id} (parts : acts = before ++ ⟨site, .store (.disposeEvent event (.scheduled id))⟩ :: behind) :
    ∃ offered job, ⟨offered, .offer job⟩ ∈ before ∧ offered.world.queue.refusal? job = none ∧
      offered.world.mint.next.1 = id ∧ job.originEvent = event := by
  rcases sweeping.at_act distinct parts with other | ⟨taken, -, batch, earlier, own, turn, step⟩
  · cases other
  rcases step with ⟨last, left, course⟩ | ⟨-, failed⟩ | ⟨submission, given, noted⟩
  · have kind := course.asked (Cycle.settle_asks _ _ _)
      ⟨site, .store (.disposeEvent event (.scheduled id))⟩ (by simp)
    exact absurd kind (Request.not_settles_disposeEvent _ _)
  · cases failed
  · obtain ⟨rfl, scheduled⟩ : event = taken.id ∧ .scheduled id = submission.disposition := by
      simpa using noted
    have answers := (Cycle.settle_offers given).1
    obtain ⟨jobs, made, submitted, rfl, -, given⟩ := Cycle.gives_settle_iff.1 given
    rcases Cycle.submit_scheduled given scheduled.symm with carried | ⟨offered, job, mem, took, minted⟩
    · cases carried
    have among : ⟨offered, .offer job⟩ ∈ made ++ submitted := List.mem_append_right _ mem
    have origin : job.originEvent = taken.id :=
      (answers job (List.mem_filterMap.2 ⟨_, among, rfl⟩)).origin
    obtain ⟨asked, rfl⟩ := turn.parts
    exact ⟨offered, job, List.mem_append_right _ (List.mem_cons_of_mem _ among), took, minted, origin⟩

end Sweeping

/-- Between two sweeps anything may happen. -/
def betweenSweeps : Freedom where
  requests request := ¬ request.sweeps
  chains _ _ := True
  orders := True
  rebuilding := True

/-- Within a sweep anything may happen but another sweep, and the watch stays. -/
def withinSweep : Freedom := { betweenSweeps with rebuilding := False }

namespace Freedom

/-- The freedom without changes of the accounts, offerings and channels. -/
def steady (freedom : Freedom) : Freedom :=
  { freedom with requests := fun request => freedom.requests request ∧ ¬ request.seeds }

/-- The freedom without orders to the queue. -/
def silent (freedom : Freedom) : Freedom := { freedom with orders := False }

/-- Nothing else sweeps between two sweeps. -/
theorem between_spares : ∀ request, betweenSweeps.requests request → ¬ request.sweeps :=
  fun _ => id

theorem within_spares : ∀ request, withinSweep.requests request → ¬ request.sweeps := fun _ => id

theorem steady_spares {freedom : Freedom}
    (spared : ∀ request, freedom.requests request → ¬ request.sweeps) :
    ∀ request, freedom.steady.requests request → ¬ request.sweeps :=
  fun request may => spared request may.1

theorem silent_spares {freedom : Freedom}
    (spared : ∀ request, freedom.requests request → ¬ request.sweeps) :
    ∀ request, freedom.silent.requests request → ¬ request.sweeps := spared

theorem steady_agrees (freedom : Freedom) : freedom.steady.Carries World.Agrees :=
  World.carries_agrees fun _ may => may.2

end Freedom

namespace Cycle

variable {profile : Profile} {before behind : List Act} {site first last : Site}
  {left : Program (Except CycleError SweepReport)} {freedom : Freedom}

/-- The events of a sweep's snapshot have different ids. -/
theorem sweep_at {act : Act} (course : (sweep profile).run.Course (before ++ act :: behind) left)
    (joins : freedom.Joins first (before ++ act :: behind) last) (numbered : first.world.Numbered)
    (apart : last.world.mint.used.Nodup) (other : act.request ≠ .store .unscheduledEvents) :
    ∃ listed rest, before = ⟨listed, .store .unscheduledEvents⟩ :: rest ∧
      Sweeping profile listed.world.store.unscheduled .empty (rest ++ act :: behind) ∧
      (listed.world.store.unscheduled.map StoredEvent.id).Nodup ∧
      freedom.Joins (Act.mk listed (.store .unscheduledEvents)).after rest act.site := by
  rcases sweep_course course with none | ⟨listed, tail, parts, sweeping⟩
  · simp at none
  cases before with
  | nil =>
    obtain ⟨rfl, -⟩ := List.cons.inj parts
    exact absurd rfl other
  | cons head rest =>
    obtain ⟨rfl, rfl⟩ := List.cons.inj parts
    obtain ⟨start, tail⟩ := joins.of_cons
    have grows : listed.world.Grows last.world := .trans (.of_makes (listed.makes _)) tail.grows
    exact ⟨listed, rest, rfl, sweeping,
      (start.numbered numbered).nodup_unscheduled (grows.used.nodup apart), tail.at.1⟩

/-- A sweep offers a job while it settles an event. -/
theorem sweep_settling {job : Job}
    (course : (sweep profile).run.Course (before ++ ⟨site, .offer job⟩ :: behind) left) :
    ∃ event turn earlier own last left, before = earlier ++ own ∧
      (settle profile event turn).run.Course (own ++ ⟨site, .offer job⟩ :: last) left := by
  rcases sweep_course course with none | ⟨listed, tail, parts, sweeping⟩
  · simp at none
  cases before with
  | nil => cases parts
  | cons head rest =>
    obtain ⟨rfl, rfl⟩ := List.cons.inj parts
    obtain ⟨event, turn, earlier, own, last, left, rfl, settling⟩ := sweeping.settling rfl
    exact ⟨event, turn, _ :: earlier, own, last, left, rfl, settling⟩

/-- When a sweep offers a job, its event waits, the jobs of the event were made and those in front
were offered. -/
theorem sweep_at_offer {job : Job}
    (spared : ∀ request, freedom.requests request → ¬ request.sweeps)
    (course : (sweep profile).run.Course (before ++ ⟨site, .offer job⟩ :: behind) left)
    (joins : freedom.Joins first (before ++ ⟨site, .offer job⟩ :: behind) last)
    (numbered : first.world.Numbered) (apart : last.world.mint.used.Nodup) :
    ∃ event turn earlier made own jobs, site.world.Waits event.id event.log ∧
      Sweeping.Turn [] before event turn earlier (made ++ own) ∧
      (∀ act ∈ own, act.request.submits) ∧ (produce profile event turn.settled).Gives made jobs ∧
      offers own ++ [job] <+: jobs := by
  obtain ⟨listed, rest, rfl, sweeping, distinct, tail⟩ :=
    sweep_at course joins numbered apart (by simp)
  obtain ⟨event, among, turn, earlier, made, own, jobs, taken, submits, given, offered, kept⟩ :=
    sweeping.at_offer distinct rfl
  have waits : site.world.Waits event.id event.log :=
    tail.waits spared kept (.of_makes (listed.makes _) (by simp) (World.waits_of_mem_unscheduled among))
  exact ⟨event, turn, _, made, own, jobs, waits, taken.listed listed, submits, given, offered⟩

/-- When a sweep disposes of an event, the event waits. -/
theorem sweep_at_dispose {id : Id} {disposition : Disposition}
    (spared : ∀ request, freedom.requests request → ¬ request.sweeps)
    (course : (sweep profile).run.Course
      (before ++ ⟨site, .store (.disposeEvent id disposition)⟩ :: behind) left)
    (joins : freedom.Joins first
      (before ++ ⟨site, .store (.disposeEvent id disposition)⟩ :: behind) last)
    (numbered : first.world.Numbered) (apart : last.world.mint.used.Nodup) :
    ∃ log, site.world.Waits id log := by
  obtain ⟨listed, rest, rfl, sweeping, distinct, tail⟩ :=
    sweep_at course joins numbered apart (by simp)
  obtain ⟨event, among, rfl, kept⟩ := sweeping.at_dispose distinct rfl
  exact ⟨event.log, tail.waits spared kept
    (.of_makes (listed.makes _) (by simp) (World.waits_of_mem_unscheduled among))⟩

/-- When a sweep notes an event to be scheduled, the queue holds a job of it under that id. -/
theorem sweep_at_scheduled {event id : Id}
    (course : (sweep profile).run.Course
      (before ++ ⟨site, .store (.disposeEvent event (.scheduled id))⟩ :: behind) left)
    (joins : freedom.Joins first
      (before ++ ⟨site, .store (.disposeEvent event (.scheduled id))⟩ :: behind) last)
    (numbered : first.world.Numbered) (apart : last.world.mint.used.Nodup) :
    ∃ job, (id, job) ∈ site.world.queue.jobs ∧ job.originEvent = event := by
  obtain ⟨listed, rest, rfl, sweeping, distinct, tail⟩ :=
    sweep_at course joins numbered apart (by simp)
  obtain ⟨offered, job, mem, taken, minted, origin⟩ := sweeping.at_scheduled distinct rfl
  obtain ⟨front, back, rfl⟩ := List.append_of_mem mem
  have grows := tail.at.2.grows
  have held : (id, job) ∈ (Act.mk offered (.offer job)).after.world.queue.jobs := by
    simp [Act.after, Site.perform, Queue.add_eq_of_taken taken, minted]
  exact ⟨job, grows.jobs.subset held, origin⟩

/-- When a sweep notes an event to be done, all jobs of the event were handled. -/
theorem sweep_at_note {id : Id} {disposition : Disposition} (kept : disposition ≠ .failed)
    (course : (sweep profile).run.Course
      (before ++ ⟨site, .store (.disposeEvent id disposition)⟩ :: behind) left)
    (joins : freedom.Joins first
      (before ++ ⟨site, .store (.disposeEvent id disposition)⟩ :: behind) last)
    (numbered : first.world.Numbered) (apart : last.world.mint.used.Nodup) :
    ∃ event turn earlier made own, event.id = id ∧ site.world.Files event.id event.log ∧
      Sweeping.Turn [] before event turn earlier (made ++ own) ∧
      (produce profile event turn.settled).Gives made (settlements own) := by
  obtain ⟨listed, rest, rfl, sweeping, distinct, tail⟩ :=
    sweep_at course joins numbered apart (by simp)
  obtain ⟨event, among, same, turn, earlier, made, own, taken, given⟩ :=
    sweeping.at_note distinct kept rfl
  have files : site.world.Files event.id event.log :=
    (World.waits_of_mem_unscheduled among).files.grow
      (.trans (.of_makes (listed.makes _)) tail.grows)
  exact ⟨event, turn, _, made, own, same, files, taken.listed listed, given⟩

end Cycle

end ChannelWatch
