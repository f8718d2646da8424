import ChannelWatch.Proofs.Pass
import ChannelWatch.Proofs.Announcement

/-!
# Events that are held back

Where the queue refuses the job that announces an offering, a sweep does not look at the events
that change the supply of that offering any more, but leaves them for the next sweep. It handles
all other events as if nothing had been refused. The main statement is `held_back_iff`.
-/

namespace ChannelWatch
set_option autoImplicit false

/-- The log tells of a change of the offering's supply. -/
def Log.ChangesSupplyOf (log : Log) (offering : Hash) : Prop :=
  (log.kind = some .channelCreated ∨ log.kind = some .cooperativeClose ∨
    log.kind = some .uncooperativeClose) ∧ log.topic 3 = some offering

/-- The queue refused the job, and not because it had it already. -/
def Act.Refuses (act : Act) (job : Job) : Prop :=
  act.request = .offer job ∧ (act.site.world.queue.refusal? job = some .closed ∨
    ∃ text, act.site.world.queue.refusal? job = some (.other text))

/-- The job that was to announce the offering, for one of the events, was refused. -/
def RefusedAnnouncement (events : List StoredEvent) (acts : List Act) (offering : Hash) : Prop :=
  ∃ act ∈ acts, ∃ job, act.Refuses job ∧
    (job.type = .clientAfterOfferingPublish ∨ job.type = .clientAfterOfferingPopUp) ∧
    ∃ origin ∈ events, job.Answers origin ∧ origin.log.topic 2 = some offering

/-- The event changes the supply of an offering whose announcement was refused. -/
def HeldBack (events : List StoredEvent) (acts : List Act) (event : StoredEvent) : Prop :=
  ∃ offering, event.log.ChangesSupplyOf offering ∧ RefusedAnnouncement events acts offering

/-- Some of the jobs announces the offering. -/
def AnyAnnounces (jobs : List Job) (offering : Hash) : Prop :=
  ∃ job ∈ jobs, (job.announced? offering).isSome = true

instance (jobs : List Job) (offering : Hash) : Decidable (AnyAnnounces jobs offering) :=
  inferInstanceAs (Decidable (∃ job ∈ jobs, _))

theorem anyAnnounces_append_iff {front back : List Job} {offering : Hash} :
    AnyAnnounces (front ++ back) offering ↔
      AnyAnnounces front offering ∨ AnyAnnounces back offering := by
  simp only [AnyAnnounces, List.mem_append, or_and_right, exists_or]

theorem not_anyAnnounces_nil (offering : Hash) : ¬ AnyAnnounces [] offering := by
  rintro ⟨job, mem, -⟩
  cases mem

theorem Log.kind_changesSupply_iff (log : Log) :
    log.kind.any EventKind.changesSupply = true ↔ log.kind = some .channelCreated ∨
      log.kind = some .cooperativeClose ∨ log.kind = some .uncooperativeClose := by
  cases log.kind with
  | none => simp
  | some kind => cases kind <;> simp [EventKind.changesSupply]

theorem SweepBatch.awaitsAnnouncement_iff (batch : SweepBatch) (event : StoredEvent) :
    batch.awaitsAnnouncement event = true ↔
      ∃ offering, event.log.ChangesSupplyOf offering ∧ AnyAnnounces batch.unsettled offering := by
  rw [awaitsAnnouncement, Bool.and_eq_true, Log.kind_changesSupply_iff, Option.any_eq_true]
  simp only [List.any_eq_true]
  constructor
  · rintro ⟨kind, offering, topic, announces⟩
    exact ⟨offering, ⟨kind, topic⟩, announces⟩
  · rintro ⟨offering, ⟨kind, topic⟩, announces⟩
    exact ⟨kind, offering, topic, announces⟩

/-- A job announces the offering that the log it carries names. -/
theorem Job.Answers.announced?_isSome_iff {job : Job} {origin : StoredEvent}
    (answers : job.Answers origin) (offering : Hash) :
    (job.announced? offering).isSome = true ↔
      (job.type = .clientAfterOfferingPublish ∨ job.type = .clientAfterOfferingPopUp) ∧
        origin.log.topic 2 = some offering := by
  obtain ⟨payload, held, log⟩ := Option.map_eq_some_iff.1 answers.log
  have types : job.type.announcesOffering = true ↔
      job.type = .clientAfterOfferingPublish ∨ job.type = .clientAfterOfferingPopUp := by
    cases job.type <;> simp [JobType.announcesOffering]
  rw [← types, Job.announced?, held, Option.bind_some, log]
  split <;> simp_all

/-- The job that was offered and refused. -/
def Act.refused? (act : Act) : Option Job :=
  act.offered?.filter fun job => !act.site.world.queue.handles job

/-- The jobs that were offered and refused. -/
def refusals (acts : List Act) : List Job := acts.filterMap Act.refused?

@[simp] theorem refusals_append (before behind : List Act) :
    refusals (before ++ behind) = refusals before ++ refusals behind := List.filterMap_append

theorem Queue.handles_eq_false_iff {queue : Queue} {job : Job} :
    queue.handles job = false ↔
      queue.refusal? job = some .closed ∨ ∃ text, queue.refusal? job = some (.other text) := by
  unfold Queue.handles
  cases queue.refusal? job with
  | none => simp
  | some error => cases error <;> simp [QueueError.isHandled]

theorem Act.refused?_eq_some_iff {act : Act} {job : Job} :
    act.refused? = some job ↔ act.Refuses job := by
  rw [refused?, Option.filter_eq_some_iff, Bool.not_eq_true', Queue.handles_eq_false_iff]
  refine and_congr_left fun _ => ⟨fun offered => ?_, fun asked => ?_⟩
  · obtain ⟨site, rfl⟩ := Act.offered?_eq_some offered
    rfl
  · simp [offered?, asked]

theorem mem_refusals_iff {acts : List Act} {job : Job} :
    job ∈ refusals acts ↔ ∃ act ∈ acts, act.Refuses job := by
  simp only [refusals, List.mem_filterMap, Act.refused?_eq_some_iff]

theorem refusals_of_looks {acts : List Act} (looks : ∀ act ∈ acts, act.request.looks) :
    refusals acts = [] :=
  List.filterMap_eq_nil_iff.2 fun act mem => by
    rw [Act.refused?, Act.offered?_of_looks (looks act mem), Option.filter_none]

section Pass
variable {own rest : List Act} {asked noted : Site} {event : Id} {disposition : Disposition}

theorem mem_offers_pass_iff {job : Job} :
    job ∈ offers (⟨asked, .isCancelled⟩ :: own ++
      ⟨noted, .store (.disposeEvent event disposition)⟩ :: rest) ↔
        job ∈ offers own ∨ job ∈ offers rest := by
  rw [offers_append, List.mem_append]
  rfl

theorem settlements_pass : settlements (⟨asked, .isCancelled⟩ :: own ++
    ⟨noted, .store (.disposeEvent event disposition)⟩ :: rest) =
      settlements own ++ settlements rest := settlements_append _ _

theorem refusals_pass : refusals (⟨asked, .isCancelled⟩ :: own ++
    ⟨noted, .store (.disposeEvent event disposition)⟩ :: rest) =
      refusals own ++ refusals rest := refusals_append _ _

end Pass

namespace Cycle

variable {profile : Profile} {event : StoredEvent} {events : List StoredEvent} {batch : SweepBatch}
  {report : SweepReport} {acts before behind : List Act} {offering : Hash} {job : Job} {site : Site}
  {submission : Submission}

/-- What is left of a submission begins with the job that was refused. -/
theorem submit_refusals {rateAfter : UInt32} {jobs : List Job} {accepted : Option Id}
    (given : (submit rateAfter jobs accepted).Gives acts submission) :
    refusals acts = submission.unsettled.take 1 := by
  induction jobs generalizing acts accepted submission with
  | nil =>
    obtain ⟨rfl, rfl⟩ := gives_pure_iff.1 given
    rfl
  | cons job jobs ih =>
    rcases gives_submit_cons given with
      ⟨site, ⟨handled, counts, behind, next, rest, rfl, quiet, -, later, rfl⟩ | ⟨refused, rfl, rfl⟩⟩
    · have silent : refusals counts = [] := List.filterMap_eq_nil_iff.2 fun act mem => by
        simp [Act.refused?, Act.offered?, quiet act mem]
      have first : (Act.mk site (.offer job)).refused? = none := by
        simp [Act.refused?, Act.offered?, handled]
      rw [refusals, List.filterMap_cons_none first]
      show refusals (counts ++ behind) = _
      rw [refusals_append, silent, List.nil_append, ih later]
    · have first : (Act.mk site (.offer job)).refused? = some job := by
        simp [Act.refused?, Act.offered?, refused]
      rw [refusals, List.filterMap_cons_some first]
      rfl

/-- An announcement is offered alone: where one is left over, it is the one that was refused. -/
theorem settle_refusals (given : (settle profile event batch).Gives acts submission)
    (offering : Hash) :
    AnyAnnounces submission.unsettled offering ↔ AnyAnnounces (refusals acts) offering := by
  obtain ⟨jobs, made, own, rfl, produced, submitted⟩ := gives_settle_iff.1 given
  have refused : refusals (made ++ own) = submission.unsettled.take 1 := by
    rw [refusals_append, refusals_of_looks (produced.asked (produce_asks _ _ _)), List.nil_append,
      submit_refusals submitted]
  rw [refused]
  constructor
  · rintro ⟨job, left, announces⟩
    obtain ⟨id, announced⟩ := Option.isSome_iff_exists.1 announces
    have split := (submit_gives submitted).split
    have called : job ∈ jobs := split ▸ List.mem_append_right _ left
    have sole := (produce_announces produced called announced).1
    have short : submission.unsettled.length ≤ 1 := by
      have lengths := congrArg List.length (split.trans sole)
      rw [List.length_append, List.length_singleton] at lengths
      omega
    rw [List.take_of_length_le short]
    exact ⟨job, left, announces⟩
  · rintro ⟨job, first, announces⟩
    exact ⟨job, List.mem_of_mem_take first, announces⟩

/-- After an announcement no other job of the event is offered. -/
theorem settle_after_announcement {left : Program (Except CycleError Submission)}
    (course : (settle profile event batch).run.Course (before ++ ⟨site, .offer job⟩ :: behind) left)
    (announces : (job.announced? offering).isSome = true) : offers behind = [] := by
  obtain ⟨id, announced⟩ := Option.isSome_iff_exists.1 announces
  obtain ⟨made, own, jobs, parts, looks, -, offered, given⟩ := settle_course course
  have all : offers before ++ job :: offers behind = offers own := by
    have whole := congrArg offers parts
    rw [offers_append, offers_append, offers_of_looks looks, List.nil_append] at whole
    exact whole
  rw [← all] at offered
  have among : job ∈ jobs := offered.subset (by simp)
  rcases given with rfl | given
  · simp [offers] at all
  · have sole := (produce_announces given among announced).1
    have short := offered.length_le
    rw [sole] at short
    simp only [List.length_append, List.length_cons, List.length_nil] at short
    exact List.eq_nil_of_length_eq_zero (by omega)

/-- An act of a pass that is not the first one is one of its own acts, or comes behind them. -/
theorem split_pass {head act : Act} {own tail before behind : List Act} (other : act ≠ head)
    (parts : before ++ act :: behind = head :: (own ++ tail)) :
    (∃ first last, own = first ++ act :: last ∧ behind = last ++ tail) ∨
      ∃ front, tail = front ++ act :: behind := by
  cases before with
  | nil => exact absurd (List.cons.inj parts).1 other
  | cons first before =>
    obtain ⟨-, body⟩ := List.cons.inj parts
    rcases List.append_eq_append_iff.1 body with ⟨late, rfl, rest⟩ | ⟨late, rfl, rest⟩
    · cases late with
      | nil => exact .inr ⟨[], rest.symm⟩
      | cons first late =>
        obtain ⟨rfl, rfl⟩ := List.cons.inj rest
        exact .inl ⟨before, late, rfl, rfl⟩
    · exact .inr ⟨late, rest⟩

/-- The batch of a sweep holds the jobs that were handled so far and announces what was refused. -/
theorem Through.announces {turn : SweepBatch} {dealings : List Dealing}
    (through : Through profile events batch acts dealings turn) :
    turn.settled = batch.settled ++ settlements acts ∧
      ∀ offering, AnyAnnounces turn.unsettled offering ↔
        AnyAnnounces batch.unsettled offering ∨ AnyAnnounces (refusals acts) offering := by
  induction through with
  | start batch =>
    refine ⟨by simp [settlements], fun offering => ?_⟩
    exact (or_iff_left (not_anyAnnounces_nil offering)).symm
  | held asked noted awaits granted rest ih => exact ih
  | settled asked noted free made submitted granted rest ih =>
    obtain ⟨settled, unsettled⟩ := ih
    have given := gives_settle_iff.2 ⟨_, _, _, rfl, made, submitted⟩
    refine ⟨?_, fun offering => ?_⟩
    · rw [settled, settlements_pass, SweepBatch.extend, settle_settlements given, List.append_assoc]
    · rw [unsettled, refusals_pass, SweepBatch.extend, anyAnnounces_append_iff,
        settle_refusals given, anyAnnounces_append_iff, or_assoc]

/-- A job of an event that is settled changes no supply whose announcement is unsettled. -/
theorem settle_quiet {left : Program (Except CycleError Submission)}
    (course : (settle profile event batch).run.Course acts left)
    (free : batch.awaitsAnnouncement event = false)
    (unsettled : AnyAnnounces batch.unsettled offering) :
    ∀ job ∈ offers acts, ∀ origin, job.Answers origin → ¬ origin.log.ChangesSupplyOf offering := by
  intro job mem origin answers changes
  have own := (settle_offers course).1 job mem
  have same : event.log = origin.log := Option.some.inj (own.log.symm.trans answers.log)
  have awaits : batch.awaitsAnnouncement event = true :=
    (batch.awaitsAnnouncement_iff event).2 ⟨offering, same ▸ changes, unsettled⟩
  rw [free] at awaits
  cases awaits

/-- While an announcement is unsettled no change of that supply is handed in. -/
theorem sweepThrough_quiet {left : Program (Except CycleError SweepReport)}
    (course : (sweepThrough profile events batch report).run.Course acts left)
    (unsettled : AnyAnnounces batch.unsettled offering) :
    ∀ job ∈ offers acts, ∀ origin, job.Answers origin → ¬ origin.log.ChangesSupplyOf offering := by
  induction events generalizing batch report acts with
  | nil =>
    obtain ⟨rfl, -⟩ := Program.course_done_iff.1 course
    simp [offers]
  | cons event events ih =>
    cases sweepThrough_pass course with
    | waiting | halted => simp [offers, Act.offered?]
    | @stopped own note _ _ asked begun run refused ends =>
      have offers_eq : offers (⟨asked, .isCancelled⟩ :: (own ++ note)) = offers own := by
        show offers (own ++ note) = _
        rcases refused with rfl | ⟨noted, disposition, e, rfl, -⟩
        · rw [List.append_nil]
        · exact (offers_append _ _).trans (List.append_nil _)
      rw [offers_eq]
      rcases begun with rfl | free
      · simp [offers]
      · exact settle_quiet run free unsettled
    | expired asked noted free run granted =>
      intro job mem
      rcases mem_offers_pass_iff.1 mem with here | later
      · exact settle_quiet run free unsettled job here
      · cases later
    | held asked noted awaits granted rest =>
      have quiet := ih rest unsettled
      exact quiet
    | settled asked noted free given granted rest =>
      intro job mem
      rcases mem_offers_pass_iff.1 mem with here | later
      · exact settle_quiet given free unsettled job here
      · exact ih rest (anyAnnounces_append_iff.2 (.inl unsettled)) job later

/-- Once an announcement is refused no change of that supply is handed in. -/
theorem sweepThrough_after_refusal {left : Program (Except CycleError SweepReport)}
    (course : (sweepThrough profile events batch report).run.Course
      (before ++ ⟨site, .offer job⟩ :: behind) left)
    (refused : (Act.mk site (.offer job)).Refuses job)
    (announces : (job.announced? offering).isSome = true) :
    ∀ later ∈ offers behind, ∀ origin, later.Answers origin →
      ¬ origin.log.ChangesSupplyOf offering := by
  generalize parts : before ++ ⟨site, .offer job⟩ :: behind = acts at course
  induction events generalizing batch report acts before with
  | nil =>
    obtain ⟨rfl, -⟩ := Program.course_done_iff.1 course
    simp at parts
  | cons event events ih =>
    have apart : ∀ asked : Site, Act.mk site (.offer job) ≠ ⟨asked, .isCancelled⟩ := by simp
    -- The offer was made for this event, and no other one for it comes after, or in a later pass.
    have alone : ∀ {first last : List Act} {left : Program (Except CycleError Submission)},
        (settle profile event batch).run.Course (first ++ ⟨site, .offer job⟩ :: last) left →
          offers last = [] := fun run => settle_after_announcement run announces
    have onward : ∀ {front rest : List Act} {noted : Site} {disposition : Disposition}
        {batch : SweepBatch} {report : SweepReport},
        Act.mk noted (.store (.disposeEvent event.id disposition)) :: rest =
          front ++ ⟨site, .offer job⟩ :: behind →
        (sweepThrough profile events batch report).run.Course rest left →
        ∀ later ∈ offers behind, ∀ origin, later.Answers origin →
          ¬ origin.log.ChangesSupplyOf offering := by
      intro front rest noted disposition batch report tail course
      cases front with
      | nil => cases tail
      | cons note front => exact ih _ (List.cons.inj tail).2.symm course
    cases sweepThrough_pass course with
    | waiting => simp at parts
    | halted asked cancelled =>
      cases before <;> simp at parts
    | @stopped own note _ _ asked begun run refused ends =>
      have silent : offers note = [] := by
        rcases refused with rfl | ⟨noted, disposition, e, rfl, -⟩ <;> rfl
      rcases split_pass (apart asked) parts with ⟨first, last, rfl, rfl⟩ | ⟨front, rfl⟩
      · rw [offers_append, alone run, silent]
        simp
      · simp [offers, Act.offered?] at silent
    | @expired own asked noted free run granted =>
      rcases split_pass (apart asked) parts with ⟨first, last, rfl, rfl⟩ | ⟨front, tail⟩
      · rw [offers_append, alone run]
        simp [offers, Act.offered?]
      · cases front <;> simp at tail
    | @held rest _ asked noted awaits granted further =>
      have parts : before ++ ⟨site, .offer job⟩ :: behind = ⟨asked, .isCancelled⟩ ::
          ([] ++ ⟨noted, .store (.disposeEvent event.id .failed)⟩ :: rest) := parts
      rcases split_pass (apart asked) parts with ⟨first, last, none, -⟩ | ⟨front, tail⟩
      · simp at none
      · exact onward tail further
    | @settled own rest _ submission asked noted free given granted further =>
      rcases split_pass (apart asked) parts with ⟨first, last, rfl, rfl⟩ | ⟨front, tail⟩
      · have spurned : AnyAnnounces (refusals (first ++ ⟨site, .offer job⟩ :: last)) offering :=
          ⟨job, mem_refusals_iff.2 ⟨_, by simp, refused⟩, announces⟩
        have unsettled : AnyAnnounces (batch.extend submission).unsettled offering :=
          anyAnnounces_append_iff.2 (.inr ((settle_refusals given offering).2 spurned))
        have quiet := sweepThrough_quiet further unsettled
        rw [offers_append, alone given, List.nil_append]
        exact quiet
      · exact onward tail further

end Cycle

/-- The jobs that a sweep offers answer its events. -/
theorem Sweeping.answers {profile : Profile} {events : List StoredEvent} {batch : SweepBatch}
    {acts : List Act} (sweeping : Sweeping profile events batch acts) :
    ∀ job ∈ offers acts, ∃ event ∈ events, job.Answers event := by
  induction sweeping with
  | rest | halted => simp [offers, Act.offered?]
  | @held event events _ acts awaits asked noted granted rest ih =>
    intro job mem
    obtain ⟨origin, among, answers⟩ := ih job mem
    exact ⟨origin, List.mem_cons_of_mem _ among, answers⟩
  | broken events asked course =>
    exact fun job mem => ⟨_, List.mem_cons_self, (Cycle.settle_offers course).1 job mem⟩
  | expired events asked noted course =>
    intro job mem
    rcases mem_offers_pass_iff.1 mem with here | later
    · exact ⟨_, List.mem_cons_self, (Cycle.settle_offers course).1 job here⟩
    · cases later
  | settled free asked noted given granted rest ih =>
    intro job mem
    rcases mem_offers_pass_iff.1 mem with here | later
    · exact ⟨_, List.mem_cons_self, (Cycle.settle_offers given).1 job here⟩
    · obtain ⟨origin, among, answers⟩ := ih job later
      exact ⟨origin, List.mem_cons_of_mem _ among, answers⟩

/-- An announcement that a sweep had refused is that of one of its events. -/
theorem Sweeping.refusedAnnouncement_iff {profile : Profile} {events : List StoredEvent}
    {batch : SweepBatch} {acts : List Act} (sweeping : Sweeping profile events batch acts)
    (offering : Hash) :
    RefusedAnnouncement events acts offering ↔ AnyAnnounces (refusals acts) offering := by
  constructor
  · rintro ⟨act, mem, job, refuses, type, origin, -, answers, topic⟩
    exact ⟨job, mem_refusals_iff.2 ⟨act, mem, refuses⟩,
      (answers.announced?_isSome_iff offering).2 ⟨type, topic⟩⟩
  · rintro ⟨job, refused, announces⟩
    obtain ⟨act, mem, refuses⟩ := mem_refusals_iff.1 refused
    obtain ⟨site, request⟩ := act
    obtain rfl : request = .offer job := refuses.1
    obtain ⟨origin, among, answers⟩ := sweeping.answers job (List.mem_filterMap.2 ⟨_, mem, rfl⟩)
    obtain ⟨type, topic⟩ := (answers.announced?_isSome_iff offering).1 announces
    exact ⟨_, mem, job, refuses, type, origin, among, answers, topic⟩

/-- Whenever a sweep takes up an event, having done the acts `own` since its snapshot, it leaves the
event for another sweep without making its jobs if the announcement of the offering whose supply it
changes was refused in `own`, and else settles it, with the batch that it had if nothing had been
refused. Once an announcement was refused, no job of an event that changes that supply is offered
any more. -/
theorem held_back_iff (profile : Profile) :
    (∀ (before : List Act) (guard : Guard)
      (next : Outcome guard Request.isCancelled.Reply → Program (Except CycleError SweepReport)),
      (Cycle.sweep profile).run.Course before (.ask guard .isCancelled next) →
      ∃ listed own front event later batch report,
        before = ⟨listed, .store .unscheduledEvents⟩ :: own ∧
        listed.world.store.unscheduled = front ++ event :: later ∧
        (disposals own).map Prod.fst = front.map StoredEvent.id ∧
        next (.reply true) = .done (.ok report) ∧
        (HeldBack listed.world.store.unscheduled own event ∧
            next (.reply false) = (Cycle.passOver profile event later batch report).run ∨
          ¬ HeldBack listed.world.store.unscheduled own event ∧
            next (.reply false) =
              (Cycle.attempt (Cycle.settle profile event ⟨settlements own, []⟩) >>=
                Cycle.conclude profile event later batch report).run)) ∧
    ∀ (listed : Site) (own behind : List Act) (left : Program (Except CycleError SweepReport))
      (offering : Hash),
      (Cycle.sweep profile).run.Course (⟨listed, .store .unscheduledEvents⟩ :: own ++ behind) left →
      RefusedAnnouncement listed.world.store.unscheduled own offering →
      ∀ job ∈ offers behind, ∀ event, job.Answers event → ¬ event.log.ChangesSupplyOf offering := by
  constructor
  · intro before guard next course
    rcases Cycle.sweep_listed course with ⟨-, pending | ⟨e, ended⟩⟩ | ⟨listed, own, rfl, -, sweeping⟩
    · exact absurd rfl pending
    · cases ended
    obtain ⟨front, event, later, dealings, turn, total, split, through, halts, goesOn⟩ :=
      Cycle.sweepThrough_through sweeping
    obtain ⟨settled, unsettled⟩ := through.announces
    refine ⟨listed, own, front, event, later, turn, total, rfl, split, through.recorded, halts, ?_⟩
    have known := (Cycle.sweepThrough_course sweeping).refusedAnnouncement_iff
    have awaits : turn.awaitsAnnouncement event = true ↔
        HeldBack listed.world.store.unscheduled own event := by
      rw [turn.awaitsAnnouncement_iff]
      refine exists_congr fun offering => and_congr_right fun _ => ?_
      rw [unsettled, known]
      exact or_iff_right (not_anyAnnounces_nil offering)
    have same : turn.settled = settlements own := settled
    rw [← awaits, goesOn]
    cases turn.awaitsAnnouncement event with
    | true => exact .inl ⟨rfl, rfl⟩
    | false =>
      refine .inr ⟨Bool.false_ne_true, ?_⟩
      rw [← same]
      rfl
  · intro listed own behind left offering course refused
    obtain ⟨act, mem, job, refuses, type, origin, -, answers, topic⟩ := refused
    obtain ⟨site, request⟩ := act
    obtain rfl : request = .offer job := refuses.1
    obtain ⟨front, back, rfl⟩ := List.append_of_mem mem
    rcases Cycle.sweep_listed course with
      ⟨none | ⟨_, _, none, -⟩, -⟩ | ⟨other, rest, parts, -, sweeping⟩
    · simp at none
    · simp at none
    obtain ⟨same, rfl⟩ := List.cons.inj parts
    have announces := (answers.announced?_isSome_iff offering).2 ⟨type, topic⟩
    have sweeping : (Cycle.sweepThrough profile other.world.store.unscheduled .empty .zero).run.Course
        (front ++ ⟨site, .offer job⟩ :: (back ++ behind)) left := by simpa using sweeping
    intro later offered
    apply Cycle.sweepThrough_after_refusal sweeping refuses announces later
    rw [offers_append]
    exact List.mem_append_right _ offered

/-! The queue is down for announcements while a client sweeps that an offering popped up and that a
channel of it was created. -/

namespace Sample

def mute : Site :=
  told ((Cycle.collect client).run.alone unknown).last fun queue =>
    queue.refuse .clientAfterOfferingPopUp (.other "queue down")

/-- The sweep, once it has its snapshot. -/
def withheld : Program.Solo (Except CycleError SweepReport) :=
  Cycle.sweptAlone client mute mute.world.store.events

/-- The events are on file in the order of their blocks, and both wait. -/
theorem mute_unscheduled : mute.world.store.unscheduled = mute.world.store.events :=
  Store.unscheduled_of_ordered (by decide +kernel) (by decide +kernel)

theorem withheld_course : (Cycle.sweep client).run.Course
    (⟨mute, .store .unscheduledEvents⟩ :: withheld.acts) (.done withheld.value) :=
  Cycle.sweptAlone_course (by decide +kernel) mute_unscheduled

/-- What the sweep does until it has left the first event. -/
def firstPass : List Act := withheld.acts.take 5

theorem withheld_parts : ∃ asked rest, withheld.acts = firstPass ++ ⟨asked, .isCancelled⟩ :: rest :=
  split_at_question (by decide +kernel)

theorem firstPass_refused :
    RefusedAnnouncement mute.world.store.unscheduled firstPass offering := by
  obtain ⟨asked, rest, parts⟩ := withheld_parts
  have course := withheld_course
  rw [parts, ← List.cons_append] at course
  obtain ⟨left, start, -⟩ := course.of_append
  rcases Cycle.sweep_course start with none | ⟨site, behind, same, sweeping⟩
  · cases none
  · obtain ⟨rfl, rfl⟩ : mute = site ∧ firstPass = behind := by simpa using same
    exact (sweeping.refusedAnnouncement_iff offering).2 (by decide +kernel)

end Sample

/-- The creation of the channel is held back: when the sweep takes it up, it only notes that. -/
theorem held_back_created :
    ∃ guard next event later batch report,
      (Cycle.sweep Sample.client).run.Course
        (⟨Sample.mute, .store .unscheduledEvents⟩ :: Sample.firstPass)
        (.ask guard .isCancelled next) ∧
      event ∈ Sample.mute.world.store.events ∧ event.log.kind = some .channelCreated ∧
      next (.reply false) = (Cycle.passOver Sample.client event later batch report).run ∧
      ∃ behind, Sample.withheld.acts = Sample.firstPass ++ behind ∧ ∀ job ∈ offers behind,
        ∀ origin, job.Answers origin → ¬ origin.log.ChangesSupplyOf Sample.offering := by
  obtain ⟨taken, spared⟩ := held_back_iff Sample.client
  obtain ⟨asked, rest, parts⟩ := Sample.withheld_parts
  have course := Sample.withheld_course
  rw [parts, ← List.cons_append] at course
  obtain ⟨guard, next, start, -⟩ := course.at_act
  obtain ⟨listed, own, front, event, later, batch, report, same, split, noted, -, goesOn⟩ :=
    taken _ guard next start
  cases same
  have one : front.length = 1 := by
    have lengths := congrArg List.length noted
    rw [List.length_map, List.length_map] at lengths
    rw [← lengths]
    decide +kernel
  have second : Sample.mute.world.store.events[1]? = some event := by
    rw [← Sample.mute_unscheduled, split, List.getElem?_append_right (Nat.le_of_eq one), one]
    rfl
  have created : ∀ row ∈ Sample.mute.world.store.events[1]?,
      row.log.kind = some .channelCreated ∧ row.log.topic 3 = some Sample.offering := by
    decide +kernel
  obtain ⟨kind, topic⟩ := created event second
  have held : HeldBack Sample.mute.world.store.unscheduled Sample.firstPass event :=
    ⟨Sample.offering, ⟨.inl kind, topic⟩, Sample.firstPass_refused⟩
  refine ⟨guard, next, event, later, batch, report, start, List.mem_of_getElem? second, kind,
    (goesOn.resolve_right fun free => free.1 held).2, ?_⟩
  exact ⟨_, parts, spared _ _ _ _ _ course Sample.firstPass_refused⟩

end ChannelWatch
