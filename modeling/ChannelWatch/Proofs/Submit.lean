import ChannelWatch.Proofs.Produce

/-!
# Submitting jobs

The jobs of an event are made first and offered then, in their order, as long as the queue
takes them or has them already. `settle_course` and `settle_gives` say so of an event that is
worked on and of one that is done. What the queue accepts is what acts have offered and it
took.
-/

namespace ChannelWatch
set_option autoImplicit false

namespace Queue

theorem add_eq_of_refused {queue : Queue} {job : Job} {error : QueueError}
    (refused : queue.refusal? job = some error) (mint : Mint) :
    queue.add mint job = (.error error, queue, mint) := by
  simp [Queue.add, refused]

theorem add_eq_of_taken {queue : Queue} {job : Job} (taken : queue.refusal? job = none)
    (mint : Mint) :
    queue.add mint job =
      (.ok mint.next.1, { queue with jobs := queue.jobs ++ [(mint.next.1, job)] },
        mint.next.2) := by
  simp [Queue.add, taken]

/-- The queue takes the job, or counts it as handled already. -/
def handles (queue : Queue) (job : Job) : Bool := (queue.refusal? job).all QueueError.isHandled

/-- The queue takes the job. -/
def takes (queue : Queue) (job : Job) : Bool := (queue.refusal? job).isNone

end Queue

namespace Act

/-- The job that was offered. -/
def offered? (act : Act) : Option Job :=
  match act.request with
  | .offer job => some job
  | _ => none

/-- The job that was offered and accepted, or which the queue had already. -/
def handled? (act : Act) : Option Job := act.offered?.filter act.site.world.queue.handles

/-- The job that was offered and accepted. -/
def accepted? (act : Act) : Option Job := act.offered?.filter act.site.world.queue.takes

/-- The event that is noted to have ended, and how. -/
def noted? (act : Act) : Option (Id × Disposition) :=
  match act.request with
  | .store (.disposeEvent event disposition) => some (event, disposition)
  | _ => none

theorem offered?_of_looks {act : Act} (looks : act.request.looks) : act.offered? = none := by
  unfold offered?
  split
  · rename_i job same
    rw [same] at looks
    cases looks
  · rfl

theorem offered?_eq_some {act : Act} {job : Job} (offered : act.offered? = some job) :
    ∃ site, act = ⟨site, .offer job⟩ := by
  obtain ⟨site, request⟩ := act
  cases request <;> cases offered
  exact ⟨site, rfl⟩

theorem noted?_eq_some {act : Act} {event : Id} {disposition : Disposition}
    (noted : act.noted? = some (event, disposition)) :
    ∃ site, act = ⟨site, .store (.disposeEvent event disposition)⟩ := by
  obtain ⟨site, request⟩ := act
  cases request with
  | store t =>
    cases t <;> cases noted
    exact ⟨site, rfl⟩
  | _ => cases noted

end Act

/-- The jobs that acts offered, in order. -/
def offers (acts : List Act) : List Job := acts.filterMap Act.offered?

/-- The jobs that were offered and accepted, or which the queue had already. -/
def settlements (acts : List Act) : List Job := acts.filterMap Act.handled?

/-- The jobs that were offered and accepted. -/
def acceptances (acts : List Act) : List Job := acts.filterMap Act.accepted?

@[simp] theorem offers_append (before behind : List Act) :
    offers (before ++ behind) = offers before ++ offers behind := List.filterMap_append

@[simp] theorem settlements_append (before behind : List Act) :
    settlements (before ++ behind) = settlements before ++ settlements behind :=
  List.filterMap_append

@[simp] theorem acceptances_append (before behind : List Act) :
    acceptances (before ++ behind) = acceptances before ++ acceptances behind :=
  List.filterMap_append

theorem offers_of_looks {acts : List Act} (looks : ∀ act ∈ acts, act.request.looks) :
    offers acts = [] :=
  List.filterMap_eq_nil_iff.2 fun act mem => Act.offered?_of_looks (looks act mem)

theorem settlements_of_looks {acts : List Act} (looks : ∀ act ∈ acts, act.request.looks) :
    settlements acts = [] :=
  List.filterMap_eq_nil_iff.2 fun act mem => by
    rw [Act.handled?, Act.offered?_of_looks (looks act mem), Option.filter_none]

theorem acceptances_of_looks {acts : List Act} (looks : ∀ act ∈ acts, act.request.looks) :
    acceptances acts = [] :=
  List.filterMap_eq_nil_iff.2 fun act mem => by
    rw [Act.accepted?, Act.offered?_of_looks (looks act mem), Option.filter_none]

/-- How the jobs of an event were submitted. -/
structure Submitted (jobs : List Job) (acts : List Act) (submission : Submission) : Prop where
  settled : submission.settled = settlements acts
  split : submission.settled ++ submission.unsettled = jobs
  complete : submission.disposition ≠ .failed → submission.unsettled = []

namespace Cycle

variable {acts : List Act} {rateAfter : UInt32} {job : Job} {jobs : List Job}
  {accepted : Option Id} {submission : Submission}

/-- Counts an accepted job that records a closing. -/
def tally (rateAfter : UInt32) (job : Job) : Cycle Unit :=
  if job.type = .clientRecordClosing then request .final (.countClosing rateAfter) else pure ()

theorem submit_cons (rateAfter : UInt32) (job : Job) (jobs : List Job) (accepted : Option Id) :
    submit rateAfter (job :: jobs) accepted =
      request .working (.offer job) >>= fun reply =>
        match reply with
        | .ok id =>
          tally rateAfter job >>= fun _ =>
            submit rateAfter jobs (accepted.or (some id)) >>= fun rest =>
              pure { rest with settled := job :: rest.settled }
        | .error e =>
          if e.isHandled then
            submit rateAfter jobs accepted >>= fun rest =>
              pure { rest with settled := job :: rest.settled }
          else pure ⟨.failed, [], job :: jobs⟩ := by
  rw [submit]
  congr 1
  funext reply
  cases reply with
  | ok id => by_cases closing : job.type = .clientRecordClosing <;> simp [tally, closing]
  | error e => rfl

theorem tally_course {left : Program (Except CycleError Unit)}
    (course : (tally rateAfter job).run.Course acts left) :
    ∀ act ∈ acts, act.request = .countClosing rateAfter := by
  unfold tally at course
  split at course
  · rcases course_request course with rfl | ⟨site, rfl⟩ <;> simp
  · rw [(Program.course_done_iff.1 course).1]
    simp

theorem perform_offer_of_taken {site : Site} (taken : site.world.queue.refusal? job = none) :
    (site.perform (.offer job)).1 = .ok site.world.mint.next.1 := by
  simp [Site.perform, Queue.add_eq_of_taken taken]

theorem perform_offer_of_refused {site : Site} {error : QueueError}
    (refused : site.world.queue.refusal? job = some error) :
    (site.perform (.offer job)).1 = .error error := by
  simp [Site.perform, Queue.add_eq_of_refused refused]

/-- Offering starts with the first job, and goes on as long as jobs are handled. -/
theorem submit_course_cons {left : Program (Except CycleError Submission)}
    (course : (submit rateAfter (job :: jobs) accepted).run.Course acts left) :
    acts = [] ∨ ∃ site counts behind, acts = ⟨site, .offer job⟩ :: (counts ++ behind) ∧
      (∀ act ∈ counts, act.request = .countClosing rateAfter) ∧
      (behind = [] ∨ site.world.queue.handles job = true ∧
        ∃ next rest, (submit rateAfter jobs next).run.Course behind rest) := by
  rw [submit_cons] at course
  rcases course_bind course with ⟨first, run⟩ | ⟨reply, before, behind, rfl, asked, course⟩
  · rcases course_request run with rfl | ⟨site, rfl⟩
    · exact .inl rfl
    · exact .inr ⟨site, [], [], rfl, by simp, .inl rfl⟩
  · obtain ⟨site, rfl, rfl⟩ := gives_request_iff.1 asked
    refine .inr ⟨site, ?_⟩
    cases refusal : site.world.queue.refusal? job with
    | none =>
      rw [perform_offer_of_taken refusal] at course
      rcases course_bind course with ⟨first, run⟩ | ⟨_, counts, rest, rfl, counted, course⟩
      · exact ⟨behind, [], by simp, tally_course run, .inl rfl⟩
      · obtain ⟨first, run⟩ := course_map course
        exact ⟨counts, rest, rfl, tally_course counted,
          .inr ⟨by simp [Queue.handles, refusal], _, _, run⟩⟩
    | some error =>
      rw [perform_offer_of_refused refusal] at course
      refine ⟨[], behind, rfl, by simp, ?_⟩
      simp only at course
      split at course
      · rename_i handled
        obtain ⟨first, run⟩ := course_map course
        exact .inr ⟨by simp [Queue.handles, refusal, handled], _, _, run⟩
      · exact .inl (Program.course_done_iff.1 course).1

/-- Jobs are offered in their order, from the first one on. -/
theorem submit_offers {left : Program (Except CycleError Submission)}
    (course : (submit rateAfter jobs accepted).run.Course acts left) :
    offers acts <+: jobs := by
  induction jobs generalizing acts accepted left with
  | nil =>
    obtain ⟨rfl, -⟩ := Program.course_done_iff.1 course
    exact List.nil_prefix
  | cons job jobs ih =>
    rcases submit_course_cons course with rfl | ⟨site, counts, behind, rfl, quiet, rest⟩
    · exact List.nil_prefix
    · have silent : offers counts = [] := List.filterMap_eq_nil_iff.2 fun act mem => by
        simp [Act.offered?, quiet act mem]
      have later : offers behind <+: jobs := by
        rcases rest with rfl | ⟨-, next, left, course⟩
        · exact List.nil_prefix
        · exact ih course
      have first : offers (⟨site, .offer job⟩ :: (counts ++ behind)) = job :: offers behind := by
        show job :: offers (counts ++ behind) = _
        rw [offers_append, silent, List.nil_append]
      rw [first]
      exact (List.prefix_cons_inj job).2 later

theorem tally_gives {value : Unit} (given : (tally rateAfter job).Gives acts value) :
    ∀ act ∈ acts, act.request = .countClosing rateAfter := tally_course given

/-- A submission that ended offered the first job, and either went on or was refused. -/
theorem gives_submit_cons (given : (submit rateAfter (job :: jobs) accepted).Gives acts submission) :
    ∃ site,
      (site.world.queue.handles job = true ∧ ∃ counts behind next rest,
        acts = ⟨site, .offer job⟩ :: (counts ++ behind) ∧
        (∀ act ∈ counts, act.request = .countClosing rateAfter) ∧
        (site.world.queue.refusal? job ≠ none ∧ next = accepted ∨
          site.world.queue.refusal? job = none ∧
            next = accepted.or (some site.world.mint.next.1)) ∧
        (submit rateAfter jobs next).Gives behind rest ∧
        submission = { rest with settled := job :: rest.settled }) ∨
      (site.world.queue.handles job = false ∧ acts = [⟨site, .offer job⟩] ∧
        submission = ⟨.failed, [], job :: jobs⟩) := by
  rw [submit_cons] at given
  obtain ⟨reply, before, behind, rfl, asked, given⟩ := gives_bind_iff.1 given
  obtain ⟨site, rfl, rfl⟩ := gives_request_iff.1 asked
  refine ⟨site, ?_⟩
  cases refusal : site.world.queue.refusal? job with
  | none =>
    rw [perform_offer_of_taken refusal] at given
    obtain ⟨_, counts, more, rfl, counted, given⟩ := gives_bind_iff.1 given
    obtain ⟨rest, later, last, rfl, submitted, given⟩ := gives_bind_iff.1 given
    obtain ⟨rfl, rfl⟩ := gives_pure_iff.1 given
    exact .inl ⟨by simp [Queue.handles, refusal], counts, later, _, rest, by simp,
      tally_gives counted, .inr ⟨rfl, rfl⟩, submitted, rfl⟩
  | some error =>
    rw [perform_offer_of_refused refusal] at given
    simp only at given
    split at given
    · rename_i handled
      obtain ⟨rest, later, last, rfl, submitted, given⟩ := gives_bind_iff.1 given
      obtain ⟨rfl, rfl⟩ := gives_pure_iff.1 given
      exact .inl ⟨by simp [Queue.handles, refusal, handled], [], later, _, rest, by simp, by simp,
        .inl ⟨by simp, rfl⟩, submitted, rfl⟩
    · rename_i unhandled
      obtain ⟨rfl, rfl⟩ := gives_pure_iff.1 given
      exact .inr ⟨by simpa [Queue.handles, refusal] using unhandled, rfl, rfl⟩

theorem submit_gives (given : (submit rateAfter jobs accepted).Gives acts submission) :
    Submitted jobs acts submission := by
  induction jobs generalizing acts accepted submission with
  | nil =>
    obtain ⟨rfl, rfl⟩ := gives_pure_iff.1 given
    exact ⟨rfl, rfl, fun _ => rfl⟩
  | cons job jobs ih =>
    rcases gives_submit_cons given with
      ⟨site, ⟨handled, counts, behind, next, rest, rfl, quiet, -, later, rfl⟩ | ⟨refused, rfl, rfl⟩⟩
    · have silent : settlements counts = [] := List.filterMap_eq_nil_iff.2 fun act mem => by
        simp [Act.handled?, Act.offered?, quiet act mem]
      have first : (Act.mk site (.offer job)).handled? = some job := by
        simp [Act.handled?, Act.offered?, handled]
      obtain ⟨settled, split, complete⟩ := ih later
      refine ⟨?_, by rw [← split]; rfl, complete⟩
      rw [settlements, List.filterMap_cons_some first]
      show job :: rest.settled = job :: settlements (counts ++ behind)
      rw [settlements_append, silent, settled, List.nil_append]
    · have first : (Act.mk site (.offer job)).handled? = none := by
        simp [Act.handled?, Act.offered?, refused]
      exact ⟨by simp [settlements, first], rfl, fun other => absurd rfl other⟩

/-- An event is scheduled under an id that the queue gave to a job of the submission. -/
theorem submit_scheduled {id : Id} (given : (submit rateAfter jobs accepted).Gives acts submission)
    (scheduled : submission.disposition = .scheduled id) :
    accepted = some id ∨ ∃ site job, ⟨site, .offer job⟩ ∈ acts ∧
      site.world.queue.refusal? job = none ∧ site.world.mint.next.1 = id := by
  induction jobs generalizing acts accepted submission with
  | nil =>
    obtain ⟨rfl, rfl⟩ := gives_pure_iff.1 given
    cases accepted with
    | none => cases scheduled
    | some first => exact .inl (congrArg some (Disposition.scheduled.inj scheduled))
  | cons job jobs ih =>
    rcases gives_submit_cons given with
      ⟨site, ⟨-, counts, behind, next, rest, rfl, -, source, later, rfl⟩ | ⟨-, rfl, rfl⟩⟩
    · rcases ih later scheduled with carried | ⟨site', job', mem, taken, minted⟩
      · rcases source with ⟨-, rfl⟩ | ⟨taken, rfl⟩
        · exact .inl carried
        · rcases Option.or_eq_some_iff.1 carried with kept | ⟨-, fresh⟩
          · exact .inl kept
          · exact .inr ⟨site, job, by simp, taken, Option.some.inj fresh⟩
      · exact .inr ⟨site', job', by simp [mem], taken, minted⟩
    · cases scheduled

/-- An event is ignored if the queue accepted none of its jobs. -/
theorem submit_ignored (given : (submit rateAfter jobs accepted).Gives acts submission)
    (ignored : submission.disposition = .ignored) : acceptances acts = [] ∧ accepted = none := by
  induction jobs generalizing acts accepted submission with
  | nil =>
    obtain ⟨rfl, rfl⟩ := gives_pure_iff.1 given
    cases accepted with
    | none => exact ⟨rfl, rfl⟩
    | some first => cases ignored
  | cons job jobs ih =>
    rcases gives_submit_cons given with
      ⟨site, ⟨-, counts, behind, next, rest, rfl, quiet, source, later, rfl⟩ | ⟨-, rfl, rfl⟩⟩
    · obtain ⟨silent, none⟩ := ih later ignored
      rcases source with ⟨refused, rfl⟩ | ⟨-, rfl⟩
      · have counted : acceptances counts = [] := List.filterMap_eq_nil_iff.2 fun act mem => by
          simp [Act.accepted?, Act.offered?, quiet act mem]
        have first : (Act.mk site (.offer job)).accepted? = Option.none := by
          simp [Act.accepted?, Act.offered?, Queue.takes, refused]
        refine ⟨?_, none⟩
        rw [acceptances, List.filterMap_cons_none first]
        show acceptances (counts ++ behind) = []
        rw [acceptances_append, counted, silent, List.append_nil]
      · cases accepted <;> cases none
    · cases ignored

end Cycle

/-- The request hands in a job or counts one. -/
def Request.submits : Request → Prop
  | .offer _ | .countClosing _ => True
  | _ => False

/-- The request is one of those that settling an event takes. -/
def Request.settles (request : Request) : Prop := request.looks ∨ request.submits

namespace Cycle

variable {profile : Profile} {event : StoredEvent} {batch : SweepBatch} {acts : List Act}
  {submission : Submission}

theorem submit_straight (rateAfter : UInt32) (jobs : List Job) (accepted : Option Id) :
    (submit rateAfter jobs accepted).Straight (Yielding Request.submits) := by
  induction jobs generalizing accepted with
  | nil => exact straight_pure _
  | cons job jobs ih =>
    rw [submit_cons]
    apply straight_bind (straight_request ⟨trivial, .inr rfl⟩)
    intro reply
    cases reply with
    | ok id =>
      refine straight_bind ?_ fun _ => straight_bind (ih _) fun _ => straight_pure _
      unfold tally
      split
      · exact straight_request ⟨trivial, .inl rfl⟩
      · exact straight_pure _
    | error e =>
      simp only
      split
      · exact straight_bind (ih _) fun _ => straight_pure _
      · exact straight_pure _

theorem submit_asks (rateAfter : UInt32) (jobs : List Job) (accepted : Option Id) :
    (submit rateAfter jobs accepted).Asks Request.submits :=
  (submit_straight rateAfter jobs accepted).asks_of_yielding

/-- What takes time while an event is settled ends at a cancellation. -/
theorem settle_straight (profile : Profile) (event : StoredEvent) (batch : SweepBatch) :
    (settle profile event batch).Straight (Yielding Request.settles) :=
  straight_bind ((produce_straight profile event batch.settled).mono
    fun _ _ => And.imp_left .inl) fun _ =>
      (submit_straight _ _ _).mono fun _ _ => And.imp_left .inr

theorem settle_asks (profile : Profile) (event : StoredEvent) (batch : SweepBatch) :
    (settle profile event batch).Asks Request.settles :=
  (settle_straight profile event batch).asks_of_yielding

/-- Jobs are offered once all jobs of the event are made. -/
theorem settle_course {left : Program (Except CycleError Submission)}
    (course : (settle profile event batch).run.Course acts left) :
    ∃ before behind jobs, acts = before ++ behind ∧ (∀ act ∈ before, act.request.looks) ∧
      (∀ act ∈ behind, act.request.submits) ∧ offers behind <+: jobs ∧
      (behind = [] ∨ (produce profile event batch.settled).Gives before jobs) := by
  rcases course_bind course with ⟨first, run⟩ | ⟨jobs, before, behind, rfl, made, course⟩
  · exact ⟨acts, [], [], by simp, run.asked (produce_asks _ _ _), by simp, List.nil_prefix, .inl rfl⟩
  · exact ⟨before, behind, jobs, rfl, made.asked (produce_asks _ _ _),
      course.asked (submit_asks _ _ _), submit_offers course, .inr made⟩

theorem gives_settle_iff : (settle profile event batch).Gives acts submission ↔
    ∃ jobs made own, acts = made ++ own ∧ (produce profile event batch.settled).Gives made jobs ∧
      (submit profile.rateAfter jobs none).Gives own submission := gives_bind_iff

theorem settle_gives (given : (settle profile event batch).Gives acts submission) :
    ∃ before behind jobs, acts = before ++ behind ∧ (∀ act ∈ before, act.request.looks) ∧
      (produce profile event batch.settled).Gives before jobs ∧
      Submitted jobs behind submission := by
  obtain ⟨jobs, before, behind, rfl, made, given⟩ := gives_settle_iff.1 given
  exact ⟨before, behind, jobs, rfl, made.asked (produce_asks _ _ _), made, submit_gives given⟩

/-- The jobs that are offered for an event answer it, and are of different types. -/
theorem settle_offers {left : Program (Except CycleError Submission)}
    (course : (settle profile event batch).run.Course acts left) :
    (∀ job ∈ offers acts, job.Answers event) ∧ ((offers acts).map Job.type).Nodup := by
  obtain ⟨before, behind, jobs, rfl, looks, -, offered, made⟩ := settle_course course
  rw [offers_append, offers_of_looks looks, List.nil_append]
  rcases made with rfl | made
  · exact ⟨by simp [offers], by simp [offers]⟩
  · have made := produce_made made
    refine ⟨fun job mem => made.answers job (offered.subset mem), ?_⟩
    exact ((offered.sublist.map _).trans made.types).nodup (nodup_calledFor _ _)

/-- Before a job is offered, the jobs of its event were made and those in front were offered. -/
theorem settle_at_offer {before behind : List Act} {site : Site} {job : Job}
    {left : Program (Except CycleError Submission)}
    (course : (settle profile event batch).run.Course (before ++ ⟨site, .offer job⟩ :: behind) left) :
    ∃ made own jobs, before = made ++ own ∧ (∀ act ∈ own, act.request.submits) ∧
      (produce profile event batch.settled).Gives made jobs ∧ offers own ++ [job] <+: jobs := by
  obtain ⟨made, rest, jobs, parts, looks, submits, offered, given⟩ := settle_course course
  have later : ∃ own, before = made ++ own ∧ rest = own ++ ⟨site, .offer job⟩ :: behind := by
    rcases List.append_eq_append_iff.1 parts with ⟨own, early, tail⟩ | ⟨own, late, tail⟩
    · cases own with
      | nil => exact ⟨[], by simp [early], tail.symm⟩
      | cons head own =>
        obtain ⟨rfl, -⟩ := List.cons.inj tail
        have offer : ⟨site, .offer job⟩ ∈ made := by simp [early]
        exact absurd (looks _ offer) id
    · exact ⟨own, late, tail⟩
  obtain ⟨own, rfl, rfl⟩ := later
  rcases given with none | given
  · simp at none
  · have front : offers own ++ [job] <+: offers (own ++ ⟨site, .offer job⟩ :: behind) := by
      rw [offers_append]
      exact (List.prefix_append_right_inj _).2 (List.prefix_append [job] (offers behind))
    exact ⟨made, own, jobs, rfl, fun act mem => submits act (by simp [mem]), given,
      front.trans offered⟩

theorem settle_ignored (given : (settle profile event batch).Gives acts submission)
    (ignored : submission.disposition = .ignored) : acceptances acts = [] := by
  obtain ⟨jobs, before, behind, rfl, made, given⟩ := gives_settle_iff.1 given
  rw [acceptances_append, acceptances_of_looks (made.asked (produce_asks _ _ _)),
    (submit_ignored given ignored).1, List.append_nil]

theorem settle_settlements (given : (settle profile event batch).Gives acts submission) :
    submission.settled = settlements acts := by
  obtain ⟨before, behind, jobs, rfl, looks, made, submitted⟩ := settle_gives given
  rw [settlements_append, settlements_of_looks looks, List.nil_append, submitted.settled]

end Cycle

theorem Act.accepted?_eq_some {act : Act} {job : Job} (accepted : act.accepted? = some job) :
    ∃ site, act = ⟨site, .offer job⟩ ∧ site.world.queue.refusal? job = none := by
  obtain ⟨offered, takes⟩ := Option.filter_eq_some_iff.1 accepted
  obtain ⟨site, rfl⟩ := Act.offered?_eq_some offered
  exact ⟨site, rfl, by simpa [Queue.takes] using takes⟩

/-- Fewer jobs are kept if fewer acts count, in the same order. -/
theorem sublist_of_counts {some? other? : Act → Option Job}
    (counts : ∀ act job, some? act = some job → other? act = some job) (acts : List Act) :
    (acts.filterMap some?).Sublist (acts.filterMap other?) := by
  induction acts with
  | nil => exact .slnil
  | cons act acts ih =>
    cases kept : some? act with
    | none =>
      rw [List.filterMap_cons_none kept]
      exact ih.trans ((List.sublist_cons_self act acts).filterMap other?)
    | some job =>
      rw [List.filterMap_cons_some kept, List.filterMap_cons_some (counts act job kept)]
      exact ih.cons_cons job

theorem acceptances_sublist_offers (acts : List Act) :
    (acceptances acts).Sublist (offers acts) :=
  sublist_of_counts (fun _ _ accepted => (Option.filter_eq_some_iff.1 accepted).1) acts

theorem settlements_sublist_offers (acts : List Act) :
    (settlements acts).Sublist (offers acts) :=
  sublist_of_counts (fun _ _ handled => (Option.filter_eq_some_iff.1 handled).1) acts

theorem acceptances_sublist_settlements (acts : List Act) :
    (acceptances acts).Sublist (settlements acts) := by
  refine sublist_of_counts (fun act job accepted => ?_) acts
  obtain ⟨offered, takes⟩ := Option.filter_eq_some_iff.1 accepted
  have handles : act.site.world.queue.handles job = true := by
    rw [Queue.takes, Option.isNone_iff_eq_none] at takes
    simp [Queue.handles, takes]
  exact Option.filter_eq_some_iff.2 ⟨offered, handles⟩

/-- An act adds to the accepted jobs what it had accepted. -/
theorem Act.accepted_after (act : Act) :
    act.after.world.queue.accepted = act.site.world.queue.accepted ++ act.accepted?.toList := by
  obtain ⟨site, request⟩ := act
  by_cases offer : ∃ job, request = .offer job
  · obtain ⟨job, rfl⟩ := offer
    cases refusal : site.world.queue.refusal? job with
    | none =>
      have takes : site.world.queue.takes job = true := by simp [Queue.takes, refusal]
      simp [Act.after, Site.perform, Queue.add_eq_of_taken refusal, Queue.accepted, Act.accepted?,
        Act.offered?, Option.filter_some_pos takes]
    | some error =>
      simp [Act.after, Site.perform, Queue.add_eq_of_refused refusal, Act.accepted?, Act.offered?,
        Queue.takes, refusal]
  · have quiet : ∀ job, request ≠ .offer job := fun job same => offer ⟨job, same⟩
    have silent : (Act.mk site request).accepted? = none := by
      cases accepted : (Act.mk site request).accepted? with
      | none => rfl
      | some job =>
        obtain ⟨_, same, -⟩ := Act.accepted?_eq_some accepted
        cases same
        exact absurd rfl (quiet job)
    rw [Act.after, World.queue_of_makes (site.makes request) quiet, silent]
    simp

/-- The jobs that are accepted along acts are those that the acts had accepted. -/
theorem Freedom.Joins.accepted {freedom : Freedom} {first last : Site} {acts : List Act}
    (spared : ∀ request, freedom.requests request → ¬ request.sweeps)
    (joins : freedom.Joins first acts last) :
    last.world.queue.accepted = first.world.queue.accepted ++ acceptances acts := by
  induction joins with
  | rest site => simp [acceptances]
  | stir stir _ ih => rw [ih, (World.carries_accepted spared).stir stir]
  | act act _ ih =>
    rw [ih, act.accepted_after, List.append_assoc]
    cases accepted : act.accepted? <;> simp [acceptances, accepted]

theorem Series.accepted {α : Type} {cycle : Profile → Cycle α} {between within : Freedom}
    (around : ∀ request, between.requests request → ¬ request.sweeps)
    (amid : ∀ request, within.requests request → ¬ request.sweeps) {first last : Site}
    {rounds : List Round} (series : Series cycle between within first rounds last) :
    last.world.queue.accepted =
      first.world.queue.accepted ++ rounds.flatMap fun round => acceptances round.acts := by
  induction series with
  | rest site => simp
  | stir stir _ ih => rw [ih, (World.carries_accepted around).stir stir]
  | round profile course joins _ ih => simp [ih, joins.accepted amid]

end ChannelWatch
