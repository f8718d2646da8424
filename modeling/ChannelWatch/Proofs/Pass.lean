import ChannelWatch.Proofs.Sweep

/-!
# One pass through the loop of a sweep

A sweep takes up its events one after the other. `Cycle.Pass` lists how far it gets with one of
them and with what it goes on, or ends; `Cycle.sweepThrough_pass` says that nothing else happens.
`Cycle.Through` joins the passes up to the moment at which a sweep takes up the next event.
-/

namespace ChannelWatch
set_option autoImplicit false

namespace Act

/-- The event whose ending was recorded, and how it ended. -/
def disposal? (act : Act) : Option (Id × Disposition) :=
  match act.request with
  | .store (.disposeEvent event disposition) =>
    match (act.site.world.transact (.disposeEvent event disposition)).1 with
    | .ok _ => some (event, disposition)
    | .error _ => none
  | _ => none

/-- The event that a job was offered for, or whose ending was to be recorded. -/
def concerns? (act : Act) : Option Id :=
  match act.request with
  | .offer job => some job.originEvent
  | .store (.disposeEvent event _) => some event
  | _ => none

theorem disposal?_of_granted {site : Site} {event : Id} {disposition : Disposition}
    (granted : (site.world.transact (.disposeEvent event disposition)).1 = .ok ()) :
    (Act.mk site (.store (.disposeEvent event disposition))).disposal? =
      some (event, disposition) := by
  simp only [disposal?, granted]

theorem disposal?_of_refused {site : Site} {event : Id} {disposition : Disposition} {e : StoreError}
    (refused : (site.world.transact (.disposeEvent event disposition)).1 = .error e) :
    (Act.mk site (.store (.disposeEvent event disposition))).disposal? = none := by
  simp only [disposal?, refused]

theorem disposal?_eq_some {act : Act} {event : Id} {disposition : Disposition}
    (recorded : act.disposal? = some (event, disposition)) :
    ∃ site, act = ⟨site, .store (.disposeEvent event disposition)⟩ ∧
      (site.world.transact (.disposeEvent event disposition)).1 = .ok () := by
  obtain ⟨site, request⟩ := act
  unfold disposal? at recorded
  split at recorded
  · rename_i event' disposition' same
    obtain rfl : request = .store (.disposeEvent event' disposition') := same
    split at recorded
    · rename_i granted
      cases recorded
      exact ⟨site, rfl, granted⟩
    · cases recorded
  · cases recorded

theorem disposal?_of_settles {act : Act} (settles : act.request.settles) :
    act.disposal? = none := by
  unfold disposal?
  split
  · rename_i event disposition same
    rw [same] at settles
    exact absurd settles (Request.not_settles_disposeEvent event disposition)
  · rfl

end Act

/-- The events whose endings acts recorded, in order, and how they ended. -/
def disposals (acts : List Act) : List (Id × Disposition) := acts.filterMap Act.disposal?

/-- The events that jobs were offered for, or whose endings were to be recorded. -/
def concerns (acts : List Act) : List Id := acts.filterMap Act.concerns?

@[simp] theorem disposals_append (before behind : List Act) :
    disposals (before ++ behind) = disposals before ++ disposals behind := List.filterMap_append

@[simp] theorem concerns_append (before behind : List Act) :
    concerns (before ++ behind) = concerns before ++ concerns behind := List.filterMap_append

/-- What is recorded from a pass on whose ending was granted. -/
theorem disposals_pass {own : List Act} (silent : disposals own = []) (asked : Site) {noted : Site}
    {event : Id} {disposition : Disposition}
    (granted : (noted.world.transact (.disposeEvent event disposition)).1 = .ok ()) (rest : List Act) :
    disposals (⟨asked, .isCancelled⟩ :: own ++
      ⟨noted, .store (.disposeEvent event disposition)⟩ :: rest) =
        (event, disposition) :: disposals rest := by
  have asking : disposals (⟨asked, .isCancelled⟩ :: own) = [] := silent
  rw [disposals_append, asking, disposals,
    List.filterMap_cons_some (Act.disposal?_of_granted granted)]
  rfl

/-- Before an act the program was about to ask for it. -/
theorem Program.Course.at_act {α : Type} {program left : Program α} {before behind : List Act}
    {act : Act} (course : Course program (before ++ act :: behind) left) :
    ∃ guard next, Course program before (.ask guard act.request next) ∧
      Course (next (.reply (act.site.perform act.request).1)) behind left := by
  generalize parts : before ++ act :: behind = acts at course
  induction course generalizing before with
  | rest => simp at parts
  | @reply guard request next acts left site rest ih =>
    cases before with
    | nil =>
      obtain ⟨rfl, rfl⟩ := List.cons.inj parts
      exact ⟨guard, next, .rest _, rest⟩
    | cons head before =>
      obtain ⟨rfl, tail⟩ := List.cons.inj parts
      obtain ⟨guard, next, start, further⟩ := ih tail
      exact ⟨guard, next, .reply site start, further⟩
  | expire timed _ ih =>
    obtain ⟨guard, next, start, further⟩ := ih parts
    exact ⟨guard, next, .expire timed start, further⟩
  | cancel cancellable _ ih =>
    obtain ⟨guard, next, start, further⟩ := ih parts
    exact ⟨guard, next, .cancel cancellable start, further⟩

/-- The act asks whether the watch is cancelled. -/
def Act.questions (act : Act) : Bool :=
  match act.request with
  | .isCancelled => true
  | _ => false

theorem split_at_question {acts : List Act} {place : Nat}
    (asks : acts[place]?.any Act.questions = true) :
    ∃ asked rest, acts = acts.take place ++ ⟨asked, .isCancelled⟩ :: rest := by
  obtain ⟨⟨asked, request⟩, found, asks⟩ := (Option.any_eq_true _ _).1 asks
  obtain ⟨bound, found⟩ := List.getElem?_eq_some_iff.1 found
  unfold Act.questions at asks
  split at asks
  · rename_i same
    obtain rfl : request = .isCancelled := same
    exact ⟨asked, acts.drop (place + 1), by
      rw [← found, List.getElem_cons_drop, List.take_append_drop]⟩
  · cases asks

/-- The program is still to make a request, of a kind. -/
def Program.Pending {α : Type} (kind : Request → Prop) : Program α → Prop
  | .done _ => False
  | .ask _ request _ => kind request

/-- What a sweep has done with an event whose jobs it made: the acts that offered them, and what came
of them. -/
structure Dealing where
  event : StoredEvent
  jobs : List Job
  acts : List Act
  submission : Submission

namespace Cycle

variable {α β : Type} {acts : List Act}

/-- A request that nothing cuts short is still to be made, or it is the first act. -/
theorem course_final {request : Request} {next : request.Reply → Cycle β}
    {left : Program (Except CycleError β)}
    (course : (Cycle.request .final request >>= next).run.Course acts left) :
    (acts = [] ∧ left = (Cycle.request .final request >>= next).run) ∨
      ∃ site behind, acts = ⟨site, request⟩ :: behind ∧
        (next (site.perform request).1).run.Course behind left := by
  rw [run_bind, Cycle.request] at course ⊢
  cases course with
  | rest => exact .inl ⟨rfl, rfl⟩
  | reply site rest => exact .inr ⟨site, _, rfl, rest⟩
  | expire timed => cases timed
  | cancel cancellable => cases cancellable

/-- A note is still to be made, or it was granted and the cycle goes on, or it was refused and the
cycle ends. -/
theorem course_note {event : StoredEvent} {disposition : Disposition} {next : Unit → Cycle β}
    {left : Program (Except CycleError β)}
    (course : (dispose event disposition >>= next).run.Course acts left) :
    (acts = [] ∧ left.Pending (· ≠ .isCancelled)) ∨
      ∃ noted behind, acts = ⟨noted, .store (.disposeEvent event.id disposition)⟩ :: behind ∧
        ((noted.world.transact (.disposeEvent event.id disposition)).1 = .ok () ∧
            (next ()).run.Course behind left ∨
          ∃ e, (noted.world.transact (.disposeEvent event.id disposition)).1 = .error e ∧
            behind = [] ∧ left = .done (.error (.store e))) := by
  rw [dispose, transact, demand, bind_assoc] at course
  rcases course_final course with ⟨rfl, rfl⟩ | ⟨noted, behind, rfl, rest⟩
  · refine .inl ⟨rfl, ?_⟩
    rw [run_bind]
    simp [Cycle.request, Program.Pending]
  refine .inr ⟨noted, behind, rfl, ?_⟩
  have answer : (noted.perform (.store (.disposeEvent event.id disposition))).1 =
      (noted.world.transact (.disposeEvent event.id disposition)).1 := rfl
  rw [answer] at rest
  cases reply : (noted.world.transact (.disposeEvent event.id disposition)).1 with
  | ok _ =>
    rw [reply] at rest
    exact .inl ⟨rfl, rest⟩
  | error e =>
    rw [reply] at rest
    exact .inr ⟨e, rfl, Program.course_done_iff.1 rest⟩

/-- What is attempted is still under way, or it has a result and the cycle goes on with that. -/
theorem course_attempt {kind : Request → Prop} {cycle : Cycle α} (asks : cycle.Asks kind)
    {next : Except CycleError α → Cycle β} {left : Program (Except CycleError β)}
    (course : (attempt cycle >>= next).run.Course acts left) :
    ((∃ first, cycle.run.Course acts first) ∧ left.Pending kind) ∨
      ∃ result before behind, acts = before ++ behind ∧
        cycle.run.Course before (.done result) ∧ (next result).run.Course behind left := by
  have joined : (attempt cycle >>= next).run = cycle.run.bind fun result => (next result).run := by
    rw [run_bind]
    exact Program.bind_assoc _ _ _
  rw [joined] at course
  rcases course.of_bind with ⟨first, run, rfl⟩ | ended
  · cases first with
    | done result => exact .inr ⟨result, acts, [], by simp, run, .rest _⟩
    | ask guard request rest => exact .inl ⟨⟨_, run⟩, (run.left_asks asks).1⟩
  · exact .inr ended

/-- Leaves an event for another sweep, and goes on. -/
def passOver (profile : Profile) (event : StoredEvent) (events : List StoredEvent)
    (batch : SweepBatch) (report : SweepReport) : Cycle SweepReport :=
  dispose event .failed >>= fun _ => sweepThrough profile events batch (report.record .failed)

/-- Records what came of an event, and goes on unless that is an error. -/
def conclude (profile : Profile) (event : StoredEvent) (events : List StoredEvent)
    (batch : SweepBatch) (report : SweepReport) : Except CycleError Submission → Cycle SweepReport
  | .ok submission =>
    dispose event submission.disposition >>= fun _ =>
      sweepThrough profile events (batch.extend submission) (report.record submission.disposition)
  | .error .timedOut => dispose event .failed >>= fun _ => throw .timedOut
  | .error e => throw e

theorem sweepThrough_cons (profile : Profile) (event : StoredEvent) (events : List StoredEvent)
    (batch : SweepBatch) (report : SweepReport) :
    sweepThrough profile (event :: events) batch report =
      request .final .isCancelled >>= fun cancelled =>
        if cancelled then pure report
        else if batch.awaitsAnnouncement event then passOver profile event events batch report
        else attempt (settle profile event batch) >>= conclude profile event events batch report := by
  rw [sweepThrough]
  rfl

/-- How far a sweep gets with an event that it takes up. -/
inductive Pass (profile : Profile) (event : StoredEvent) (events : List StoredEvent)
    (batch : SweepBatch) (report : SweepReport) :
    List Act → Program (Except CycleError SweepReport) → Prop where
  /-- Whether the watch is cancelled is still to be asked. -/
  | waiting : Pass profile event events batch report []
      (sweepThrough profile (event :: events) batch report).run
  /-- The watch is cancelled. -/
  | halted (asked : Site) (cancelled : asked.desk.cancelled = true) :
      Pass profile event events batch report [⟨asked, .isCancelled⟩] (.done (.ok report))
  /-- The sweep is still at the event, or it ends and has not recorded how that one did. -/
  | stopped {own note : List Act} {first : Program (Except CycleError Submission)}
      {left : Program (Except CycleError SweepReport)} (asked : Site)
      (begun : own = [] ∨ batch.awaitsAnnouncement event = false)
      (course : (settle profile event batch).run.Course own first)
      (refused : note = [] ∨ ∃ noted disposition e,
        note = [⟨noted, .store (.disposeEvent event.id disposition)⟩] ∧
          (noted.world.transact (.disposeEvent event.id disposition)).1 = .error e)
      (ends : left.Pending (· ≠ .isCancelled) ∨ ∃ e, left = .done (.error e) ∧ e ≠ .timedOut) :
      Pass profile event events batch report (⟨asked, .isCancelled⟩ :: (own ++ note)) left
  /-- The sweep runs out of time with the event. -/
  | expired {own : List Act} (asked noted : Site) (free : batch.awaitsAnnouncement event = false)
      (course : (settle profile event batch).run.Course own (.done (.error .timedOut)))
      (granted : (noted.world.transact (.disposeEvent event.id .failed)).1 = .ok ()) :
      Pass profile event events batch report
        (⟨asked, .isCancelled⟩ :: own ++ [⟨noted, .store (.disposeEvent event.id .failed)⟩])
        (.done (.error .timedOut))
  /-- The event waits for the announcement of its offering. -/
  | held {behind : List Act} {left : Program (Except CycleError SweepReport)} (asked noted : Site)
      (awaits : batch.awaitsAnnouncement event = true)
      (granted : (noted.world.transact (.disposeEvent event.id .failed)).1 = .ok ())
      (rest : (sweepThrough profile events batch (report.record .failed)).run.Course behind left) :
      Pass profile event events batch report
        (⟨asked, .isCancelled⟩ :: ⟨noted, .store (.disposeEvent event.id .failed)⟩ :: behind) left
  /-- The event is settled. -/
  | settled {own behind : List Act} {left : Program (Except CycleError SweepReport)}
      {submission : Submission} (asked noted : Site)
      (free : batch.awaitsAnnouncement event = false)
      (given : (settle profile event batch).Gives own submission)
      (granted :
        (noted.world.transact (.disposeEvent event.id submission.disposition)).1 = .ok ())
      (rest : (sweepThrough profile events (batch.extend submission)
        (report.record submission.disposition)).run.Course behind left) :
      Pass profile event events batch report
        (⟨asked, .isCancelled⟩ :: own ++
          ⟨noted, .store (.disposeEvent event.id submission.disposition)⟩ :: behind) left

section Settling

variable {profile : Profile} {event : StoredEvent} {batch : SweepBatch}
  {left : Program (Except CycleError Submission)}

/-- While an event is settled nothing is recorded. -/
theorem settle_disposals (course : (settle profile event batch).run.Course acts left) :
    disposals acts = [] :=
  List.filterMap_eq_nil_iff.2 fun act mem =>
    Act.disposal?_of_settles (course.asked (settle_asks _ _ _) act mem)

/-- While an event is settled no other one is concerned. -/
theorem settle_concerns (course : (settle profile event batch).run.Course acts left) :
    ∀ id ∈ concerns acts, id = event.id := by
  intro id mem
  obtain ⟨⟨site, request⟩, among, concerned⟩ := List.mem_filterMap.1 mem
  have settles := course.asked (settle_asks _ _ _) _ among
  unfold Act.concerns? at concerned
  split at concerned
  · rename_i job same
    obtain rfl : request = .offer job := same
    cases concerned
    exact ((settle_offers course).1 job (List.mem_filterMap.2 ⟨_, among, rfl⟩)).origin
  · rename_i other disposition same
    rw [same] at settles
    exact absurd settles (Request.not_settles_disposeEvent other disposition)
  · cases concerned

end Settling

variable {profile : Profile} {event : StoredEvent} {events : List StoredEvent} {batch : SweepBatch}
  {report : SweepReport} {left : Program (Except CycleError SweepReport)}

theorem sweepThrough_cons_ne_done (result : Except CycleError SweepReport) :
    (sweepThrough profile (event :: events) batch report).run ≠ .done result := by
  rw [sweepThrough_cons]
  exact fun same => by cases same

/-- Nothing else happens with an event that a sweep takes up. -/
theorem sweepThrough_pass
    (course : (sweepThrough profile (event :: events) batch report).run.Course acts left) :
    Pass profile event events batch report acts left := by
  rw [sweepThrough_cons] at course
  rcases course_final course with ⟨rfl, rfl⟩ | ⟨asked, behind, rfl, rest⟩
  · rw [← sweepThrough_cons]
    exact .waiting
  have answer : (asked.perform .isCancelled).1 = asked.desk.cancelled := rfl
  rw [answer] at rest
  split at rest
  · rename_i cancelled
    obtain ⟨rfl, rfl⟩ := Program.course_done_iff.1 rest
    exact .halted asked cancelled
  have idle : (settle profile event batch).run.Course [] (settle profile event batch).run := .rest _
  have unended : ∀ {own : List Act} {first : Program (Except CycleError Submission)},
      own = [] ∨ batch.awaitsAnnouncement event = false →
      (settle profile event batch).run.Course own first → left.Pending (· ≠ .isCancelled) →
      Pass profile event events batch report (⟨asked, .isCancelled⟩ :: own) left := by
    intro own first begun run pending
    rw [← List.append_nil own]
    exact .stopped asked begun run (.inl rfl) (.inl pending)
  split at rest
  · rename_i awaits
    rcases course_note rest with ⟨rfl, pending⟩ | ⟨noted, behind, rfl,
      ⟨granted, rest⟩ | ⟨e, refused, rfl, rfl⟩⟩
    · exact unended (.inl rfl) idle pending
    · exact .held asked noted awaits granted rest
    · exact .stopped asked (.inl rfl) idle (.inr ⟨noted, _, e, rfl, refused⟩)
        (.inr ⟨_, rfl, by simp⟩)
  rename_i free
  rw [Bool.not_eq_true] at free
  rcases course_attempt (settle_asks profile event batch) rest with
    ⟨⟨first, run⟩, pending⟩ | ⟨result, own, behind, rfl, run, rest⟩
  · refine unended (.inr free) run ?_
    cases left with
    | done result => cases pending
    | ask guard request next =>
      have settles : request.settles := pending
      exact fun same => by rw [same] at settles; exact settles.elim id id
  unfold conclude at rest
  split at rest
  · rename_i submission
    rcases course_note rest with ⟨rfl, pending⟩ | ⟨noted, behind, rfl,
      ⟨granted, rest⟩ | ⟨e, refused, rfl, rfl⟩⟩
    · rw [List.append_nil]
      exact unended (.inr free) run pending
    · exact .settled asked noted free run granted rest
    · exact .stopped asked (.inr free) run (.inr ⟨noted, _, e, rfl, refused⟩) (.inr ⟨_, rfl, by simp⟩)
  · rcases course_note rest with ⟨rfl, pending⟩ | ⟨noted, behind, rfl,
      ⟨granted, rest⟩ | ⟨e, refused, rfl, rfl⟩⟩
    · rw [List.append_nil]
      exact unended (.inr free) run pending
    · obtain ⟨rfl, rfl⟩ := Program.course_done_iff.1 rest
      exact .expired asked noted free run granted
    · exact .stopped asked (.inr free) run (.inr ⟨noted, _, e, rfl, refused⟩) (.inr ⟨_, rfl, by simp⟩)
  · rename_i e other
    obtain ⟨rfl, rfl⟩ := Program.course_done_iff.1 rest
    exact .stopped asked (.inr free) run (.inl rfl) (.inr ⟨e, rfl, other⟩)

/-- A sweep has gone through events, by some acts and with some dealings, and its batch was the
first one before and is the second one now. -/
inductive Through (profile : Profile) :
    List StoredEvent → SweepBatch → List Act → List Dealing → SweepBatch → Prop where
  | start (batch : SweepBatch) : Through profile [] batch [] [] batch
  /-- One more event in front, which waits for the announcement of its offering. -/
  | held {event : StoredEvent} {events : List StoredEvent} {batch turn : SweepBatch}
      {behind : List Act} {dealings : List Dealing} (asked noted : Site)
      (awaits : batch.awaitsAnnouncement event = true)
      (granted : (noted.world.transact (.disposeEvent event.id .failed)).1 = .ok ())
      (rest : Through profile events batch behind dealings turn) :
      Through profile (event :: events) batch
        (⟨asked, .isCancelled⟩ :: ⟨noted, .store (.disposeEvent event.id .failed)⟩ :: behind)
        dealings turn
  /-- One more event in front, whose jobs are made and then submitted. -/
  | settled {event : StoredEvent} {events : List StoredEvent} {batch turn : SweepBatch}
      {making handing behind : List Act} {jobs : List Job} {submission : Submission}
      {dealings : List Dealing} (asked noted : Site)
      (free : batch.awaitsAnnouncement event = false)
      (made : (produce profile event batch.settled).Gives making jobs)
      (submitted : (submit profile.rateAfter jobs none).Gives handing submission)
      (granted :
        (noted.world.transact (.disposeEvent event.id submission.disposition)).1 = .ok ())
      (rest : Through profile events (batch.extend submission) behind dealings turn) :
      Through profile (event :: events) batch
        (⟨asked, .isCancelled⟩ :: (making ++ handing) ++
          ⟨noted, .store (.disposeEvent event.id submission.disposition)⟩ :: behind)
        (⟨event, jobs, handing, submission⟩ :: dealings) turn

/-- When a sweep is about to ask whether the watch is cancelled, it has gone through some events, and
the batch that it has by then decides whether it leaves or settles the next one. -/
theorem sweepThrough_through {guard : Guard}
    {next : Outcome guard Request.isCancelled.Reply → Program (Except CycleError SweepReport)}
    (course : (sweepThrough profile events batch report).run.Course acts
      (.ask guard .isCancelled next)) :
    ∃ (front : List StoredEvent) (event : StoredEvent) (later : List StoredEvent)
      (dealings : List Dealing) (turn : SweepBatch) (total : SweepReport),
      events = front ++ event :: later ∧ Through profile front batch acts dealings turn ∧
      next (.reply true) = .done (.ok total) ∧
      next (.reply false) =
        (if turn.awaitsAnnouncement event then passOver profile event later turn total
          else attempt (settle profile event turn) >>=
            conclude profile event later turn total).run := by
  generalize same : Program.ask guard .isCancelled next = left at course
  induction events generalizing batch report acts with
  | nil =>
    obtain ⟨-, done⟩ := Program.course_done_iff.1 course
    rw [done] at same
    cases same
  | cons event events ih =>
    cases sweepThrough_pass course with
    | waiting =>
      rw [sweepThrough_cons, run_bind, Cycle.request] at same
      cases same
      exact ⟨[], event, events, [], batch, report, rfl, .start batch, rfl, rfl⟩
    | halted | expired => cases same
    | stopped asked begun run refused ends =>
      subst same
      rcases ends with pending | ⟨e, ended, -⟩
      · exact absurd rfl pending
      · cases ended
    | held asked noted awaits granted rest =>
      obtain ⟨front, taken, later, dealings, turn, total, rfl, through, goesOn⟩ := ih rest
      exact ⟨event :: front, taken, later, dealings, turn, total, rfl,
        .held asked noted awaits granted through, goesOn⟩
    | settled asked noted free given granted rest =>
      obtain ⟨front, taken, later, dealings, turn, total, rfl, through, goesOn⟩ := ih rest
      obtain ⟨jobs, making, handing, rfl, made, submitted⟩ := gives_settle_iff.1 given
      exact ⟨event :: front, taken, later, _, turn, total, rfl,
        .settled asked noted free made submitted granted through, goesOn⟩

/-- Of each event that a sweep has gone through an ending is recorded. -/
theorem Through.recorded {turn : SweepBatch} {dealings : List Dealing}
    (through : Through profile events batch acts dealings turn) :
    (disposals acts).map Prod.fst = events.map StoredEvent.id := by
  induction through with
  | start => rfl
  | held asked noted awaits granted rest ih =>
    have silent : disposals [] = [] := rfl
    have recorded := disposals_pass silent asked granted
    rw [List.map_cons, ← ih]
    exact congrArg (List.map Prod.fst) (recorded _)
  | settled asked noted free made submitted granted rest ih =>
    have silent := settle_disposals (gives_settle_iff.2 ⟨_, _, _, rfl, made, submitted⟩)
    rw [disposals_pass silent asked granted, List.map_cons, ih, List.map_cons]

/-- A sweep gets its snapshot and goes through it, or it gets none and ends with an error. -/
theorem sweep_listed (course : (sweep profile).run.Course acts left) :
    ((acts = [] ∨ ∃ site e, acts = [⟨site, .store .unscheduledEvents⟩] ∧
        (site.world.transact .unscheduledEvents).1 = .error e) ∧
      (left.Pending (· ≠ .isCancelled) ∨ ∃ e, left = .done (.error e))) ∨
      ∃ listed behind, acts = ⟨listed, .store .unscheduledEvents⟩ :: behind ∧
        (listed.world.transact .unscheduledEvents).1 = .ok listed.world.store.unscheduled ∧
        (sweepThrough profile listed.world.store.unscheduled .empty .zero).run.Course behind left := by
  rw [sweep, transact, demand, bind_assoc, run_bind, Cycle.request] at course
  cases course with
  | rest => exact .inl ⟨.inl rfl, .inl (by simp [Program.Pending])⟩
  | expire timed rest =>
    obtain ⟨rfl, rfl⟩ := Program.course_done_iff.1 rest
    exact .inl ⟨.inl rfl, .inr ⟨_, rfl⟩⟩
  | cancel cancellable => cases cancellable
  | reply site rest =>
    have answer : (site.perform (.store .unscheduledEvents)).1 =
        (site.world.transact .unscheduledEvents).1 := rfl
    rw [answer] at rest
    cases reply : (site.world.transact .unscheduledEvents).1 with
    | error e =>
      rw [reply] at rest
      obtain ⟨rfl, rfl⟩ := Program.course_done_iff.1 rest
      exact .inl ⟨.inr ⟨site, e, rfl, reply⟩, .inr ⟨_, rfl⟩⟩
    | ok events =>
      rw [reply] at rest
      obtain rfl := World.eq_unscheduled reply
      exact .inr ⟨site, _, rfl, reply, rest⟩

end Cycle

end ChannelWatch
