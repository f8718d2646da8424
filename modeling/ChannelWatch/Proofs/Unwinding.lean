import ChannelWatch.Proofs.Sweep

/-!
# Cycles that are told to stop

When a watch is told to stop, what its cycles wait for is cut short, unless it has to be carried
through. `Program.unwound` is what remains of a program then, and `Program.Stops` says what a
program does before and after. A collect cycle only reads on or commits what it has found
(`Cycle.collect_stops`); a sweep at most notes how the last event ended (`Cycle.sweep_stops`).
-/

namespace ChannelWatch
set_option autoImplicit false

namespace Program

variable {α β : Type}

/-- What a program comes to once everything is cut short that gives way to a cancellation. -/
def unwound : Program α → Program α
  | .done value => .done value
  | .ask guard request next =>
    if cancellable : guard.cancellable = true then (next (.cancelled cancellable)).unwound
    else .ask guard request fun outcome => (next outcome).unwound

@[simp] theorem unwound_done (value : α) : (done value).unwound = done value := rfl

theorem unwound_ask_of_cancellable {guard : Guard} (cancellable : guard.cancellable = true)
    (request : Request) (next : Outcome guard request.Reply → Program α) :
    (ask guard request next).unwound = (next (.cancelled cancellable)).unwound := by
  rw [unwound, dif_pos cancellable]

theorem unwound_ask_of_not {guard : Guard} (carried : ¬ guard.cancellable = true)
    (request : Request) (next : Outcome guard request.Reply → Program α) :
    (ask guard request next).unwound = ask guard request fun outcome => (next outcome).unwound := by
  rw [unwound, dif_neg carried]

theorem unwound_bind (program : Program α) (f : α → Program β) :
    (program.bind f).unwound = program.unwound.bind fun value => (f value).unwound := by
  induction program with
  | done value => rfl
  | ask guard request next ih =>
    rw [ask_bind]
    by_cases cancellable : guard.cancellable = true
    · rw [unwound_ask_of_cancellable cancellable, unwound_ask_of_cancellable cancellable, ih]
    · rw [unwound_ask_of_not cancellable, unwound_ask_of_not cancellable, ask_bind]
      exact congrArg (ask guard request) (funext ih)

theorem Asks.unwound {kind : Request → Prop} {program : Program α} (asks : program.Asks kind) :
    program.unwound.Asks kind := by
  induction program with
  | done value => trivial
  | ask guard request next ih =>
    by_cases cancellable : guard.cancellable = true
    · rw [unwound_ask_of_cancellable cancellable]
      exact ih _ (asks.2 _)
    · rw [unwound_ask_of_not cancellable]
      exact ⟨asks.1, fun outcome => ih outcome (asks.2 outcome)⟩

/-- To give way to a cancellation is one of the courses that a program may take. -/
theorem Course.of_unwound {program left : Program α} {acts : List Act}
    (course : program.unwound.Course acts left) : ∃ left, program.Course acts left := by
  induction program generalizing acts with
  | done value => exact ⟨_, course⟩
  | ask guard request next ih =>
    by_cases cancellable : guard.cancellable = true
    · rw [unwound_ask_of_cancellable cancellable] at course
      exact (ih _ course).imp fun _ => .cancel cancellable
    · rw [unwound_ask_of_not cancellable] at course
      cases course with
      | rest => exact ⟨_, .rest _⟩
      | reply site rest => exact (ih _ rest).imp fun _ => .reply site
      | expire timed rest => exact (ih _ rest).imp fun _ => .expire timed
      | cancel other => exact absurd other cancellable

/-- The next request is one that takes time. -/
def Parked : Program α → Prop
  | .done _ => False
  | .ask _ request _ => request.hurdles ≠ []

/-- The program does some acts, is told to stop while it waits, and gets through other acts
then. -/
structure Stops (program : Program α) (before behind : List Act) (left : Program α) : Prop where
  course : ∃ middle, program.Course before middle ∧ middle.Parked ∧
    middle.unwound.Course behind left
  told : ∀ act ∈ behind, act.site.desk.cancelled = true

theorem Stops.whole {program left : Program α} {before behind : List Act}
    (stops : program.Stops before behind left) :
    ∃ left, program.Course (before ++ behind) left := by
  obtain ⟨middle, course, -, unwinding⟩ := stops.course
  obtain ⟨left, rest⟩ := unwinding.of_unwound
  exact ⟨left, course.trans rest⟩

theorem not_stops_done {value : α} {before behind : List Act} {left : Program α} :
    ¬ (done value).Stops before behind left := by
  rintro ⟨⟨middle, course, parked, -⟩, -⟩
  rw [(course_done_iff.1 course).2] at parked
  exact parked

/-- A sequence is told to stop in its first part, which comes to an end or does not, or in its
second one. -/
theorem Stops.of_bind {program : Program α} {f : α → Program β} {before behind : List Act}
    {left : Program β} (stops : (program.bind f).Stops before behind left) :
    (∃ rest, program.Stops before behind rest ∧ left = rest.bind fun value => (f value).unwound) ∨
      (∃ value first second, behind = first ++ second ∧
        program.Stops before first (.done value) ∧ (f value).unwound.Course second left) ∨
      ∃ value first second, before = first ++ second ∧ program.Course first (.done value) ∧
        (f value).Stops second behind left := by
  obtain ⟨⟨middle, course, parked, unwinding⟩, told⟩ := stops
  rcases course.of_bind with ⟨inner, run, rfl⟩ | ⟨value, first, second, rfl, run, course⟩
  · cases inner with
    | done value =>
      exact .inr (.inr ⟨value, before, [], by simp, run, ⟨⟨_, .rest _, parked, unwinding⟩, told⟩⟩)
    | ask guard request next =>
      have parked : (ask guard request next).Parked := parked
      rw [unwound_bind] at unwinding
      rcases unwinding.of_bind with ⟨rest, run', rfl⟩ | ⟨value, first, second, rfl, run', last⟩
      · exact .inl ⟨rest, ⟨⟨_, run, parked, run'⟩, told⟩, rfl⟩
      · exact .inr (.inl ⟨value, first, second, rfl,
          ⟨⟨_, run, parked, run'⟩, fun act mem => told act (by simp [mem])⟩, last⟩)
  · exact .inr (.inr ⟨value, first, second, rfl, run, ⟨⟨_, course, parked, unwinding⟩, told⟩⟩)

theorem Stops.asked {kind : Request → Prop} {program left : Program α} {before behind : List Act}
    (stops : program.Stops before behind left) (asks : program.Asks kind) :
    ∀ act ∈ behind, kind act.request := by
  obtain ⟨middle, course, -, unwinding⟩ := stops.course
  exact unwinding.asked (course.left_asks asks).unwound

/-- A straight program whose requests give way when they take time does nothing more. -/
theorem Stops.of_yielding {kind : Request → Prop} {program left : Program (Except CycleError α)}
    {before behind : List Act} (stops : program.Stops before behind left)
    (straight : program.Straight (Cycle.Yielding kind)) :
    behind = [] ∧ left = .done (.error .cancelled) := by
  obtain ⟨middle, course, parked, unwinding⟩ := stops.course
  have straight := course.left_straight straight
  cases middle with
  | done result => exact absurd parked id
  | ask guard request next =>
    obtain ⟨⟨-, yields⟩, -, -, cancelled⟩ := straight
    have cancellable : guard.cancellable = true := yields.resolve_left parked
    rw [unwound_ask_of_cancellable cancellable, cancelled] at unwinding
    exact course_done_iff.1 unwinding

theorem Straight.unwound_eq {program : Program (Except CycleError α)}
    (straight : program.Straight fun guard _ => ¬ guard.cancellable = true) :
    program.unwound = program := by
  induction program with
  | done result => rfl
  | ask guard request next ih =>
    obtain ⟨carried, replied, expired, cancelled⟩ := straight
    rw [unwound_ask_of_not carried]
    congr 1
    funext outcome
    cases outcome with
    | reply value => exact ih _ (replied value)
    | expired timed => rw [expired, unwound_done]
    | cancelled cancellable => exact absurd cancellable carried

/-- What is carried through goes on as if nothing had happened. -/
theorem Stops.of_carried {program left : Program (Except CycleError α)} {before behind : List Act}
    (stops : program.Stops before behind left)
    (straight : program.Straight fun guard _ => ¬ guard.cancellable = true) :
    program.Course (before ++ behind) left := by
  obtain ⟨middle, course, -, unwinding⟩ := stops.course
  rw [Straight.unwound_eq (course.left_straight straight)] at unwinding
  exact course.trans unwinding

end Program

namespace Cycle

variable {α β : Type} {before behind : List Act}

/-- A sequence of cycles is told to stop in its first part, which gives a value or does not, or
in its second one. -/
theorem stops_bind {cycle : Cycle α} {f : α → Cycle β} {left : Program (Except CycleError β)}
    (stops : (cycle >>= f).run.Stops before behind left) :
    ((∃ rest, cycle.run.Stops before behind rest) ∧ ∀ value, left ≠ .done (.ok value)) ∨
      (∃ value first second, behind = first ++ second ∧
        cycle.run.Stops before first (.done (.ok value)) ∧
        (f value).run.unwound.Course second left) ∨
      ∃ value first second, before = first ++ second ∧ cycle.Gives first value ∧
        (f value).run.Stops second behind left := by
  rw [run_bind] at stops
  rcases stops.of_bind with ⟨rest, inner, rfl⟩ | ⟨result, first, second, rfl, inner, course⟩ |
    ⟨result, first, second, rfl, given, later⟩
  · cases rest with
    | ask guard request next => exact .inl ⟨⟨_, inner⟩, fun value same => by cases same⟩
    | done result =>
      cases result with
      | ok value => exact .inr (.inl ⟨value, behind, [], by simp, inner, .rest _⟩)
      | error e => exact .inl ⟨⟨_, inner⟩, fun value same => by cases same⟩
  · cases result with
    | ok value => exact .inr (.inl ⟨value, first, second, rfl, inner, course⟩)
    | error e =>
      obtain ⟨rfl, rfl⟩ := Program.course_done_iff.1 course
      exact .inl ⟨⟨_, by simpa using inner⟩, fun value same => by cases same⟩
  · cases result with
    | ok value => exact .inr (.inr ⟨value, first, second, rfl, given, later⟩)
    | error e => exact absurd later Program.not_stops_done

/-- A request that is waited for was not made before, and takes time. -/
theorem request_stops {guard : Guard} {request : Request}
    {left : Program (Except CycleError request.Reply)}
    (stops : (Cycle.request guard request).run.Stops before behind left) :
    before = [] ∧ request.hurdles ≠ [] := by
  obtain ⟨middle, course, parked, -⟩ := stops.course
  cases course with
  | rest => exact ⟨rfl, parked⟩
  | reply _ rest | expire _ rest | cancel _ rest =>
    rw [(Program.course_done_iff.1 rest).2] at parked
    exact absurd parked id

theorem demand_stops {ε : Type} {wrap : ε → CycleError} {ask : Cycle (Except ε α)}
    {left : Program (Except CycleError α)}
    (stops : (demand wrap ask).run.Stops before behind left) :
    ∃ rest, ask.run.Stops before behind rest := by
  rcases stops_bind stops with ⟨inner, -⟩ | ⟨result, first, second, rfl, inner, course⟩ |
    ⟨result, first, second, rfl, given, later⟩
  · exact inner
  · have ends : second = [] := by
      cases result <;> exact (Program.course_done_iff.1 course).1
    exact ⟨_, by simpa [ends] using inner⟩
  · cases result <;> exact absurd later Program.not_stops_done

/-- A transaction that has to be carried through was not made before, and takes its course. -/
theorem transact_stops {guard : Guard} {t : Transaction}
    {left : Program (Except CycleError t.Value)} (carried : ¬ guard.cancellable = true)
    (stops : (transact guard t).run.Stops before behind left) :
    before = [] ∧ (transact guard t).run.Course behind left := by
  obtain ⟨rest, asked⟩ := demand_stops stops
  obtain ⟨rfl, -⟩ := request_stops asked
  have straight : (transact guard t).Straight fun guard _ => ¬ guard.cancellable = true :=
    straight_transact carried
  exact ⟨rfl, stops.of_carried straight⟩

section

variable {profile : Profile}

/-- A collect cycle starts with a request to the store, which takes time. -/
theorem collect_parked (profile : Profile) : (collect profile).run.Parked := List.cons_ne_nil _ _

/-- A sweep does as well. -/
theorem sweep_parked (profile : Profile) : (sweep profile).run.Parked := List.cons_ne_nil _ _

/-- A scan that is told to stop only reads on, and finds nothing. -/
theorem scan_stops {left : Program (Except CycleError (Window × List Log))}
    (stops : (scan profile).run.Stops before behind left) :
    (∀ act ∈ behind, act.request.surveys) ∧ ∀ found, left ≠ .done (.ok found) := by
  have surveys : survey.Asks Request.surveys :=
    Program.Asks.mono (fun _ ⟨_, _, surveys⟩ => surveys) survey_straight.asks
  rw [scan_eq] at stops
  rcases stops_bind stops with ⟨⟨rest, inner⟩, unfinished⟩ | ⟨⟨limits, checkpoint, locals⟩, first,
    second, rfl, inner, course⟩ | ⟨⟨limits, checkpoint, locals⟩, first, second, rfl, -, later⟩
  · exact ⟨inner.asked surveys, unfinished⟩
  · have halted : (explore profile limits checkpoint locals).run.unwound =
        .done (.error .cancelled) := rfl
    rw [halted] at course
    obtain ⟨rfl, rfl⟩ := Program.course_done_iff.1 course
    rw [List.append_nil]
    exact ⟨inner.asked surveys, fun found same => by cases same⟩
  · have yields : (explore profile limits checkpoint locals).Straight (Yielding fun _ => True) :=
      (explore_straight profile limits checkpoint locals).mono
        fun guard request kind => ⟨trivial, .inr (by rw [kind.1]; rfl)⟩
    obtain ⟨rfl, rfl⟩ := later.of_yielding yields
    exact ⟨by simp, fun found same => by cases same⟩

/-- A collect cycle that is told to stop only reads on, or it commits what it has found. -/
theorem collect_stops {left : Program (Except CycleError Collected)}
    (stops : (collect profile).run.Stops before behind left) :
    (∀ act ∈ behind, act.request.surveys) ∨ ∃ site found window,
      behind = [⟨site, .advance found window⟩] ∧ (scan profile).Gives before (window, found) ∧
        window.isEmpty = false := by
  rcases stops_bind stops with ⟨⟨rest, inner⟩, -⟩ | ⟨found, first, second, rfl, inner, -⟩ |
    ⟨⟨window, found⟩, first, second, rfl, given, later⟩
  · exact .inl (scan_stops inner).1
  · exact absurd rfl ((scan_stops inner).2 found)
  · simp only at later
    split at later
    · exact absurd later Program.not_stops_done
    rename_i ahead
    rw [Bool.not_eq_true] at ahead
    have committed :
        ∃ rest, (request .final (.advance found window)).run.Stops second behind rest := by
      rcases stops_bind later with ⟨⟨rest, inner⟩, -⟩ | ⟨_, commit, last, rfl, inner, course⟩ |
        ⟨_, _, _, _, _, later⟩
      · exact demand_stops inner
      · obtain ⟨rfl, -⟩ := Program.course_done_iff.1 course
        rw [List.append_nil]
        exact demand_stops inner
      · exact absurd later Program.not_stops_done
    obtain ⟨rest, inner⟩ := committed
    obtain ⟨rfl, -⟩ := request_stops inner
    have carried : (request .final (.advance found window)).Straight
        fun guard _ => ¬ guard.cancellable = true := straight_request (by decide)
    rcases course_request (inner.of_carried carried) with rfl | ⟨site, rfl⟩
    · exact .inl (by simp)
    · exact .inr ⟨site, found, window, rfl, by simpa using given, ahead⟩

end

end Cycle

/-- How an event ended is decided, by what was done since the sweep came to it. -/
inductive Decided (profile : Profile) (event : StoredEvent) (batch : SweepBatch) :
    List Act → Disposition → Prop where
  /-- The event waits for the announcement of its offering. -/
  | waiting (awaits : batch.awaitsAnnouncement event = true) :
      Decided profile event batch [] .failed
  /-- The sweep ran out of time with the event. -/
  | expired {acts : List Act} (free : batch.awaitsAnnouncement event = false)
      (course : (Cycle.settle profile event batch).run.Course acts (.done (.error .timedOut))) :
      Decided profile event batch acts .failed
  /-- The event is settled. -/
  | settled {acts : List Act} {submission : Submission}
      (free : batch.awaitsAnnouncement event = false)
      (given : (Cycle.settle profile event batch).Gives acts submission) :
      Decided profile event batch acts submission.disposition

/-- What a sweep has done with events when it only has to note how the last one ended. -/
inductive Owes (profile : Profile) :
    List StoredEvent → SweepBatch → List Act → Id → Disposition → Prop where
  | turn {event : StoredEvent} (events : List StoredEvent) {batch : SweepBatch} {acts : List Act}
      {disposition : Disposition} (asked : Site)
      (decided : Decided profile event batch acts disposition) :
      Owes profile (event :: events) batch (⟨asked, .isCancelled⟩ :: acts) event.id disposition
  /-- The event before waits for the announcement of its offering. -/
  | held {event : StoredEvent} {events : List StoredEvent} {batch : SweepBatch} {acts : List Act}
      {id : Id} {disposition : Disposition} (awaits : batch.awaitsAnnouncement event = true)
      (asked noted : Site) (owes : Owes profile events batch acts id disposition) :
      Owes profile (event :: events) batch
        (⟨asked, .isCancelled⟩ :: ⟨noted, .store (.disposeEvent event.id .failed)⟩ :: acts) id
        disposition
  /-- The event before was settled. -/
  | settled {event : StoredEvent} {events : List StoredEvent} {batch : SweepBatch}
      {acts behind : List Act} {submission : Submission} {id : Id} {disposition : Disposition}
      (free : batch.awaitsAnnouncement event = false) (asked noted : Site)
      (given : (Cycle.settle profile event batch).Gives acts submission)
      (owes : Owes profile events (batch.extend submission) behind id disposition) :
      Owes profile (event :: events) batch
        (⟨asked, .isCancelled⟩ :: acts ++
          ⟨noted, .store (.disposeEvent event.id submission.disposition)⟩ :: behind) id disposition

namespace Cycle

variable {profile : Profile} {events : List StoredEvent} {batch : SweepBatch}
  {report : SweepReport} {before behind : List Act}

/-- A sweep that finds itself cancelled goes through no more events. -/
theorem sweepThrough_unwinds {left : Program (Except CycleError SweepReport)}
    (course : (sweepThrough profile events batch report).run.unwound.Course behind left)
    (told : ∀ act ∈ behind, act.site.desk.cancelled = true) :
    ∀ act ∈ behind, act.request = .isCancelled := by
  cases events with
  | nil =>
    rw [(Program.course_done_iff.1 course).1]
    simp
  | cons event events =>
    cases course with
    | rest => simp
    | reply site rest =>
      have halted : site.desk.cancelled = true := told ⟨site, .isCancelled⟩ List.mem_cons_self
      have cancelled : (site.perform .isCancelled).1 = true := halted
      rw [cancelled] at rest
      obtain ⟨rfl, -⟩ := Program.course_done_iff.1 rest
      simp
    | expire timed => cases timed
    | cancel cancellable => cases cancellable

/-- An attempt that is told to stop does nothing more, if what it tries gives way. -/
theorem attempt_stops {α : Type} {kind : Request → Prop} {cycle : Cycle α}
    {left : Program (Except CycleError (Except CycleError α))}
    (straight : cycle.Straight (Yielding kind))
    (stops : (attempt cycle).run.Stops before behind left) :
    behind = [] ∧ left = .done (.ok (.error .cancelled)) := by
  rcases Program.Stops.of_bind stops with ⟨rest, inner, rfl⟩ | ⟨result, first, second, rfl, inner,
    course⟩ | ⟨result, first, second, rfl, -, later⟩
  · obtain ⟨rfl, rfl⟩ := inner.of_yielding straight
    exact ⟨rfl, rfl⟩
  · obtain ⟨rfl, same⟩ := inner.of_yielding straight
    cases same
    exact Program.course_done_iff.1 course
  · exact absurd later Program.not_stops_done

/-- A cycle that notes how an event ended and goes on is told to stop before or after that. -/
theorem dispose_stops {α : Type} {event : StoredEvent} {disposition : Disposition}
    {next : Unit → Cycle α} {left : Program (Except CycleError α)}
    (stops : (dispose event disposition >>= next).run.Stops before behind left) :
    before = [] ∧ (behind = [] ∨ ∃ noted rest,
        behind = ⟨noted, .store (.disposeEvent event.id disposition)⟩ :: rest ∧
          (rest = [] ∨ (next ()).run.unwound.Course rest left)) ∨
      ∃ noted later, before = ⟨noted, .store (.disposeEvent event.id disposition)⟩ :: later ∧
        (next ()).run.Stops later behind left := by
  rcases stops_bind stops with ⟨⟨rest, inner⟩, -⟩ | ⟨_, first, second, rfl, inner, course⟩ |
    ⟨_, first, second, rfl, given, later⟩
  · obtain ⟨rfl, run⟩ := transact_stops (by decide) inner
    rcases course_transact run with rfl | ⟨noted, rfl⟩
    · exact .inl ⟨rfl, .inl rfl⟩
    · exact .inl ⟨rfl, .inr ⟨noted, [], rfl, .inl rfl⟩⟩
  · obtain ⟨rfl, given⟩ := transact_stops (by decide) inner
    obtain ⟨noted, rfl, -⟩ := gives_transact_iff.1 given
    exact .inl ⟨rfl, .inr ⟨noted, second, rfl, .inr course⟩⟩
  · obtain ⟨noted, rfl, -⟩ := gives_transact_iff.1 given
    exact .inr ⟨noted, second, rfl, later⟩

/-- A sweep that is told to stop goes through no more events, but may have to note how the one
that it was at ended. -/
theorem sweepThrough_stops {left : Program (Except CycleError SweepReport)}
    (stops : (sweepThrough profile events batch report).run.Stops before behind left) :
    behind = [] ∨ ∃ event disposition noted rest,
      Owes profile events batch before event disposition ∧
      behind = ⟨noted, .store (.disposeEvent event disposition)⟩ :: rest ∧
      ∀ act ∈ rest, act.request = .isCancelled := by
  induction events generalizing batch report before with
  | nil => exact absurd stops Program.not_stops_done
  | cons event events ih =>
    have told := stops.told
    -- Whatever the sweep does once it has noted something, it finds itself cancelled.
    have unwinds : ∀ {batch report noted disposition rest left},
        behind = ⟨noted, .store (.disposeEvent event.id disposition)⟩ :: rest →
        (rest = [] ∨ (sweepThrough profile events batch report).run.unwound.Course rest left) →
        ∀ act ∈ rest, act.request = .isCancelled := by
      rintro batch report noted disposition rest left rfl (rfl | course)
      · simp
      · exact sweepThrough_unwinds course fun act mem => told act (List.mem_cons_of_mem _ mem)
    rw [sweepThrough] at stops
    rcases stops_bind stops with ⟨⟨_, inner⟩, -⟩ | ⟨_, _, _, _, inner, -⟩ |
      ⟨cancelled, first, tail, rfl, answer, stops⟩
    · exact absurd rfl (request_stops inner).2
    · exact absurd rfl (request_stops inner).2
    obtain ⟨asked, rfl, rfl⟩ := gives_request_iff.1 answer
    split at stops
    · exact absurd stops Program.not_stops_done
    split at stops
    · rename_i awaits
      rcases dispose_stops stops with ⟨rfl, rfl | ⟨noted, rest, same, later⟩⟩ |
        ⟨noted, later, rfl, onward⟩
      · exact .inl rfl
      · exact .inr ⟨event.id, .failed, noted, rest, .turn events asked (.waiting awaits), same,
          unwinds same later⟩
      · refine (ih onward).imp_right ?_
        rintro ⟨id, disposition, site, rest, owes, parts, ends⟩
        exact ⟨id, disposition, site, rest, .held awaits asked noted owes, parts, ends⟩
    rename_i free
    rw [Bool.not_eq_true] at free
    have yields := settle_straight profile event batch
    rcases stops_bind stops with ⟨⟨_, inner⟩, -⟩ | ⟨result, first, second, rfl, inner, course⟩ |
      ⟨result, own, later, rfl, given, stops⟩
    · exact .inl (attempt_stops yields inner).1
    · obtain ⟨rfl, same⟩ := attempt_stops yields inner
      cases same
      exact .inl (Program.course_done_iff.1 course).1
    have run := attempt_gives given
    split at stops
    · rename_i submission
      rcases dispose_stops stops with ⟨rfl, rfl | ⟨noted, rest, same, later⟩⟩ |
        ⟨noted, later, rfl, onward⟩
      · exact .inl rfl
      · refine .inr ⟨event.id, submission.disposition, noted, rest, ?_, same, unwinds same later⟩
        simpa using Owes.turn events asked (.settled free run)
      · refine (ih onward).imp_right ?_
        rintro ⟨id, disposition, site, rest, owes, parts, ends⟩
        exact ⟨id, disposition, site, rest, .settled free asked noted run owes, parts, ends⟩
    · rcases dispose_stops stops with ⟨rfl, rfl | ⟨noted, rest, same, later⟩⟩ |
        ⟨noted, later, rfl, onward⟩
      · exact .inl rfl
      · refine .inr ⟨event.id, .failed, noted, rest, ?_, same, ?_⟩
        · simpa using Owes.turn events asked (.expired free run)
        · rcases later with rfl | course
          · simp
          · rw [(Program.course_done_iff.1 course).1]
            simp
      · exact absurd onward Program.not_stops_done
    · exact absurd stops Program.not_stops_done

/-- A sweep that is told to stop takes no more than its snapshot, or it notes how the event that
it was at ended. -/
theorem sweep_stops {left : Program (Except CycleError SweepReport)}
    (stops : (sweep profile).run.Stops before behind left) :
    (∀ act ∈ behind, act.request = .store .unscheduledEvents ∨ act.request = .isCancelled) ∨
      ∃ listed own event disposition noted rest,
        before = ⟨listed, .store .unscheduledEvents⟩ :: own ∧
        Owes profile listed.world.store.unscheduled .empty own event disposition ∧
        behind = ⟨noted, .store (.disposeEvent event disposition)⟩ :: rest ∧
        ∀ act ∈ rest, act.request = .isCancelled := by
  have told := stops.told
  rcases stops_bind stops with ⟨⟨_, inner⟩, -⟩ | ⟨events, first, second, rfl, inner, course⟩ |
    ⟨events, first, own, rfl, listed, stops⟩
  · obtain ⟨-, run⟩ := transact_stops (by decide) inner
    rcases course_transact run with rfl | ⟨site, rfl⟩ <;> simp
  · obtain ⟨-, run⟩ := transact_stops (by decide) inner
    have ends := sweepThrough_unwinds course fun act mem => told act (by simp [mem])
    obtain ⟨site, rfl, -⟩ := gives_transact_iff.1 run
    refine .inl fun act mem => ?_
    rcases List.mem_append.1 mem with mem | mem
    · rw [List.mem_singleton.1 mem]
      exact .inl rfl
    · exact .inr (ends act mem)
  · obtain ⟨site, rfl, granted⟩ := gives_transact_iff.1 listed
    obtain rfl : events = site.world.store.unscheduled := World.eq_unscheduled granted
    rcases sweepThrough_stops stops with rfl | ⟨event, disposition, noted, rest, owes, parts, ends⟩
    · exact .inl (by simp)
    · exact .inr ⟨site, own, event, disposition, noted, rest, rfl, owes, parts, ends⟩

end Cycle

end ChannelWatch
