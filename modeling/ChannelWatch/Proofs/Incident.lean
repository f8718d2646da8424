import ChannelWatch.Proofs.Cancellation
import ChannelWatch.Proofs.Turn

/-!
# Errors in the turns of a watch

In a turn of one of its three tasks a collect cycle may end with an error, or the oldest error is
taken up: an `Incident`. `Task.Serves.settles` says what a turn does to the errors that wait and to
the connections, `Task.Foreign.resume` that other tasks leave the errors alone, and `kept` which
errors of a history there is room for.
-/

namespace ChannelWatch
set_option autoImplicit false

/-- What happens to the errors of a watch in a turn of one of its tasks. -/
inductive Incident where
  /-- A collect cycle ends with an error. -/
  | failed (error : CycleError)
  /-- The error that has waited longest is taken up. -/
  | taken (error : CycleError)
  /-- Neither. -/
  | quiet
deriving DecidableEq

/-- A turn of a task as it is recorded. -/
structure Entry where
  incident : Incident
  /-- How often the connections were reset. -/
  resets : Nat
deriving DecidableEq

namespace Incident

/-- The error of a collect cycle. -/
def failure? : Incident → Option CycleError
  | failed error => some error
  | taken _ | quiet => none

/-- The error that is taken up. -/
def taken? : Incident → Option CycleError
  | taken error => some error
  | failed _ | quiet => none

/-- How often the connections have to be reset. -/
def calls : Incident → Nat
  | taken error => if error.isTransport then 1 else 0
  | failed _ | quiet => 0

/-- The connections are reset for errors of three kinds. -/
theorem calls_eq_one_iff {incident : Incident} :
    incident.calls = 1 ↔ (∃ cause, incident = .taken (.fetchLogs cause)) ∨
      (∃ cause, incident = .taken (.latestBlock cause)) ∨ incident = .taken .timedOut := by
  cases incident with
  | taken error =>
    simp only [calls, taken.injEq, ← CycleError.isTransport_iff]
    cases error.isTransport <;> simp
  | failed | quiet => simp [calls]

/-- What becomes of the errors that wait where there is room for `capacity`. -/
inductive Changes (capacity : Nat) : Incident → ErrorInbox → ErrorInbox → Prop where
  | failed (error : CycleError) (inbox : ErrorInbox) :
      Changes capacity (.failed error) inbox (inbox.report capacity error)
  | taken (error : CycleError) (waiting : List CycleError) :
      Changes capacity (.taken error) ⟨error :: waiting⟩ ⟨waiting⟩
  | quiet (inbox : ErrorInbox) : Changes capacity .quiet inbox inbox

end Incident

/-- The errors with which collect cycles ended. -/
def failures (history : List Entry) : List CycleError :=
  history.filterMap fun entry => entry.incident.failure?

/-- The errors that were taken up. -/
def handled (history : List Entry) : List CycleError :=
  history.filterMap fun entry => entry.incident.taken?

/-- The errors for which there is room when they come, if `waiting` errors wait at first: those
that need attention while less than `capacity` wait. -/
def kept (capacity : Nat) : Nat → List Entry → List CycleError
  | _, [] => []
  | waiting, ⟨.failed error, _⟩ :: history =>
    if error.needsAttention ∧ waiting < capacity then
      error :: kept capacity (waiting + 1) history
    else kept capacity waiting history
  | waiting, ⟨.taken _, _⟩ :: history => kept capacity (waiting - 1) history
  | waiting, ⟨.quiet, _⟩ :: history => kept capacity waiting history

/-- What is kept comes from collect cycles, in their order. -/
theorem kept_sublist (capacity waiting : Nat) (history : List Entry) :
    (kept capacity waiting history).Sublist (failures history) := by
  induction history generalizing waiting with
  | nil => exact .slnil
  | cons entry history ih =>
    obtain ⟨incident, resets⟩ := entry
    cases incident with
    | failed error =>
      show (kept _ _ _).Sublist (error :: failures history)
      rw [kept]
      split
      · exact (ih _).cons_cons error
      · exact (ih _).cons error
    | taken error => exact ih _
    | quiet => exact ih _

namespace Incident.Changes

variable {capacity : Nat} {incident : Incident} {before after : ErrorInbox}

/-- Errors are taken up in the order in which they were kept, one incident after the other. -/
theorem order {history : List Entry} {waiting : List CycleError} (resets : Nat)
    (changes : incident.Changes capacity before after)
    (later : handled history ++ waiting =
      after.waiting ++ kept capacity after.waiting.length history) :
    handled (⟨incident, resets⟩ :: history) ++ waiting =
      before.waiting ++ kept capacity before.waiting.length (⟨incident, resets⟩ :: history) := by
  cases changes with
  | failed error =>
    rw [kept]
    unfold ErrorInbox.report at later
    split
    · rename_i room
      rw [if_pos room, List.length_append, List.append_assoc] at later
      exact later
    · rename_i full
      rw [if_neg full] at later
      exact later
  | taken error waiting => exact congrArg (error :: ·) later
  | quiet => exact later

/-- No more errors wait than there is room for. -/
theorem bounded (changes : incident.Changes capacity before after)
    (within : before.waiting.length ≤ capacity) : after.waiting.length ≤ capacity := by
  cases changes with
  | failed error => exact ErrorInbox.length_report_le error within
  | taken error waiting => exact Nat.le_of_succ_le within
  | quiet => exact within

end Incident.Changes

/-! ## Requests that reset the connections -/

/-- The request resets the connections. -/
def Request.resets : Request → Prop
  | .resetConnections => True
  | _ => False

/-- Others make requests of a kind, and nothing else happens. -/
def Freedom.asking (kind : Request → Prop) : Freedom where
  requests := kind
  chains _ _ := False
  orders := False
  rebuilding := False

namespace Freedom

theorem carries_resets_eq : (asking fun request => ¬ request.resets).Carries
    fun before after => after.chain.resets = before.chain.resets where
  refl _ := rfl
  trans start rest := rest.trans start
  request site request spares := by
    have makes := site.makes request
    generalize (site.perform request).2.world = after at makes
    cases makes with
    | reset => exact absurd trivial spares
    | _ => rfl
  chain _ _ may := absurd may id
  queue _ _ may := absurd may id

theorem carries_resets_le : (asking fun _ => True).Carries
    fun before after => before.chain.resets ≤ after.chain.resets where
  refl _ := Nat.le_refl _
  trans := Nat.le_trans
  request site request _ := by
    have makes := site.makes request
    generalize (site.perform request).2.world = after at makes
    cases makes with
    | reset => exact Nat.le_succ _
    | _ => exact Nat.le_refl _
  chain _ _ may := absurd may id
  queue _ _ may := absurd may id

end Freedom

namespace Cycle

theorem collect_never_resets (profile : Profile) :
    (collect profile).Asks fun request => ¬ request.resets := by
  refine (collect_asks profile).mono fun request collects => ?_
  cases request with
  | resetConnections => exact fun _ => collects
  | _ => exact id

theorem sweep_never_resets (profile : Profile) :
    (sweep profile).Asks fun request => ¬ request.resets := by
  refine (sweep_asks profile).mono fun request ofSweep => ?_
  cases request with
  | resetConnections => exact fun _ => ofSweep.elim id id
  | _ => exact id

end Cycle

namespace Timeline

/-- How often the connections have been reset. -/
def resets (timeline : Timeline) : Nat := timeline.world.chain.resets

theorem Stirs.resets_eq {before after : Timeline}
    (stirs : before.Stirs (Freedom.asking fun request => ¬ request.resets) after) :
    after.resets = before.resets :=
  Freedom.carries_resets_eq.joins (stirs.joins 0) (by simp)

theorem Stirs.resets_le {before after : Timeline}
    (stirs : before.Stirs (Freedom.asking fun _ => True) after) : before.resets ≤ after.resets :=
  Freedom.carries_resets_le.joins (stirs.joins 0) (by simp)

/-- Nothing that a run or a task does takes a reset back. -/
theorem resets_le_resume {α : Type} (timeline : Timeline) (strand : Strand) (run : Run α) :
    timeline.resets ≤ (timeline.resume strand run).2.resets := by
  have any : run.program.Asks (Freedom.asking fun _ => True).requests := run.program.asks_anything
  exact ((timeline.drive_drives strand run.post run.deadline run.program run.progress).stirs
    any).1.resets_le

theorem resets_le_task (timeline : Timeline) (strand : Strand) (task : Task) :
    timeline.resets ≤ (task.resume strand timeline).2.resets := by
  have any : task.Keeps (Freedom.asking fun _ => True) := task.keeps_anything
  exact (Task.resume_stirs strand timeline any).1.resets_le

/-- A report reaches the errors of its post. -/
theorem inbox_report {timeline : Timeline} {number : Nat} (there : number < timeline.posts.length)
    (capacity : Nat) (error : CycleError) :
    ((timeline.report number capacity error).post number).inbox =
      (timeline.post number).inbox.report capacity error := by
  rw [report, post_alter, if_pos ⟨rfl, there⟩]

end Timeline

/-! ## Turns of the tasks of a watch -/

/-- The incident of a collect cycle that has got this far. -/
def Run.incident (run : Run (Except CycleError Collected)) : Incident :=
  match run.result? with
  | some (.error error) => .failed error
  | _ => .quiet

namespace Task

/-- The incident of a turn of the task. -/
def incident (strand : Strand) (timeline : Timeline) : Task → Incident
  | collecting _ _ _ (some cycle) => (timeline.resume strand cycle).1.incident
  | collecting watch post ticker none =>
    if timeline.isCancelled post then .quiet
    else if timeline.now < ticker.due then .quiet
    else (watch.collect strand post timeline).1.incident
  | attending post =>
    if timeline.isCancelled post then .quiet
    else
      match (timeline.post post).inbox.waiting with
      | [] => .quiet
      | error :: _ => .taken error
  | sweeping _ _ _ _ | cancelling _ _ | finished => .quiet

/-- A turn of the task as it is recorded. -/
def entry (strand : Strand) (timeline : Timeline) (task : Task) : Entry :=
  ⟨task.incident strand timeline, (task.resume strand timeline).2.resets - timeline.resets⟩

/-- The task is the one with this place among the three of the watch. -/
inductive Serves (watch : Watch) (post : Nat) : Nat → Task → Prop where
  | collecting {ticker : Ticker} {cycle : Option (Run (Except CycleError Collected))}
      (paced : 0 < ticker.period)
      (own : ∀ run ∈ cycle, run.post = post ∧ run.program.Asks fun request => ¬ request.resets) :
      Serves watch post 0 (.collecting watch post ticker cycle)
  | sweeping {ticker : Ticker} {cycle : Option (Run (Except CycleError SweepReport))}
      (paced : 0 < ticker.period)
      (own : ∀ run ∈ cycle, run.post = post ∧ run.program.Asks fun request => ¬ request.resets) :
      Serves watch post 1 (.sweeping watch post ticker cycle)
  | attending : Serves watch post 2 (.attending post)
  | finished (place : Nat) : Serves watch post place .finished

/-- What a turn of a task of the watch does to its errors and to the connections. -/
structure Settles (watch : Watch) (post place : Nat) (incident : Incident) (before : Timeline)
    (turned : Task × Timeline) : Prop where
  serves : turned.1.Serves watch post place
  changes : incident.Changes watch.errorCapacity (before.post post).inbox (turned.2.post post).inbox
  resets : turned.2.resets = before.resets + incident.calls

variable {watch : Watch} {post place : Nat} {strand : Strand} {timeline : Timeline}

/-- A turn in which nothing happens. -/
theorem settles_idle {task : Task} (serves : task.Serves watch post place) :
    Settles watch post place .quiet timeline (task, timeline) :=
  ⟨serves, .quiet _, rfl⟩

/-- What a cycle of the watch leaves when it goes on. -/
structure Carried {α : Type} (post : Nat) (before : Timeline) (cycle : Run α × Timeline) :
    Prop where
  post : cycle.1.post = post
  asks : cycle.1.program.Asks fun request => ¬ request.resets
  undisturbed : before.Undisturbed cycle.2
  resets : cycle.2.resets = before.resets

theorem carried_of_asks {α : Type} {deadline : Option Nat} {program : Program α}
    {progress : Progress} (asks : program.Asks fun request => ¬ request.resets) :
    Carried post timeline (timeline.drive strand post deadline program progress) := by
  have quiet : program.Asks (Freedom.asking fun request => ¬ request.resets).requests := asks
  obtain ⟨stirs, left⟩ :=
    (timeline.drive_drives strand post deadline program progress).stirs quiet
  exact ⟨Timeline.drive_post _ _ _ _ _ _, left, Timeline.undisturbed_drive _ _ _ _ _ _,
    stirs.resets_eq⟩

/-- A collect cycle that goes on notes its error if it ends with one. -/
theorem settles_collected {ticker : Ticker} {cycle : Run (Except CycleError Collected) × Timeline}
    (paced : 0 < ticker.period) (there : post < timeline.posts.length)
    (carried : Carried post timeline cycle) :
    Settles watch post 0 cycle.1.incident timeline (collected watch ticker cycle) := by
  obtain ⟨run, after⟩ := cycle
  obtain ⟨rfl, asks, undisturbed, resets⟩ := carried
  have inbox := undisturbed.inbox run.post
  have idle : (Task.collecting watch run.post ticker none).Serves watch run.post 0 :=
    .collecting paced (by simp)
  unfold Run.incident collected
  simp only
  cases ended : run.result? with
  | none =>
    refine ⟨.collecting paced ?_, ?_, resets⟩
    · rintro _ ⟨⟩
      exact ⟨rfl, asks⟩
    · rw [inbox]
      exact .quiet _
  | some result =>
    cases result with
    | ok found =>
      refine ⟨idle, ?_, resets⟩
      rw [inbox]
      exact .quiet _
    | error error =>
      have there : run.post < after.posts.length := by rwa [undisturbed.posts]
      refine ⟨idle, ?_, resets⟩
      rw [Timeline.inbox_report there, inbox]
      exact .failed error _

/-- A sweep that goes on leaves the errors alone, however it ends. -/
theorem settles_swept {ticker : Ticker} {cycle : Run (Except CycleError SweepReport) × Timeline}
    (paced : 0 < ticker.period) (carried : Carried post timeline cycle) :
    Settles watch post 1 .quiet timeline (swept watch ticker cycle) := by
  obtain ⟨run, after⟩ := cycle
  obtain ⟨rfl, asks, undisturbed, resets⟩ := carried
  refine ⟨?_, ?_, ?_⟩
  · rw [swept_fst]
    refine .sweeping paced fun other mem => ?_
    split at mem
    · obtain rfl := Option.mem_some.1 mem
      exact ⟨rfl, asks⟩
    · cases mem
  · rw [swept_snd, undisturbed.inbox run.post]
    exact .quiet _
  · rw [swept_snd]
    exact resets

/-- The oldest error is taken up, and the connections are reset if it points at them. -/
theorem settles_attend (spared : timeline.isCancelled post = false)
    (there : post < timeline.posts.length) :
    Settles watch post 2 ((attending post).incident strand timeline) timeline
      (attending post, attend post timeline) := by
  have oldest : ∀ error waiting, (timeline.post post).inbox.waiting = error :: waiting →
      (timeline.post post).inbox = ⟨error :: waiting⟩ := fun error waiting same =>
    congrArg ErrorInbox.mk same
  unfold incident
  simp only [spared, Bool.false_eq_true, if_false]
  cases same : (timeline.post post).inbox.waiting with
  | nil =>
    rw [attend_of_empty same]
    exact settles_idle .attending
  | cons error waiting =>
    refine ⟨.attending, ?_, ?_⟩
    · rw [oldest error waiting same, (attend_undisturbed same).inbox, Timeline.post_alter,
        if_pos ⟨rfl, there⟩]
      exact .taken error waiting
    · simp only [attend, ErrorInbox.take?, same, Incident.calls]
      split <;> rfl

/-- A turn of a task of the watch. -/
theorem Serves.settles {task : Task} (serves : task.Serves watch post place) (strand : Strand)
    (there : post < timeline.posts.length) :
    Settles watch post place (task.incident strand timeline) timeline
      (task.resume strand timeline) := by
  cases serves with
  | @collecting ticker cycle paced own =>
    cases cycle with
    | some run =>
      obtain ⟨rfl, asks⟩ := own run rfl
      exact settles_collected paced there (carried_of_asks asks)
    | none =>
      rw [incident, resume]
      split
      · exact settles_idle (.finished 0)
      split
      · exact settles_idle (.collecting paced own)
      · exact settles_collected paced there (carried_of_asks (Cycle.collect_never_resets _))
  | @sweeping ticker cycle paced own =>
    cases cycle with
    | some run =>
      obtain ⟨rfl, asks⟩ := own run rfl
      exact settles_swept paced (carried_of_asks asks)
    | none =>
      rw [resume]
      split
      · exact settles_idle (.finished 1)
      split
      · exact settles_idle (.sweeping paced own)
      · exact settles_swept paced (carried_of_asks (Cycle.sweep_never_resets _))
  | attending =>
    cases told : timeline.isCancelled post with
    | true =>
      rw [incident, resume, if_pos told, if_pos told]
      exact settles_idle (.finished 2)
    | false =>
      rw [resume, if_neg (by simp [told])]
      exact settles_attend told there
  | finished place => exact settles_idle (.finished place)

theorem Serves.paced {task : Task} (serves : task.Serves watch post place) : task.Paced := by
  cases serves with
  | collecting paced | sweeping paced => exact paced
  | attending | finished => trivial

/-- A task that looks after the errors of a post does so until the watch is cancelled. -/
theorem cancelled_of_attending
    (ended : ((attending post).resume strand timeline).1 = .finished) :
    timeline.isCancelled post = true := by
  by_contra spared
  rw [resume, if_neg spared] at ended
  cases ended

/-- The task neither notes errors at a post nor takes up those that wait there. -/
def Foreign (post : Nat) : Task → Prop
  | collecting _ other ticker cycle =>
    0 < ticker.period ∧ other ≠ post ∧ ∀ run ∈ cycle, run.post ≠ post
  | sweeping _ _ ticker _ => 0 < ticker.period
  | attending other => other ≠ post
  | cancelling _ _ | finished => True

theorem Foreign.paced {task : Task} (foreign : task.Foreign post) : task.Paced := by
  cases task with
  | collecting => exact foreign.1
  | sweeping => exact foreign
  | attending | cancelling | finished => trivial

/-- A cycle of another watch leaves the errors of a post alone. -/
theorem foreign_collected {ticker : Ticker} {cycle : Run (Except CycleError Collected) × Timeline}
    (paced : 0 < ticker.period) (elsewhere : cycle.1.post ≠ post)
    (undisturbed : timeline.Undisturbed cycle.2) :
    (collected watch ticker cycle).1.Foreign post ∧
      ((collected watch ticker cycle).2.post post).inbox = (timeline.post post).inbox := by
  obtain ⟨run, after⟩ := cycle
  constructor
  · rw [collected_fst]
    refine ⟨paced, elsewhere, fun other mem => ?_⟩
    split at mem
    · obtain rfl := Option.mem_some.1 mem
      exact elsewhere
    · cases mem
  · rw [collected_snd, ← undisturbed.inbox post]
    split
    · rw [Timeline.report, Timeline.post_alter, if_neg fun here => elsewhere here.1]
    · rfl

theorem foreign_swept {ticker : Ticker} {cycle : Run (Except CycleError SweepReport) × Timeline}
    (paced : 0 < ticker.period) (undisturbed : timeline.Undisturbed cycle.2) :
    (swept watch ticker cycle).1.Foreign post ∧
      ((swept watch ticker cycle).2.post post).inbox = (timeline.post post).inbox := by
  obtain ⟨run, after⟩ := cycle
  rw [swept_fst, swept_snd]
  exact ⟨paced, undisturbed.inbox post⟩

/-- Another task never does anything about the errors of a post. -/
theorem Foreign.resume {task : Task} (foreign : task.Foreign post) (strand : Strand)
    (timeline : Timeline) :
    (task.resume strand timeline).1.Foreign post ∧
      ((task.resume strand timeline).2.post post).inbox = (timeline.post post).inbox := by
  cases task with
  | collecting watch other ticker cycle =>
    obtain ⟨paced, elsewhere, away⟩ := foreign
    have turn := resume_collecting watch other strand timeline ticker cycle
    generalize (Task.collecting watch other ticker cycle).resume strand timeline = turned at turn ⊢
    cases turn with
    | stopped => exact ⟨trivial, rfl⟩
    | waited => exact ⟨⟨paced, elsewhere, away⟩, rfl⟩
    | @took _ next run takes =>
      obtain ⟨paced, away⟩ : 0 < next.period ∧ run.post ≠ post := by
        cases takes with
        | again run => exact ⟨paced, away run rfl⟩
        | anew => exact ⟨paced, elsewhere⟩
      exact foreign_collected paced
        (fun here => away ((Timeline.drive_post _ _ _ _ _ _).symm.trans here))
        (Timeline.undisturbed_drive _ _ _ _ _ _)
  | sweeping watch other ticker cycle =>
    have turn := resume_sweeping watch other strand timeline ticker cycle
    generalize (Task.sweeping watch other ticker cycle).resume strand timeline = turned at turn ⊢
    cases turn with
    | stopped => exact ⟨trivial, rfl⟩
    | waited => exact ⟨foreign, rfl⟩
    | @took _ next run takes =>
      have paced : 0 < next.period := by cases takes <;> exact foreign
      exact foreign_swept paced (Timeline.undisturbed_drive _ _ _ _ _ _)
  | attending other =>
    rw [Task.resume]
    split
    · exact ⟨trivial, rfl⟩
    refine ⟨foreign, ?_⟩
    cases oldest : (timeline.post other).inbox.waiting with
    | nil => rw [attend_of_empty oldest]
    | cons error waiting =>
      rw [(attend_undisturbed oldest).inbox, Timeline.post_alter, if_neg fun here => foreign here.1]
  | cancelling other due =>
    rw [Task.resume]
    split
    · exact ⟨trivial, rfl⟩
    · exact ⟨trivial, (timeline.undisturbed_cancel other).inbox post⟩
  | finished => exact ⟨trivial, rfl⟩

end Task

end ChannelWatch
