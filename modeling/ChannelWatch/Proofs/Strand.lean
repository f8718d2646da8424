import ChannelWatch.Proofs.Collect
import ChannelWatch.Proofs.Drive
import ChannelWatch.Proofs.Unwinding

/-!
# The acts of a strand

A strand of work is taken up on one timeline after the other and goes on each time until it has
to wait. `Run.acts` and `Task.acts` are the requests that it makes, each with its site, and
`Worker.along` puts them together. Before a cancellation a run gets through a course of its
program; from then on it gets through what is left of that unwound (`Run.Underway.stops`).
-/

namespace ChannelWatch
set_option autoImplicit false

namespace Timeline

theorem Alike.isCancelled {before after : Timeline} (alike : before.Alike after) (number : Nat) :
    after.isCancelled number = before.isCancelled number := by
  rw [Timeline.isCancelled, Timeline.isCancelled, alike.desks]

/-- The watch of a post that was never set up does not have to stop. -/
theorem there_of_isCancelled {timeline : Timeline} {number : Nat}
    (cancelled : timeline.isCancelled number = true) : number < timeline.posts.length := by
  by_contra beyond
  have fresh : timeline.post number = .fresh := by
    rw [post, List.getD_eq_getElem?_getD, List.getElem?_eq_none (Nat.not_lt.1 beyond)]
    rfl
  rw [isCancelled, fresh] at cancelled
  cases cancelled

theorem isCancelled_perform {timeline : Timeline} {number : Nat} (request : Request)
    (cancelled : timeline.isCancelled number = true) :
    (timeline.perform number request).2.isCancelled number = true := by
  have site := timeline.site_perform (there_of_isCancelled cancelled) request
  have desk := congrArg (fun site => site.desk.cancelled) site
  rw [Site.perform_cancelled] at desk
  exact desk.trans cancelled

variable {α : Type}

/-- The requests that a program makes while it is driven, as `drive` does it. -/
def acts (strand : Strand) (number : Nat) (deadline : Option Nat) :
    Program α → Progress → Timeline → List Act
  | .done _, _, _ => []
  | .ask guard request next, progress, timeline =>
    if cancelled : timeline.isCancelled number = true ∧ guard.cancellable = true then
      acts strand number deadline (next (.cancelled cancelled.2))
        (next (.cancelled cancelled.2)).progress (timeline.leave strand number)
    else
      match timeline.proceed strand number request progress with
      | (timeline, none) =>
        let (reply, after) := timeline.perform number request
        ⟨timeline.site number, request⟩ ::
          acts strand number deadline (next (.reply reply)) (next (.reply reply)).progress
            (after.leave strand number)
      | (timeline, some _) =>
        if expired : timeline.hasCome deadline = true ∧ guard.timed = true then
          acts strand number deadline (next (.expired expired.2))
            (next (.expired expired.2)).progress (timeline.leave strand number)
        else []

end Timeline

/-- How a program of a post gets through its acts on a timeline: between them no site changes, and
what can give way does so if its watch is cancelled. -/
inductive Driven {α : Type} (number : Nat) :
    Program α → Timeline → List Act → Program α → Timeline → Prop where
  | rest (program : Program α) {before after : Timeline} (alike : before.Alike after) :
      Driven number program before [] program after
  | reply {guard : Guard} {request : Request} {next : Outcome guard request.Reply → Program α}
      {acts : List Act} {left : Program α} {before faced after : Timeline}
      (alike : before.Alike faced)
      (carried : ¬ (guard.cancellable = true ∧ before.isCancelled number = true))
      (rest : Driven number (next (.reply (faced.perform number request).1))
        (faced.perform number request).2 acts left after) :
      Driven number (.ask guard request next) before (⟨faced.site number, request⟩ :: acts) left
        after
  | expire {guard : Guard} {request : Request} {next : Outcome guard request.Reply → Program α}
      {acts : List Act} {left : Program α} {before after : Timeline} (timed : guard.timed = true)
      (carried : ¬ (guard.cancellable = true ∧ before.isCancelled number = true))
      (rest : Driven number (next (.expired timed)) before acts left after) :
      Driven number (.ask guard request next) before acts left after
  | cancel {guard : Guard} {request : Request} {next : Outcome guard request.Reply → Program α}
      {acts : List Act} {left : Program α} {before after : Timeline}
      (cancellable : guard.cancellable = true)
      (rest : Driven number (next (.cancelled cancellable)) before acts left after) :
      Driven number (.ask guard request next) before acts left after

namespace Driven

variable {α : Type} {number : Nat} {program left : Program α} {acts : List Act}
  {before after : Timeline}

theorem of_alike {faced : Timeline} (alike : before.Alike faced)
    (driven : Driven number program faced acts left after) :
    Driven number program before acts left after := by
  induction driven with
  | rest program same => exact .rest program (alike.trans same)
  | reply same carried rest _ =>
    exact .reply (alike.trans same) (by rwa [← alike.isCancelled]) rest
  | expire timed carried _ ih => exact .expire timed (by rwa [← alike.isCancelled]) (ih alike)
  | cancel cancellable _ ih => exact .cancel cancellable (ih alike)

theorem course (driven : Driven number program before acts left after) :
    program.Course acts left := by
  induction driven with
  | rest => exact .rest _
  | @reply _ _ _ _ _ _ faced _ _ _ _ ih => exact .reply (faced.site number) ih
  | expire timed _ _ ih => exact .expire timed ih
  | cancel cancellable _ ih => exact .cancel cancellable ih

/-- The acts are all that happens at the site of the post. -/
theorem joins (driven : Driven number program before acts left after) (freedom : Freedom)
    (there : number < before.posts.length) :
    freedom.Joins (before.site number) acts (after.site number) := by
  induction driven with
  | rest program alike =>
    rw [alike.site]
    exact .rest _
  | @reply _ request _ _ _ _ faced _ alike _ _ ih =>
    have there : number < faced.posts.length := by rwa [alike.posts]
    have joins := ih (by rwa [Timeline.length_perform])
    rw [faced.site_perform there] at joins
    rw [← alike.site number]
    exact .act ⟨faced.site number, request⟩ joins
  | expire _ _ _ ih | cancel _ _ ih => exact ih there

/-- If the watch is cancelled, the program gives way wherever it can. -/
theorem unwinds (driven : Driven number program before acts left after)
    (told : before.isCancelled number = true) :
    program.unwound.Course acts left.unwound ∧ ∀ act ∈ acts, act.site.desk.cancelled = true := by
  induction driven with
  | rest => exact ⟨.rest _, by simp⟩
  | @reply _ request _ _ _ _ faced _ alike carried _ ih =>
    have told' : faced.isCancelled number = true := by rwa [alike.isCancelled]
    obtain ⟨course, marked⟩ := ih (Timeline.isCancelled_perform request told')
    rw [Program.unwound_ask_of_not fun cancellable => carried ⟨cancellable, told⟩]
    exact ⟨.reply (faced.site number) course, List.forall_mem_cons.2 ⟨told', marked⟩⟩
  | expire timed carried _ ih =>
    rw [Program.unwound_ask_of_not fun cancellable => carried ⟨cancellable, told⟩]
    exact (ih told).imp_left (.expire timed)
  | cancel cancellable _ ih =>
    rw [Program.unwound_ask_of_cancellable cancellable]
    exact ih told

end Driven

namespace Timeline

variable {α : Type} (strand : Strand) (number : Nat) (deadline : Option Nat)

/-- A program that is driven gets through its acts. -/
theorem acts_driven (program : Program α) (progress : Progress) (timeline : Timeline) :
    Driven number program timeline (acts strand number deadline program progress timeline)
      (drive strand number deadline program progress timeline).1.program
      (drive strand number deadline program progress timeline).2 := by
  induction program generalizing progress timeline with
  | done value => exact .rest _ (.refl _)
  | ask guard request next ih =>
    rw [drive, acts]
    by_cases cancelled : guard.cancellable = true ∧ timeline.isCancelled number = true
    · simp only [dif_pos cancelled, dif_pos cancelled.symm]
      exact .cancel cancelled.1 ((ih _ _ _).of_alike (timeline.alike_leave strand number))
    simp only [dif_neg cancelled, dif_neg (mt And.symm cancelled)]
    have alike := timeline.alike_proceed strand number request progress
    generalize timeline.proceed strand number request progress = proceeded at alike ⊢
    obtain ⟨faced, waiting⟩ := proceeded
    cases waiting with
    | none => exact .reply alike cancelled ((ih _ _ _).of_alike (alike_leave _ strand number))
    | some waiting =>
      by_cases expired : guard.timed = true ∧ faced.hasCome deadline = true
      · simp only [dif_pos expired, dif_pos expired.symm]
        exact .expire expired.1 cancelled
          ((ih _ _ _).of_alike (alike.trans (faced.alike_leave strand number)))
      · simp only [dif_neg expired, dif_neg (mt And.symm expired)]
        exact .rest _ alike

/-- A program that was driven is done, or it waits for a request that takes time. -/
theorem drive_parked (program : Program α) (progress : Progress) (timeline : Timeline)
    (fits : program.Parked ∨ progress = program.progress) :
    (drive strand number deadline program progress timeline).1.program.Parked ∨ ∃ value,
      (drive strand number deadline program progress timeline).1.program = .done value := by
  induction program generalizing progress timeline with
  | done value => exact .inr ⟨value, rfl⟩
  | ask guard request next ih =>
    have slow : ∀ {faced waiting},
        timeline.proceed strand number request progress = (faced, some waiting) →
        (Program.ask guard request next).Parked := by
      intro faced waiting proceeded prompt
      rcases fits with parked | rfl
      · exact parked prompt
      · simp [Program.progress, proceed, face, prompt] at proceeded
    rw [drive]
    split
    · exact ih _ _ _ (.inr rfl)
    split
    · exact ih _ _ _ (.inr rfl)
    · rename_i faced waiting proceeded
      split
      · exact ih _ _ _ (.inr rfl)
      · exact .inl (slow proceeded)

end Timeline

/-- Work that is taken up on a timeline: what becomes of both, and the requests that it makes. -/
structure Worker (σ : Type) where
  resume : Timeline → σ → σ × Timeline
  acts : Timeline → σ → List Act

namespace Worker

variable {σ : Type} (worker : Worker σ)

/-- The work after it was taken up on timelines one after the other. -/
def after : σ → List Timeline → σ
  | work, [] => work
  | work, timeline :: timelines => after (worker.resume timeline work).1 timelines

/-- The requests that the work makes meanwhile. -/
def along : σ → List Timeline → List Act
  | _, [] => []
  | work, timeline :: timelines =>
    worker.acts timeline work ++ along (worker.resume timeline work).1 timelines

/-- What every turn keeps is kept along all of them. -/
theorem keeps {I : List Act → σ → Prop}
    (turn : ∀ past work timeline, I past work →
      I (past ++ worker.acts timeline work) (worker.resume timeline work).1)
    {past : List Act} {work : σ} (start : I past work) (timelines : List Timeline) :
    I (past ++ worker.along work timelines) (worker.after work timelines) := by
  induction timelines generalizing past work with
  | nil => simpa [along, after] using start
  | cons timeline timelines ih => simpa [along, after] using ih (turn past work timeline start)

/-- Work that stays as it is and makes no request never makes any. -/
theorem along_idle {work : σ} (stays : ∀ timeline, (worker.resume timeline work).1 = work)
    (quiet : ∀ timeline, worker.acts timeline work = []) (timelines : List Timeline) :
    worker.along work timelines = [] := by
  induction timelines with
  | nil => rfl
  | cons timeline timelines ih => rw [along, quiet, stays, ih, List.append_nil]

end Worker

/-- The run of a program that is just begun, as `Timeline.launch` takes it up first. -/
def Program.begun {α : Type} (program : Program α) (post : Nat) (deadline : Option Nat) : Run α :=
  ⟨post, deadline, program, program.progress⟩

namespace Run

variable {α : Type}

/-- The requests that a run makes when it is taken up. -/
def acts (strand : Strand) (timeline : Timeline) (run : Run α) : List Act :=
  timeline.acts strand run.post run.deadline run.program run.progress

theorem driven (strand : Strand) (timeline : Timeline) (run : Run α) :
    Driven run.post run.program timeline (run.acts strand timeline)
      (timeline.resume strand run).1.program (timeline.resume strand run).2 :=
  timeline.acts_driven strand run.post run.deadline run.program run.progress

/-- A strand that works at a run. -/
def worker (strand : Strand) : Worker (Run α) where
  resume timeline run := timeline.resume strand run
  acts timeline run := run.acts strand timeline

/-- The last of some acts are a course of the program up to where the run has got. -/
structure Underway (program : Program α) (post : Nat) (past : List Act) (run : Run α) : Prop where
  post : run.post = post
  course : ∃ earlier own, past = earlier ++ own ∧ program.Course own run.program
  halted : run.program.Parked ∨ ∃ value, run.program = .done value

variable {program : Program α} {post : Nat} {past : List Act} {run : Run α}

theorem underway_begun (parked : program.Parked) (post : Nat) (deadline : Option Nat)
    (past : List Act) : Underway program post past (program.begun post deadline) :=
  ⟨rfl, ⟨past, [], by simp, .rest _⟩, .inl parked⟩

theorem Underway.turn (underway : Underway program post past run) (strand : Strand)
    (timeline : Timeline) :
    Underway program post (past ++ run.acts strand timeline) (timeline.resume strand run).1 where
  post := (Timeline.drive_post _ _ _ _ _ _).trans underway.post
  course := by
    obtain ⟨earlier, own, rfl, course⟩ := underway.course
    exact ⟨earlier, own ++ run.acts strand timeline, by simp,
      course.trans (run.driven strand timeline).course⟩
  halted := by
    rcases underway.halted with parked | ⟨value, done⟩
    · exact Timeline.drive_parked strand run.post run.deadline run.program _ timeline (.inl parked)
    · rw [Timeline.resume, done]
      exact .inr ⟨value, rfl⟩

/-- Once its watch is cancelled, a run gives way wherever it can. -/
theorem along_unwinds (strand : Strand) (run : Run α) {timelines : List Timeline}
    (cancelled : ∀ timeline ∈ timelines, timeline.isCancelled run.post = true) :
    (∃ left, run.program.unwound.Course ((worker strand).along run timelines) left) ∧
      ∀ act ∈ (worker strand).along run timelines, act.site.desk.cancelled = true := by
  induction timelines generalizing run with
  | nil => exact ⟨⟨_, .rest _⟩, by simp [Worker.along]⟩
  | cons timeline timelines ih =>
    obtain ⟨here, later⟩ := List.forall_mem_cons.1 cancelled
    have post : (timeline.resume strand run).1.post = run.post :=
      Timeline.drive_post _ _ _ _ _ _
    obtain ⟨course, told⟩ := (run.driven strand timeline).unwinds here
    obtain ⟨⟨left, onward⟩, after⟩ := ih (timeline.resume strand run).1 (by rwa [post])
    refine ⟨⟨left, course.trans onward⟩, fun act mem => ?_⟩
    rcases List.mem_append.1 mem with mem | mem
    · exact told act mem
    · exact after act mem

theorem along_done {value : α} (strand : Strand) (done : run.program = .done value)
    (timelines : List Timeline) : (worker strand).along run timelines = [] := by
  obtain ⟨post, deadline, program, progress⟩ := run
  subst done
  exact Worker.along_idle _ (fun _ => rfl) (fun _ => rfl) timelines

/-- A run is told to stop while it waits, if it is not done. -/
theorem Underway.stops (underway : Underway program post past run) (strand : Strand)
    {timelines : List Timeline}
    (cancelled : ∀ timeline ∈ timelines, timeline.isCancelled post = true) :
    (worker strand).along run timelines = [] ∨ ∃ earlier own left, past = earlier ++ own ∧
      program.Stops own ((worker strand).along run timelines) left := by
  rw [← underway.post] at cancelled
  obtain ⟨⟨left, unwinding⟩, told⟩ := along_unwinds strand run cancelled
  rcases underway.halted with parked | ⟨value, done⟩
  · obtain ⟨earlier, own, parts, course⟩ := underway.course
    exact .inr ⟨earlier, own, left, parts, ⟨_, course, parked, unwinding⟩, told⟩
  · rw [done] at unwinding
    exact .inl (Program.course_done_iff.1 unwinding).1

end Run

namespace Task

/-- The requests of a cycle that is begun at a tick. -/
def tickActs {α : Type} (strand : Strand) (timeline : Timeline) (post : Nat) (ticker : Ticker)
    (begun : Run α) : List Act :=
  if timeline.isCancelled post = true then []
  else if timeline.now < ticker.due then []
  else begun.acts strand timeline

/-- The requests that looking after the oldest error of a post takes. -/
def attendActs (post : Nat) (timeline : Timeline) : List Act :=
  match (timeline.post post).inbox.take? with
  | none => []
  | some (error, _) =>
    if error.isTransport then [⟨timeline.site post, .resetConnections⟩] else []

/-- The requests that a task makes when it goes on, as `resume` has it go on. -/
def acts (strand : Strand) (timeline : Timeline) : Task → List Act
  | collecting _ _ _ (some cycle) => cycle.acts strand timeline
  | sweeping _ _ _ (some cycle) => cycle.acts strand timeline
  | collecting watch post ticker none =>
    tickActs strand timeline post ticker
      ((Cycle.collect watch.profile).run.begun post (some (timeline.now + watch.cycleTimeout)))
  | sweeping watch post ticker none =>
    tickActs strand timeline post ticker
      ((Cycle.sweep watch.profile).run.begun post (some (timeline.now + watch.cycleTimeout)))
  | attending post => if timeline.isCancelled post then [] else attendActs post timeline
  | cancelling _ _ | finished => []

/-- A strand that works at a task. -/
def worker (strand : Strand) : Worker Task where
  resume timeline task := task.resume strand timeline
  acts timeline task := task.acts strand timeline

/-- The task is one of the watch, and what it is at belongs to one of its cycles. -/
inductive Minds (watch : Watch) (post : Nat) (past : List Act) : Task → Prop where
  | collecting (ticker : Ticker) {cycle : Option (Run (Except CycleError Collected))}
      (underway : ∀ run ∈ cycle, run.Underway (Cycle.collect watch.profile).run post past) :
      Minds watch post past (.collecting watch post ticker cycle)
  | sweeping (ticker : Ticker) {cycle : Option (Run (Except CycleError SweepReport))}
      (underway : ∀ run ∈ cycle, run.Underway (Cycle.sweep watch.profile).run post past) :
      Minds watch post past (.sweeping watch post ticker cycle)
  | attending : Minds watch post past (.attending post)
  | finished : Minds watch post past .finished

/-- One turn of a task that runs cycles one after the other, by the run that it is at: the
requests that it makes, and what the task and the timeline are then. -/
inductive Turn {α : Type} (watch : Watch) (post : Nat) (program : Program α)
    (task : Ticker → Option (Run α) → Task) (strand : Strand) (before : Timeline) :
    Option (Run α) → List Act → Task → Timeline → Prop where
  | stopped (cancelled : before.isCancelled post = true) :
      Turn watch post program task strand before none [] .finished before
  | waited (spared : before.isCancelled post = false) (ticker : Ticker) :
      Turn watch post program task strand before none [] (task ticker none) before
  | begun (spared : before.isCancelled post = false) {acts : List Act} {next : Task}
      {after : Timeline}
      (carried : Turn watch post program task strand before
        (some (program.begun post (some (before.now + watch.cycleTimeout)))) acts next after) :
      Turn watch post program task strand before none acts next after
  | carried {run : Run α} (own : run.post = post) (ticker : Ticker) {after : Timeline}
      (alike : (before.resume strand run).2.Alike after) :
      Turn watch post program task strand before (some run) (run.acts strand before)
        (task ticker (if (before.resume strand run).1.result?.isNone then
          some (before.resume strand run).1 else none)) after

/-- Tasks of one kind run the cycles of a program one after the other. -/
def Cycles {α : Type} (watch : Watch) (post : Nat) (program : Program α)
    (task : Ticker → Option (Run α) → Task) (strand : Strand) : Prop :=
  ∀ timeline ticker cycle, (∀ run ∈ cycle, run.post = post) →
    Turn watch post program task strand timeline cycle ((task ticker cycle).acts strand timeline)
      ((task ticker cycle).resume strand timeline).1
      ((task ticker cycle).resume strand timeline).2

variable {watch : Watch} {post : Nat} {past : List Act}

theorem collected_fst (watch : Watch) (ticker : Ticker) (run : Run (Except CycleError Collected))
    (timeline : Timeline) :
    (collected watch ticker (run, timeline)).1 =
      collecting watch run.post ticker (if run.result?.isNone then some run else none) := by
  unfold collected
  cases ended : run.result? with
  | none => simp [ended]
  | some result => cases result <;> simp [ended]

theorem collected_alike (watch : Watch) (ticker : Ticker)
    (run : Run (Except CycleError Collected)) (timeline : Timeline) :
    timeline.Alike (collected watch ticker (run, timeline)).2 := by
  unfold collected
  simp only
  split
  · exact .refl _
  · exact .refl _
  · exact timeline.alike_alter _ _ fun _ => rfl

theorem swept_fst (watch : Watch) (ticker : Ticker) (run : Run (Except CycleError SweepReport))
    (timeline : Timeline) :
    (swept watch ticker (run, timeline)).1 =
      sweeping watch run.post ticker (if run.result?.isNone then some run else none) := by
  unfold swept
  cases ended : run.result? <;> simp [ended]

theorem swept_snd (watch : Watch) (ticker : Ticker) (run : Run (Except CycleError SweepReport))
    (timeline : Timeline) : (swept watch ticker (run, timeline)).2 = timeline := by
  unfold swept
  cases ended : run.result? <;> simp [ended]

/-- A task that is at no cycle begins one when its ticker is due. -/
theorem Turn.of_tick {α : Type} {program : Program α} {task : Ticker → Option (Run α) → Task}
    {strand : Strand} {timeline : Timeline} {go : Ticker → Run α → Task × Timeline}
    (carried : ∀ ticker run, run.post = post →
      Turn watch post program task strand timeline (some run) (run.acts strand timeline)
        (go ticker run).1 (go ticker run).2)
    (ticker : Ticker) {run : Run α}
    (begun : run = program.begun post (some (timeline.now + watch.cycleTimeout)))
    {resumed : Task × Timeline}
    (same : resumed = if timeline.isCancelled post then (finished, timeline)
      else if timeline.now < ticker.due then (task ticker none, timeline)
      else go (ticker.tick timeline.now) run) :
    Turn watch post program task strand timeline none (tickActs strand timeline post ticker run)
      resumed.1 resumed.2 := by
  subst begun same
  rw [tickActs]
  split
  · rename_i cancelled
    exact .stopped cancelled
  rename_i spared
  rw [Bool.not_eq_true] at spared
  split
  · exact .waited spared ticker
  · exact .begun spared (carried _ _ rfl)

theorem collecting_cycles (watch : Watch) (post : Nat) (strand : Strand) :
    Cycles watch post (Cycle.collect watch.profile).run (collecting watch post) strand := by
  intro timeline ticker cycle own
  have carried : ∀ ticker (run : Run (Except CycleError Collected)), run.post = post →
      Turn watch post (Cycle.collect watch.profile).run (collecting watch post) strand timeline
        (some run) (run.acts strand timeline)
        (collected watch ticker (timeline.resume strand run)).1
        (collected watch ticker (timeline.resume strand run)).2 := by
    intro ticker run own
    have same : (timeline.resume strand run).1.post = post :=
      (Timeline.drive_post _ _ _ _ _ _).trans own
    rw [collected_fst, same]
    exact .carried own ticker (collected_alike watch ticker _ _)
  cases cycle with
  | some run => exact carried ticker run (own run rfl)
  | none => exact .of_tick carried ticker rfl rfl

theorem sweeping_cycles (watch : Watch) (post : Nat) (strand : Strand) :
    Cycles watch post (Cycle.sweep watch.profile).run (sweeping watch post) strand := by
  intro timeline ticker cycle own
  have carried : ∀ ticker (run : Run (Except CycleError SweepReport)), run.post = post →
      Turn watch post (Cycle.sweep watch.profile).run (sweeping watch post) strand timeline
        (some run) (run.acts strand timeline)
        (swept watch ticker (timeline.resume strand run)).1
        (swept watch ticker (timeline.resume strand run)).2 := by
    intro ticker run own
    have same : (timeline.resume strand run).1.post = post :=
      (Timeline.drive_post _ _ _ _ _ _).trans own
    rw [swept_fst, swept_snd, same]
    exact .carried own ticker (.refl _)
  cases cycle with
  | some run => exact carried ticker run (own run rfl)
  | none => exact .of_tick carried ticker rfl rfl

theorem along_finished (strand : Strand) (timelines : List Timeline) :
    (worker strand).along finished timelines = [] :=
  Worker.along_idle _ (fun _ => rfl) (fun _ => rfl) timelines

namespace Turn

variable {α : Type} {program : Program α} {task : Ticker → Option (Run α) → Task}
  {strand : Strand} {before after : Timeline} {cycle : Option (Run α)} {acts : List Act}
  {next : Task}

/-- After a turn a task is at a cycle of its program still. -/
theorem minds (turn : Turn watch post program task strand before cycle acts next after)
    (parked : program.Parked)
    (minding : ∀ ticker cycle, (∀ run ∈ cycle, run.Underway program post (past ++ acts)) →
      (task ticker cycle).Minds watch post (past ++ acts))
    (underway : ∀ run ∈ cycle, run.Underway program post past) :
    next.Minds watch post (past ++ acts) := by
  induction turn with
  | stopped => exact .finished
  | waited spared ticker => exact minding ticker none (by simp)
  | begun spared carried ih =>
    refine ih minding fun run same => ?_
    rw [← Option.mem_some.1 same]
    exact Run.underway_begun parked post _ past
  | @carried run own ticker =>
    refine minding ticker _ fun other mem => ?_
    split at mem
    · rw [← Option.mem_some.1 mem]
      exact (underway run rfl).turn strand before
    · cases mem

theorem halts (turn : Turn watch post program task strand before none acts next after)
    (cancelled : before.isCancelled post = true) : acts = [] ∧ next = .finished := by
  cases turn with
  | stopped => exact ⟨rfl, rfl⟩
  | waited spared | begun spared =>
    rw [cancelled] at spared
    cases spared

theorem onward {run : Run α}
    (turn : Turn watch post program task strand before (some run) acts next after) :
    acts = run.acts strand before ∧ ∃ ticker, next = task ticker
      (if (before.resume strand run).1.result?.isNone then some (before.resume strand run).1
      else none) := by
  cases turn with
  | carried own ticker => exact ⟨rfl, ticker, rfl⟩

/-- The requests are all that happens at the site of the post. -/
theorem joins (turn : Turn watch post program task strand before cycle acts next after)
    (freedom : Freedom) (there : post < before.posts.length) :
    freedom.Joins (before.site post) acts (after.site post) := by
  induction turn with
  | stopped | waited => exact .rest _
  | begun spared carried ih => exact ih
  | @carried run own ticker after alike =>
    obtain rfl := own
    rw [alike.site]
    exact (run.driven strand before).joins freedom there

end Turn

namespace Cycles

variable {α : Type} {program : Program α} {task : Ticker → Option (Run α) → Task}
  {strand : Strand}

/-- A task that runs one cycle after the other does the acts of the one that is under way and then
no more, once its watch is cancelled. -/
theorem along (cycles : Cycles watch post program task strand) {timelines : List Timeline}
    (cancelled : ∀ timeline ∈ timelines, timeline.isCancelled post = true) (ticker : Ticker) :
    (worker strand).along (task ticker none) timelines = [] ∧ ∀ run, run.post = post →
      (worker strand).along (task ticker (some run)) timelines =
        (Run.worker strand).along run timelines := by
  induction timelines generalizing ticker with
  | nil => exact ⟨rfl, fun _ _ => rfl⟩
  | cons timeline timelines ih =>
    obtain ⟨here, later⟩ := List.forall_mem_cons.1 cancelled
    constructor
    · obtain ⟨quiet, ends⟩ := (cycles timeline ticker none (by simp)).halts here
      show (task ticker none).acts strand timeline ++
        (worker strand).along ((task ticker none).resume strand timeline).1 timelines = []
      rw [quiet, ends, along_finished, List.append_nil]
    · intro run own
      obtain ⟨acts, ticked, next⟩ := (cycles timeline ticker (some run) (by simp [own])).onward
      have post : (timeline.resume strand run).1.post = post :=
        (Timeline.drive_post _ _ _ _ _ _).trans own
      obtain ⟨resting, onward⟩ := ih later ticked
      show (task ticker (some run)).acts strand timeline ++
          (worker strand).along ((task ticker (some run)).resume strand timeline).1 timelines =
        run.acts strand timeline ++
          (Run.worker strand).along (timeline.resume strand run).1 timelines
      rw [acts, next]
      congr 1
      cases program : (timeline.resume strand run).1.program with
      | ask guard request rest => simpa [Run.result?, program] using onward _ post
      | done value =>
        simpa [Run.result?, program, resting] using (Run.along_done strand program timelines).symm

/-- Then it gets through what is left of that cycle unwound. -/
theorem stops (cycles : Cycles watch post program task strand) {cycle : Option (Run α)}
    (underway : ∀ run ∈ cycle, run.Underway program post past) {timelines : List Timeline}
    (cancelled : ∀ timeline ∈ timelines, timeline.isCancelled post = true) (ticker : Ticker) :
    (worker strand).along (task ticker cycle) timelines = [] ∨
      ∃ earlier own left, past = earlier ++ own ∧
        program.Stops own ((worker strand).along (task ticker cycle) timelines) left := by
  obtain ⟨resting, working⟩ := along cycles cancelled ticker
  cases cycle with
  | none => exact .inl resting
  | some run =>
    rw [working run (underway run rfl).post]
    exact (underway run rfl).stops strand cancelled

end Cycles

theorem Minds.turn {task : Task} (minds : task.Minds watch post past) (strand : Strand)
    (timeline : Timeline) :
    (task.resume strand timeline).1.Minds watch post (past ++ task.acts strand timeline) := by
  cases minds with
  | collecting ticker underway =>
    have turn := collecting_cycles watch post strand timeline ticker _ fun run mem =>
      (underway run mem).post
    exact turn.minds (Cycle.collect_parked _) (fun ticker _ => .collecting ticker) underway
  | sweeping ticker underway =>
    have turn := sweeping_cycles watch post strand timeline ticker _ fun run mem =>
      (underway run mem).post
    exact turn.minds (Cycle.sweep_parked _) (fun ticker _ => .sweeping ticker) underway
  | attending =>
    rw [resume]
    split
    · exact .finished
    · exact .attending
  | finished => exact .finished

/-- A task whose watch is cancelled does no more than the cycle that it is at. -/
theorem Minds.stops {task : Task} (minds : task.Minds watch post past) (strand : Strand)
    {timelines : List Timeline}
    (cancelled : ∀ timeline ∈ timelines, timeline.isCancelled post = true) :
    (worker strand).along task timelines = [] ∨
      (∃ earlier own left, past = earlier ++ own ∧ (Cycle.collect watch.profile).run.Stops own
        ((worker strand).along task timelines) left) ∨
      ∃ earlier own left, past = earlier ++ own ∧ (Cycle.sweep watch.profile).run.Stops own
        ((worker strand).along task timelines) left := by
  cases minds with
  | collecting ticker underway =>
    exact ((collecting_cycles watch post strand).stops underway cancelled ticker).imp_right .inl
  | sweeping ticker underway =>
    exact ((sweeping_cycles watch post strand).stops underway cancelled ticker).imp_right .inr
  | attending =>
    refine .inl ?_
    cases timelines with
    | nil => rfl
    | cons timeline timelines =>
      have here := cancelled timeline List.mem_cons_self
      show (Task.attending post).acts strand timeline ++
        (worker strand).along ((Task.attending post).resume strand timeline).1 timelines = []
      rw [acts, resume, if_pos here, if_pos here, along_finished, List.append_nil]
  | finished => exact .inl (along_finished strand timelines)

theorem attend_joins (freedom : Freedom) {timeline : Timeline}
    (there : post < timeline.posts.length) :
    freedom.Joins (timeline.site post) (attendActs post timeline)
      ((attend post timeline).site post) := by
  unfold attend attendActs
  cases taken : (timeline.post post).inbox.take? with
  | none => exact .rest _
  | some found =>
    obtain ⟨error, inbox⟩ := found
    have alike := timeline.alike_alter post (fun p => { p with inbox }) fun _ => rfl
    simp only
    rw [← alike.site]
    split
    · rw [Timeline.site_perform _ (by rwa [alike.posts])]
      exact .act ⟨_, .resetConnections⟩ (.rest _)
    · exact .rest _

/-- A task does its acts and nothing else. -/
theorem Minds.acts_joins {task : Task} (minds : task.Minds watch post past) (freedom : Freedom)
    (strand : Strand) {timeline : Timeline} (there : post < timeline.posts.length) :
    freedom.Joins (timeline.site post) (task.acts strand timeline)
      ((task.resume strand timeline).2.site post) := by
  cases minds with
  | collecting ticker underway =>
    have turn := collecting_cycles watch post strand timeline ticker _ fun run mem =>
      (underway run mem).post
    exact turn.joins freedom there
  | sweeping ticker underway =>
    have turn := sweeping_cycles watch post strand timeline ticker _ fun run mem =>
      (underway run mem).post
    exact turn.joins freedom there
  | attending =>
    rw [resume, acts]
    split
    · exact .rest _
    · exact attend_joins freedom there
  | finished => exact .rest _

end Task

end ChannelWatch
