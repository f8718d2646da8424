import ChannelWatch.Proofs.Strand

/-!
# Turns of tasks

What a task comes to in a turn, and what the turn leaves as it is: no time passes, and only a
collect cycle that ends with an error and the task that looks after the errors change what waits
at a post (`Timeline.Undisturbed`). For the tasks that run cycles `Task.CycleTurn` says once what a
turn can be.
-/

namespace ChannelWatch
set_option autoImplicit false

namespace Timeline

/-- The errors that wait at the posts. -/
def inboxes (timeline : Timeline) : List ErrorInbox := timeline.posts.map Post.inbox

theorem inbox_post (timeline : Timeline) (number : Nat) :
    (timeline.post number).inbox = timeline.inboxes.getD number .empty := by
  simp only [post, inboxes, List.getD_eq_getElem?_getD, List.getElem?_map]
  cases timeline.posts[number]? <;> rfl

/-- Where an error waits there is a post. -/
theorem inbox_of_waiting {timeline : Timeline} {number : Nat}
    (waits : (timeline.post number).inbox.waiting ≠ []) :
    timeline.inboxes[number]? = some (timeline.post number).inbox := by
  rw [inbox_post, List.getD_eq_getElem?_getD] at waits ⊢
  cases found : timeline.inboxes[number]? with
  | none =>
    rw [found] at waits
    exact absurd rfl waits
  | some inbox => rfl

theorem inboxes_alter (timeline : Timeline) (number : Nat) {change : Post → Post}
    (replace : ErrorInbox → ErrorInbox)
    (same : ∀ post, (change post).inbox = replace post.inbox) :
    (timeline.alter number change).inboxes = timeline.inboxes.modify number replace := by
  refine List.ext_getElem? fun other => ?_
  simp only [inboxes, alter, List.getElem?_map, List.getElem?_modify]
  cases timeline.posts[other]? with
  | none => rfl
  | some post =>
    by_cases here : number = other
    · simp [here, same]
    · simp [here]

theorem inboxes_alter_of_same (timeline : Timeline) (number : Nat) {change : Post → Post}
    (same : ∀ post, (change post).inbox = post.inbox) :
    (timeline.alter number change).inboxes = timeline.inboxes :=
  (timeline.inboxes_alter number id same).trans (List.modify_id _ _)

/-- Between two timelines neither time passes nor is anything done about errors. -/
structure Undisturbed (before after : Timeline) : Prop where
  now : after.now = before.now
  inboxes : after.inboxes = before.inboxes

theorem Undisturbed.refl (timeline : Timeline) : timeline.Undisturbed timeline := ⟨rfl, rfl⟩

theorem Undisturbed.trans {first middle last : Timeline} (start : first.Undisturbed middle)
    (rest : middle.Undisturbed last) : first.Undisturbed last :=
  ⟨rest.now.trans start.now, rest.inboxes.trans start.inboxes⟩

theorem Undisturbed.inbox {before after : Timeline} (same : before.Undisturbed after)
    (number : Nat) : (after.post number).inbox = (before.post number).inbox := by
  rw [inbox_post, inbox_post, same.inboxes]

theorem Undisturbed.posts {before after : Timeline} (same : before.Undisturbed after) :
    after.posts.length = before.posts.length := by
  simpa only [Timeline.inboxes, List.length_map] using congrArg List.length same.inboxes

theorem undisturbed_alter (timeline : Timeline) (number : Nat) (change : Post → Post)
    (same : ∀ post, (change post).inbox = post.inbox) :
    timeline.Undisturbed (timeline.alter number change) :=
  ⟨rfl, timeline.inboxes_alter_of_same number same⟩

theorem undisturbed_cancel (timeline : Timeline) (number : Nat) :
    timeline.Undisturbed (timeline.cancel number) :=
  timeline.undisturbed_alter number _ fun _ => rfl

theorem undisturbed_leave (timeline : Timeline) (strand : Strand) (number : Nat) :
    timeline.Undisturbed (timeline.leave strand number) :=
  ⟨rfl, inboxes_alter_of_same { timeline with line := timeline.line.leave strand } number
    fun _ => rfl⟩

theorem undisturbed_perform (timeline : Timeline) (number : Nat) (request : Request) :
    timeline.Undisturbed (timeline.perform number request).2 := by
  rw [perform_eq]
  exact ⟨rfl, inboxes_alter_of_same { timeline with world := _ } number fun _ => rfl⟩

theorem undisturbed_face (strand : Strand) (number : Nat) (request : Request)
    (hurdles : List Hurdle) (timeline : Timeline) :
    timeline.Undisturbed (timeline.face strand number request hurdles).1 := by
  induction hurdles generalizing timeline with
  | nil => exact .refl _
  | cons hurdle hurdles ih =>
    cases hurdle with
    | checkpointLine =>
      have joined := timeline.undisturbed_alter number
        (fun post => { post with line := post.line.join strand }) fun _ => rfl
      unfold face
      simp only
      split
      · exact joined
      split
      · exact joined
      · exact joined.trans (ih _)
    | storeLine =>
      have joined : timeline.Undisturbed { timeline with line := timeline.line.join strand } :=
        ⟨rfl, rfl⟩
      unfold face
      simp only
      split
      · exact joined
      · exact joined.trans (ih _)
    | time partner =>
      unfold face
      simp only
      split
      · exact ih _
      · exact .refl _

theorem undisturbed_proceed (timeline : Timeline) (strand : Strand) (number : Nat)
    (request : Request) (progress : Progress) :
    timeline.Undisturbed (timeline.proceed strand number request progress).1 := by
  unfold proceed
  split
  · exact .refl _
  · exact undisturbed_face _ _ _ _ _

/-- A program that is driven takes no time and does nothing about errors. -/
theorem undisturbed_drive {α : Type} (strand : Strand) (number : Nat) (deadline : Option Nat)
    (program : Program α) (progress : Progress) (timeline : Timeline) :
    timeline.Undisturbed (drive strand number deadline program progress timeline).2 := by
  induction program generalizing progress timeline with
  | done value => exact .refl _
  | ask guard request next ih =>
    rw [drive]
    split
    · exact (timeline.undisturbed_leave strand number).trans (ih _ _ _)
    · have faces := timeline.undisturbed_proceed strand number request progress
      generalize timeline.proceed strand number request progress = proceeded at faces ⊢
      obtain ⟨faced, waiting⟩ := proceeded
      cases waiting with
      | none =>
        exact faces.trans ((faced.undisturbed_perform number request).trans
          ((undisturbed_leave _ strand number).trans (ih _ _ _)))
      | some progress =>
        simp only
        split
        · exact faces.trans ((faced.undisturbed_leave strand number).trans (ih _ _ _))
        · exact faces

end Timeline

namespace Task

/-- The ticker of the task, if it has one, ticks once in a while. -/
def Paced : Task → Prop
  | collecting _ _ ticker _ => 0 < ticker.period
  | sweeping _ _ ticker _ => 0 < ticker.period
  | attending _ | cancelling _ _ | finished => True

/-- The run that a task which runs cycles takes up in its turn, with its ticker from then on: the
one that it is at, or a new one when its ticker is due. -/
inductive TakesUp {α : Type} (watch : Watch) (post : Nat) (program : Program α)
    (timeline : Timeline) (ticker : Ticker) : Option (Run α) → Ticker → Run α → Prop where
  | again (run : Run α) : TakesUp watch post program timeline ticker (some run) ticker run
  | anew (due : ticker.due ≤ timeline.now) :
      TakesUp watch post program timeline ticker none (ticker.tick timeline.now)
        (program.begun post (some (timeline.now + watch.cycleTimeout)))

/-- A turn of a task that runs the cycles of a program; `go` is what becomes of the task when its
cycle has got so far. -/
inductive CycleTurn {α : Type} (watch : Watch) (post : Nat) (program : Program α)
    (task : Ticker → Option (Run α) → Task) (go : Ticker → Run α × Timeline → Task × Timeline)
    (strand : Strand) (timeline : Timeline) (ticker : Ticker) :
    Option (Run α) → Task × Timeline → Prop where
  | stopped (cancelled : timeline.isCancelled post = true) :
      CycleTurn watch post program task go strand timeline ticker none (finished, timeline)
  | waited (spared : timeline.isCancelled post = false) (early : timeline.now < ticker.due) :
      CycleTurn watch post program task go strand timeline ticker none (task ticker none, timeline)
  | took {cycle : Option (Run α)} {next : Ticker} {run : Run α}
      (takes : TakesUp watch post program timeline ticker cycle next run) :
      CycleTurn watch post program task go strand timeline ticker cycle
        (go next (timeline.resume strand run))

/-- A task that is at no cycle begins one when its ticker is due. -/
theorem CycleTurn.of_idle {α : Type} {watch : Watch} {post : Nat} {program : Program α}
    {task : Ticker → Option (Run α) → Task} {go : Ticker → Run α × Timeline → Task × Timeline}
    {strand : Strand} {timeline : Timeline} {ticker : Ticker} {turned : Task × Timeline}
    (same : turned = if timeline.isCancelled post then (finished, timeline)
      else if timeline.now < ticker.due then (task ticker none, timeline)
      else go (ticker.tick timeline.now) (timeline.resume strand
        (program.begun post (some (timeline.now + watch.cycleTimeout))))) :
    CycleTurn watch post program task go strand timeline ticker none turned := by
  subst same
  split
  · rename_i cancelled
    exact .stopped cancelled
  rename_i spared
  split
  · rename_i early
    exact .waited (by simpa using spared) early
  · rename_i due
    exact .took (.anew (Nat.not_lt.1 due))

theorem resume_collecting (watch : Watch) (post : Nat) (strand : Strand) (timeline : Timeline)
    (ticker : Ticker) (cycle : Option (Run (Except CycleError Collected))) :
    CycleTurn watch post (Cycle.collect watch.profile).run (collecting watch post)
      (collected watch) strand timeline ticker cycle
      ((collecting watch post ticker cycle).resume strand timeline) := by
  cases cycle with
  | some run => exact .took (.again run)
  | none => exact .of_idle rfl

theorem resume_sweeping (watch : Watch) (post : Nat) (strand : Strand) (timeline : Timeline)
    (ticker : Ticker) (cycle : Option (Run (Except CycleError SweepReport))) :
    CycleTurn watch post (Cycle.sweep watch.profile).run (sweeping watch post) (swept watch)
      strand timeline ticker cycle
      ((sweeping watch post ticker cycle).resume strand timeline) := by
  cases cycle with
  | some run => exact .took (.again run)
  | none => exact .of_idle rfl

theorem collected_snd (watch : Watch) (ticker : Ticker) (run : Run (Except CycleError Collected))
    (timeline : Timeline) :
    (collected watch ticker (run, timeline)).2 =
      match run.result? with
      | some (.error e) => timeline.report run.post watch.errorCapacity e
      | _ => timeline := by
  unfold collected
  cases ended : run.result? with
  | none => simp [ended]
  | some result => cases result <;> simp [ended]

theorem now_collected (watch : Watch) (ticker : Ticker) (run : Run (Except CycleError Collected))
    (timeline : Timeline) : (collected watch ticker (run, timeline)).2.now = timeline.now := by
  rw [collected_snd]
  split <;> rfl

/-- Nothing is done where no error waits. -/
theorem attend_of_empty {post : Nat} {timeline : Timeline}
    (empty : (timeline.post post).inbox.waiting = []) : attend post timeline = timeline := by
  simp [attend, ErrorInbox.take?, empty]

/-- The oldest error is taken out. -/
theorem attend_undisturbed {post : Nat} {timeline : Timeline} {error : CycleError}
    {waiting : List CycleError} (oldest : (timeline.post post).inbox.waiting = error :: waiting) :
    (timeline.alter post fun p => { p with inbox := ⟨waiting⟩ }).Undisturbed
      (attend post timeline) := by
  simp only [attend, ErrorInbox.take?, oldest]
  split
  · exact Timeline.undisturbed_perform _ _ _
  · exact .refl _

theorem now_attend (post : Nat) (timeline : Timeline) :
    (attend post timeline).now = timeline.now := by
  cases oldest : (timeline.post post).inbox.waiting with
  | nil => rw [attend_of_empty oldest]
  | cons error waiting => exact (attend_undisturbed oldest).now

section

variable {α : Type} {watch : Watch} {post : Nat} {program : Program α}
  {task : Ticker → Option (Run α) → Task} {go : Ticker → Run α × Timeline → Task × Timeline}
  {strand : Strand} {timeline : Timeline} {ticker : Ticker} {cycle : Option (Run α)}
  {turned : Task × Timeline}

theorem CycleTurn.now
    (turn : CycleTurn watch post program task go strand timeline ticker cycle turned)
    (same : ∀ ticker cycle, (go ticker cycle).2.now = cycle.2.now) :
    turned.2.now = timeline.now := by
  cases turn with
  | stopped | waited => rfl
  | took takes => exact (same _ _).trans (Timeline.undisturbed_drive _ _ _ _ _ _).now

end

/-- A turn takes no time. -/
theorem now_resume (strand : Strand) (timeline : Timeline) (task : Task) :
    (task.resume strand timeline).2.now = timeline.now := by
  cases task with
  | collecting watch post ticker cycle =>
    exact (resume_collecting watch post strand timeline ticker cycle).now fun _ _ =>
      now_collected _ _ _ _
  | sweeping watch post ticker cycle =>
    exact (resume_sweeping watch post strand timeline ticker cycle).now fun _ _ =>
      congrArg Timeline.now (swept_snd _ _ _ _)
  | attending post =>
    rw [resume]
    split
    · rfl
    · exact now_attend post timeline
  | cancelling post due =>
    rw [resume]
    split <;> rfl
  | finished => rfl

end Task

end ChannelWatch
