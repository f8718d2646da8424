import ChannelWatch.Proofs.Incident
import ChannelWatch.Proofs.Moment

/-!
# What becomes of the errors of a watch

`Stage.Runs` is what the three tasks of a watch do in any order, with whatever else happens between
their turns, and records each of their turns; a session lives through such runs
(`Session.await_comes`). The main statement is `Stage.attends_errors`: errors are taken up in the
order in which they were noted, one is lost only while as many wait as there is room for, and the
connections are reset once for each that points at them and for nothing else.
-/

namespace ChannelWatch
set_option autoImplicit false

namespace Stage

/-- The tasks of a watch stand at a place among all tasks, and the others keep away from the errors
of its post. -/
structure Serves (watch : Watch) (post place : Nat) (stage : Stage) : Prop where
  there : post < stage.timeline.posts.length
  own : ∀ i < 3, ∃ task, stage.tasks[place + i]? = some task ∧ task.Serves watch post i
  stays : stage.tasks[place + 2]? = some .finished → stage.timeline.isCancelled post = true
  others : ∀ index task, stage.tasks[index]? = some task → index < place ∨ place + 3 ≤ index →
    task.Foreign post

/-- What may happen between two turns of the tasks at a place: time passes, runs and other tasks go
on, tasks are added, watches are built and cancelled, and the world is changed from outside. -/
inductive Meanwhile (post place : Nat) (stage : Stage) : Stage → Prop where
  | wait (moment : Nat) :
      Meanwhile post place stage { stage with timeline := stage.timeline.goOn moment }
  | run {α : Type} (strand : Strand) (run : Run α) :
      Meanwhile post place stage { stage with timeline := (stage.timeline.resume strand run).2 }
  | task {index : Nat} {task : Task} (found : stage.tasks[index]? = some task)
      (other : index < place ∨ place + 3 ≤ index) :
      Meanwhile post place stage (stage.turn index task)
  | start (tasks : List Task) (foreign : ∀ task ∈ tasks, task.Foreign post) :
      Meanwhile post place stage { stage with tasks := stage.tasks ++ tasks }
  | build (desk : Desk) :
      Meanwhile post place stage { stage with timeline := (stage.timeline.setUp desk).2 }
  | cancel (number : Nat) :
      Meanwhile post place stage { stage with timeline := stage.timeline.cancel number }
  | reshape (world : World) (resets : stage.timeline.resets ≤ world.chain.resets) :
      Meanwhile post place stage { stage with timeline := { stage.timeline with world } }

/-- The tasks of the watch whose post this is have turns, in any order, and things happen meanwhile.
Recorded are the turns of these tasks, and how often others reset the connections. -/
inductive Runs (post place : Nat) : Stage → List Entry → Nat → Stage → Prop where
  | rest (stage : Stage) : Runs post place stage [] 0 stage
  | turn {stage last : Stage} {i : Nat} {task : Task} {history : List Entry} {outer : Nat}
      (own : i < 3) (found : stage.tasks[place + i]? = some task)
      (rest : Runs post place (stage.turn (place + i) task) history outer last) :
      Runs post place stage (task.entry (place + i + 1) stage.timeline :: history) outer last
  | meanwhile {stage next last : Stage} {history : List Entry} {outer : Nat}
      (happens : Meanwhile post place stage next) (rest : Runs post place next history outer last) :
      Runs post place stage history (next.timeline.resets - stage.timeline.resets + outer) last

variable {watch : Watch} {post place outer more : Nat} {stage next first middle last : Stage}
  {history later : List Entry}

/-- Something happens meanwhile that does not reset the connections. -/
theorem Runs.spared (happens : Meanwhile post place stage next)
    (same : next.timeline.resets = stage.timeline.resets)
    (rest : Runs post place next history outer last) :
    Runs post place stage history outer last := by
  have runs := Runs.meanwhile happens rest
  rwa [same, Nat.sub_self, Nat.zero_add] at runs

theorem Meanwhile.leads (happens : Meanwhile post place stage next) :
    stage.timeline.Leads next.timeline := by
  cases happens with
  | wait moment => exact .wait moment (.rest _)
  | run strand run => exact .run strand run (.rest _)
  | task => exact .task _ _ (.rest _)
  | start => exact .rest _
  | build desk => exact .build desk (.rest _)
  | cancel number => exact .cancel number (.rest _)
  | reshape world => exact .reshape world (.rest _)

/-- What happens meanwhile leaves the errors of the post alone. -/
theorem Meanwhile.inbox (serves : stage.Serves watch post place)
    (happens : Meanwhile post place stage next) :
    (next.timeline.post post).inbox = (stage.timeline.post post).inbox := by
  cases happens with
  | wait | start | reshape => rfl
  | run strand run =>
    exact (Timeline.undisturbed_drive strand run.post run.deadline run.program run.progress
      stage.timeline).inbox post
  | task found other => exact ((serves.others _ _ found other).resume _ _).2
  | build desk =>
    simp only [Timeline.post, Timeline.setUp, List.getD_eq_getElem?_getD,
      List.getElem?_append_left serves.there]
  | cancel number => exact (stage.timeline.undisturbed_cancel number).inbox post

/-- Nothing takes a reset back. -/
theorem Meanwhile.resets (happens : Meanwhile post place stage next) :
    stage.timeline.resets ≤ next.timeline.resets := by
  cases happens with
  | wait | start | build | cancel => exact le_rfl
  | reshape world resets => exact resets
  | run strand run => exact stage.timeline.resets_le_resume strand run
  | @task index task => exact stage.timeline.resets_le_task (index + 1) task

theorem Meanwhile.posts (happens : Meanwhile post place stage next) :
    stage.timeline.posts.length ≤ next.timeline.posts.length := by
  cases happens with
  | wait | start | reshape => exact le_rfl
  | run strand run => exact (Timeline.undisturbed_drive _ _ _ _ _ _).posts.ge
  | @task index task =>
    exact (Task.resume_stirs (index + 1) stage.timeline task.keeps_anything).1.posts.ge
  | build desk => simp [Timeline.setUp]
  | cancel number => exact (stage.timeline.undisturbed_cancel number).posts.ge

/-- The tasks of the watch stand where they were. -/
theorem Meanwhile.own (serves : stage.Serves watch post place)
    (happens : Meanwhile post place stage next) {i : Nat} (own : i < 3) :
    next.tasks[place + i]? = stage.tasks[place + i]? := by
  cases happens with
  | wait | run | build | cancel | reshape => rfl
  | @task index task found other => exact List.getElem?_set_ne (by omega)
  | start tasks foreign =>
    obtain ⟨task, found, -⟩ := serves.own i own
    exact List.getElem?_append_left (List.getElem?_eq_some_iff.1 found).1

theorem Meanwhile.others (serves : stage.Serves watch post place)
    (happens : Meanwhile post place stage next) (index : Nat) (task : Task)
    (found : next.tasks[index]? = some task) (other : index < place ∨ place + 3 ≤ index) :
    task.Foreign post := by
  have others := serves.others
  cases happens with
  | wait | run | build | cancel | reshape => exact others index task found other
  | @task turned before here _ =>
    rw [turn, List.getElem?_set] at found
    split at found
    · rename_i same
      subst same
      split at found
      · rw [← Option.some.inj found]
        exact ((others _ before here other).resume _ _).1
      · cases found
    · exact others index task found other
  | start tasks foreign =>
    simp only [List.getElem?_append] at found
    split at found
    · exact others index task found other
    · exact foreign task (List.mem_of_getElem? found)

theorem Meanwhile.serves (serves : stage.Serves watch post place)
    (happens : Meanwhile post place stage next) : next.Serves watch post place where
  there := serves.there.trans_le happens.posts
  own i own := by
    rw [happens.own serves own]
    exact serves.own i own
  stays ended := by
    rw [happens.own serves (by decide)] at ended
    exact happens.leads.isCancelled (serves.stays ended)
  others := happens.others serves

/-- What a turn of a task of the watch does. -/
theorem Serves.settles (serves : stage.Serves watch post place) {i : Nat} {task : Task}
    (own : i < 3) (found : stage.tasks[place + i]? = some task) :
    task.Serves watch post i ∧
      Task.Settles watch post i (task.incident (place + i + 1) stage.timeline) stage.timeline
        (task.resume (place + i + 1) stage.timeline) := by
  obtain ⟨one, here, role⟩ := serves.own i own
  obtain rfl : one = task := Option.some.inj (here.symm.trans found)
  exact ⟨role, role.settles _ serves.there⟩

theorem Serves.turn (serves : stage.Serves watch post place) {i : Nat} {task : Task} (own : i < 3)
    (found : stage.tasks[place + i]? = some task) :
    (stage.turn (place + i) task).Serves watch post place := by
  obtain ⟨role, settles⟩ := serves.settles own found
  have there := (List.getElem?_eq_some_iff.1 found).1
  have turned : (stage.turn (place + i) task).tasks[place + i]? =
      some (task.resume (place + i + 1) stage.timeline).1 := by
    rw [Stage.turn, List.getElem?_set_self there]
  have apart : ∀ index, index ≠ place + i →
      (stage.turn (place + i) task).tasks[index]? = stage.tasks[index]? := fun index other =>
    List.getElem?_set_ne other.symm
  have leads : stage.timeline.Leads (stage.turn (place + i) task).timeline :=
    .task _ task (.rest _)
  refine ⟨?_, fun j other => ?_, fun ended => ?_, fun index other here away => ?_⟩
  · have posts := (Task.resume_stirs (place + i + 1) stage.timeline task.keeps_anything).1.posts
    exact serves.there.trans_eq posts.symm
  · by_cases same : j = i
    · subst same
      exact ⟨_, turned, settles.serves⟩
    · rw [apart _ (by omega)]
      exact serves.own j other
  · refine leads.isCancelled ?_
    by_cases sink : i = 2
    · subst sink
      rw [turned] at ended
      cases role with
      | attending => exact Task.cancelled_of_attending (Option.some.inj ended)
      | finished => exact serves.stays found
    · rw [apart _ (by omega)] at ended
      exact serves.stays ended
  · rw [apart _ (by omega)] at here
    exact serves.others index other here away

theorem Runs.serves (runs : Runs post place first history outer last)
    (serves : first.Serves watch post place) : last.Serves watch post place := by
  induction runs with
  | rest => exact serves
  | turn own found _ ih => exact ih (serves.turn own found)
  | meanwhile happens _ ih => exact ih (happens.serves serves)

theorem Runs.trans (runs : Runs post place first history outer middle)
    (rest : Runs post place middle later more last) :
    Runs post place first (history ++ later) (outer + more) last := by
  induction runs with
  | rest => simpa using rest
  | turn own found _ ih => exact .turn own found (ih rest)
  | meanwhile happens _ ih =>
    rw [Nat.add_assoc]
    exact .meanwhile happens (ih rest)

/-- Somewhere in between there is a stage up to which part of the history has happened. -/
theorem Runs.of_append (runs : Runs post place first (history ++ later) outer last) :
    ∃ early late middle, Runs post place first history early middle ∧
      Runs post place middle later late last := by
  generalize whole : history ++ later = entries at runs
  induction runs generalizing history with
  | rest stage =>
    obtain ⟨rfl, rfl⟩ := List.append_eq_nil_iff.1 whole
    exact ⟨0, 0, stage, .rest stage, .rest stage⟩
  | @turn stage last i task entries outer own found rest ih =>
    cases history with
    | nil =>
      have whole : later = task.entry (place + i + 1) stage.timeline :: entries := whole
      subst whole
      exact ⟨0, outer, stage, .rest stage, .turn own found rest⟩
    | cons entry history =>
      obtain ⟨rfl, tail⟩ := List.cons.inj whole
      obtain ⟨early, late, middle, before, behind⟩ := ih tail
      exact ⟨early, late, middle, .turn own found before, behind⟩
  | meanwhile happens rest ih =>
    obtain ⟨early, late, middle, before, behind⟩ := ih whole
    exact ⟨_, late, middle, .meanwhile happens before, behind⟩

/-- Errors are taken up in the order in which they were kept. -/
theorem Runs.order (runs : Runs post place first history outer last)
    (serves : first.Serves watch post place) :
    handled history ++ (last.timeline.post post).inbox.waiting =
      (first.timeline.post post).inbox.waiting ++
        kept watch.errorCapacity (first.timeline.post post).inbox.waiting.length history := by
  induction runs with
  | rest => simp [handled, kept]
  | turn own found _ ih =>
    exact (serves.settles own found).2.changes.order _ (ih (serves.turn own found))
  | meanwhile happens _ ih =>
    rw [ih (happens.serves serves), happens.inbox serves]

/-- No more errors wait than there is room for. -/
theorem Runs.bounded (runs : Runs post place first history outer last)
    (serves : first.Serves watch post place)
    (within : (first.timeline.post post).inbox.waiting.length ≤ watch.errorCapacity) :
    (last.timeline.post post).inbox.waiting.length ≤ watch.errorCapacity := by
  induction runs with
  | rest => exact within
  | turn own found _ ih =>
    exact ih (serves.turn own found) ((serves.settles own found).2.changes.bounded within)
  | meanwhile happens _ ih =>
    refine ih (happens.serves serves) ?_
    rwa [happens.inbox serves]

/-- The connections are reset in a turn in which an error that points at them is taken up. -/
theorem Runs.resets (runs : Runs post place first history outer last)
    (serves : first.Serves watch post place) :
    ∀ entry ∈ history, entry.resets = entry.incident.calls := by
  induction runs with
  | rest => simp
  | turn own found _ ih =>
    refine List.forall_mem_cons.2 ⟨?_, ih (serves.turn own found)⟩
    rw [Task.entry, (serves.settles own found).2.resets]
    exact Nat.add_sub_cancel_left _ _
  | meanwhile happens _ ih => exact ih (happens.serves serves)

theorem countP_handled_cons (entry : Entry) (history : List Entry) :
    (handled (entry :: history)).countP CycleError.isTransport =
      entry.incident.calls + (handled history).countP CycleError.isTransport := by
  obtain ⟨incident, resets⟩ := entry
  cases incident with
  | taken error =>
    show (error :: handled history).countP CycleError.isTransport = _
    rw [List.countP_cons, Nat.add_comm]
    rfl
  | failed | quiet => exact (Nat.zero_add _).symm

/-- What the watch does not reset itself others have reset. -/
theorem Runs.total (runs : Runs post place first history outer last)
    (serves : first.Serves watch post place) :
    last.timeline.resets =
      first.timeline.resets + (handled history).countP CycleError.isTransport + outer := by
  induction runs with
  | rest => rfl
  | @turn stage _ i task _ _ own found _ ih =>
    have resets : (stage.turn (place + i) task).timeline.resets =
        stage.timeline.resets + (task.incident (place + i + 1) stage.timeline).calls :=
      (serves.settles own found).2.resets
    have incident : (task.entry (place + i + 1) stage.timeline).incident =
        task.incident (place + i + 1) stage.timeline := rfl
    rw [ih (serves.turn own found), resets, countP_handled_cons, incident]
    omega
  | meanwhile happens _ ih =>
    have more := happens.resets
    rw [ih (happens.serves serves)]
    omega

/-- From one stage to another there is something that happens to the watch. -/
def Comes (post place : Nat) (first last : Stage) : Prop :=
  ∃ history outer, Runs post place first history outer last

theorem Comes.refl (stage : Stage) : Comes post place stage stage := ⟨[], 0, .rest stage⟩

theorem Comes.trans (start : Comes post place first middle) (rest : Comes post place middle last) :
    Comes post place first last := by
  obtain ⟨_, _, start⟩ := start
  obtain ⟨_, _, rest⟩ := rest
  exact ⟨_, _, start.trans rest⟩

theorem Meanwhile.comes (happens : Meanwhile post place stage next) :
    Comes post place stage next := ⟨_, _, .meanwhile happens (.rest _)⟩

/-- A turn of a task, of the watch or of another one, is something that happens to the watch. -/
theorem comes_turn (post place : Nat) {index : Nat} {task : Task}
    (found : stage.tasks[index]? = some task) :
    Comes post place stage (stage.turn index task) := by
  by_cases other : index < place ∨ place + 3 ≤ index
  · exact (Meanwhile.task found other).comes
  · obtain ⟨i, rfl⟩ := Nat.exists_eq_add_of_le (Nat.not_lt.1 (not_or.1 other).1)
    exact ⟨_, _, .turn (by omega) found (.rest _)⟩

theorem Serves.paced (serves : stage.Serves watch post place) :
    ∀ task ∈ stage.tasks, task.Paced := by
  intro task mem
  obtain ⟨index, found⟩ := List.getElem?_of_mem mem
  by_cases other : index < place ∨ place + 3 ≤ index
  · exact (serves.others index task found other).paced
  · obtain ⟨i, rfl⟩ := Nat.exists_eq_add_of_le (Nat.not_lt.1 (not_or.1 other).1)
    exact (serves.settles (by omega) found).1.paced

/-- As long as an error waits and the watch is not cancelled, the task that looks after the errors
is ready. -/
theorem Serves.goes_of_waiting (serves : stage.Serves watch post place)
    (spared : stage.timeline.isCancelled post = false)
    (waits : (stage.timeline.post post).inbox.waiting ≠ []) : ∃ next, stage.Goes next := by
  obtain ⟨task, found, role⟩ := serves.own 2 (by decide)
  cases role with
  | attending =>
    refine ⟨_, .turn found ⟨stage.timeline.now, ?_, le_rfl⟩⟩
    simp [Task.readyAt, waits]
  | finished =>
    rw [serves.stays found] at spared
    cases spared

/-- The three tasks of a watch that was just started stand at a place, no error waits, and the
other tasks keep away from its post. -/
structure Started (watch : Watch) (post place : Nat) (stage : Stage) : Prop where
  there : post < stage.timeline.posts.length
  tasks : ∀ i < 3, stage.tasks[place + i]? = (watch.tasks post stage.timeline.now)[i]?
  empty : (stage.timeline.post post).inbox = .empty
  others : ∀ index task, stage.tasks[index]? = some task → index < place ∨ place + 3 ≤ index →
    task.Foreign post

theorem Started.serves (started : stage.Started watch post place) :
    stage.Serves watch post place where
  there := started.there
  own i own := by
    rw [started.tasks i own]
    match i with
    | 0 => exact ⟨_, rfl, .collecting watch.collectInterval_pos (by simp)⟩
    | 1 => exact ⟨_, rfl, .sweeping watch.sweepInterval_pos (by simp)⟩
    | 2 => exact ⟨_, rfl, .attending⟩
  stays ended := by
    rw [started.tasks 2 (by decide)] at ended
    cases ended
  others := started.others

end Stage

/-! ## Sessions -/

namespace Scene

variable {α : Type} {scene next last : Scene α}

theorem resume_comes (post place : Nat) (scene : Scene α) (strand : Strand) :
    Stage.Comes post place scene.stage (scene.resume strand).stage := by
  cases strand with
  | zero => exact (Stage.Meanwhile.run Foreground.strand scene.foreground.run).comes
  | succ index =>
    cases found : scene.tasks[index]? with
    | some task =>
      rw [stage_resume found]
      have found : scene.stage.tasks[index]? = some task := found
      exact Stage.comes_turn post place found
    | none =>
      rw [resume_of_missing found]
      exact .refl _

/-- What a scene does next happens to the watch, whatever has its turn. -/
theorem step_comes (post place : Nat) (stepped : scene.step = some next) :
    Stage.Comes post place scene.stage next.stage := by
  obtain ⟨⟨moment, strand⟩, -, rfl⟩ := Option.map_eq_some_iff.1 stepped
  have waits : Stage.Comes post place scene.stage
      { scene with timeline := scene.timeline.goOn moment }.stage :=
    (Stage.Meanwhile.wait moment).comes
  exact waits.trans (resume_comes post place _ strand)

theorem play_comes (post place : Nat) {fuel : Nat} {value : α}
    (played : scene.play fuel = some (value, last)) :
    Stage.Comes post place scene.stage last.stage := by
  induction fuel generalizing scene with
  | zero => cases played
  | succ fuel ih =>
    unfold play at played
    split at played
    · obtain ⟨rfl, rfl⟩ : _ = value ∧ scene = last := by simpa using played
      exact .refl _
    · obtain ⟨next, stepped, rest⟩ := Option.bind_eq_some_iff.1 played
      exact (step_comes post place stepped).trans (ih rest)

end Scene

namespace Session

/-- The stage of a session. -/
def stage (session : Session) : Stage := ⟨session.timeline, session.tasks⟩

/-- Whatever a session waits for, what its tasks do until then happens to the watch. -/
theorem await_comes (post place : Nat) {α : Type} {session after : Session} {number : Nat}
    {deadline : Option Nat} {program : Program α} {earliest : Nat} {awaited : List Strand}
    {value : α}
    (ran : session.await (session.timeline.launch Foreground.strand number deadline program)
      earliest awaited = some (value, after)) :
    Stage.Comes post place session.stage after.stage := by
  obtain ⟨⟨found, last⟩, played, same⟩ := Option.map_eq_some_iff.1 ran
  obtain ⟨-, rfl⟩ := Prod.mk.inj same
  have begins : Stage.Comes post place session.stage
      ⟨(session.timeline.launch Foreground.strand number deadline program).2, session.tasks⟩ :=
    (Stage.Meanwhile.run Foreground.strand (program.begun number deadline)).comes
  exact begins.trans (Scene.play_comes post place played)

/-- A session that starts a watch at a post of its own has its tasks behind all others. -/
theorem launch_started {session : Session} {stationed : Stationed}
    (here : session.stationed = some stationed)
    (there : stationed.post < session.timeline.posts.length)
    (empty : (session.timeline.post stationed.post).inbox = .empty)
    (others : ∀ task ∈ session.tasks, task.Foreign stationed.post) :
    session.launch.stage.Started stationed.watch stationed.post session.tasks.length := by
  have launched : session.launch.stage = ⟨session.timeline,
      session.tasks ++ stationed.watch.tasks stationed.post session.timeline.now⟩ := by
    rw [launch, here]
    rfl
  rw [launched]
  refine ⟨there, fun i own => ?_, empty, fun index task found away => ?_⟩
  · exact List.getElem?_append_right (Nat.le_add_right _ _) |>.trans (by simp)
  · have before : index < session.tasks.length := by
      rcases away with before | behind
      · exact before
      · have short := (List.getElem?_eq_some_iff.1 found).1
        simp only [List.length_append, Watch.tasks, List.length_cons, List.length_nil] at short
        omega
    rw [List.getElem?_append_left before] at found
    exact others task (List.mem_of_getElem? found)

end Session

/-! ## The errors of a watch that was started -/

namespace Stage

variable {watch : Watch} {post place outer more : Nat} {stage next first middle last : Stage}
  {history later : List Entry}

/-- From one stage to another, without time going on, all errors that were kept until then have been
taken up, unless the watch is cancelled. -/
def Relieved (watch : Watch) (post place : Nat) (history : List Entry) (last next : Stage) : Prop :=
  next.timeline.now = last.timeline.now ∧ ∃ later outer, Runs post place last later outer next ∧
    (next.timeline.isCancelled post = true ∨
      handled (history ++ later) = kept watch.errorCapacity 0 (history ++ later))

/-- How a watch that was started attends to the errors of its collect cycles. -/
structure Attends (watch : Watch) (post place : Nat) (first : Stage) (history : List Entry)
    (outer : Nat) (last : Stage) : Prop where
  /-- They are taken up in the order in which they were kept. -/
  order : handled history ++ (last.timeline.post post).inbox.waiting =
    kept watch.errorCapacity 0 history
  /-- One that needs attention is kept, unless as many earlier ones wait as there is room for. -/
  room : ∀ before error resets behind, history = before ++ ⟨.failed error, resets⟩ :: behind →
    error.needsAttention = true →
    kept watch.errorCapacity 0 (before ++ [⟨.failed error, resets⟩]) =
        kept watch.errorCapacity 0 before ++ [error] ∨
      (kept watch.errorCapacity 0 before).length = (handled before).length + watch.errorCapacity
  /-- A turn resets the connections once if it takes up an error that points at them, and not at
  all otherwise. -/
  resets : ∀ entry ∈ history, entry.resets = entry.incident.calls
  /-- Such an error says that logs or the last block could not be fetched, or that a cycle took too
  long. -/
  reset_iff : ∀ entry ∈ history, entry.resets = 1 ↔
    (∃ cause, entry.incident = .taken (.fetchLogs cause)) ∨
      (∃ cause, entry.incident = .taken (.latestBlock cause)) ∨ entry.incident = .taken .timedOut
  total : last.timeline.resets =
    first.timeline.resets + (handled history).countP CycleError.isTransport + outer
  /-- No more resets than collect cycles that failed because of the connections. -/
  bound : (history.map Entry.resets).sum ≤ (failures history).countP CycleError.isTransport
  /-- Whatever has its turn next, all errors are taken up before time goes on. -/
  inevitably : last.Inevitably (Relieved watch post place history last)
  /-- So it is in a scene, whatever its foreground waits for. -/
  scenes : ∀ {α : Type} (scene : Scene α), scene.stage = last →
    ∃ next, scene.Reaches next ∧ Relieved watch post place history last next.stage

theorem Started.order (started : first.Started watch post place)
    (runs : Runs post place first history outer last) :
    handled history ++ (last.timeline.post post).inbox.waiting =
      kept watch.errorCapacity 0 history := by
  have order := runs.order started.serves
  rwa [started.empty] at order

/-- An error that needs attention is lost only where as many wait as there is room for. -/
theorem Started.room (started : first.Started watch post place) {before behind : List Entry}
    {error : CycleError} {resets : Nat}
    (runs : Runs post place first (before ++ ⟨.failed error, resets⟩ :: behind) outer last)
    (attention : error.needsAttention = true) :
    kept watch.errorCapacity 0 (before ++ [⟨.failed error, resets⟩]) =
        kept watch.errorCapacity 0 before ++ [error] ∨
      (kept watch.errorCapacity 0 before).length =
        (handled before).length + watch.errorCapacity := by
  obtain ⟨_, _, middle, start, rest⟩ := runs.of_append
  have rest : Runs post place middle ([⟨.failed error, resets⟩] ++ behind) _ last := rest
  obtain ⟨_, _, next, turn, -⟩ := rest.of_append
  have serves := start.serves started.serves
  have within := start.bounded started.serves (by simp [started.empty, ErrorInbox.empty])
  have here := started.order start
  have there := started.order (start.trans turn)
  have after := turn.order serves
  generalize (middle.timeline.post post).inbox.waiting = waiting at within here after
  generalize (next.timeline.post post).inbox.waiting = waiting' at there after
  rw [← here]
  rcases within.lt_or_eq with room | full
  · left
    have comes : waiting' = waiting ++ [error] := by
      simpa [handled, kept, Incident.taken?, attention, room] using after
    rw [← there, comes]
    simp [handled, Incident.taken?]
  · right
    rw [List.length_append, full]

theorem sum_resets (spared : ∀ entry ∈ history, entry.resets = entry.incident.calls) :
    (history.map Entry.resets).sum = (handled history).countP CycleError.isTransport := by
  induction history with
  | nil => rfl
  | cons entry history ih =>
    obtain ⟨here, later⟩ := List.forall_mem_cons.1 spared
    rw [List.map_cons, List.sum_cons, ih later, here, countP_handled_cons]

/-- At every moment the errors are all taken up in the end. -/
theorem Started.inevitably (started : first.Started watch post place)
    (runs : Runs post place first history outer last) :
    last.Inevitably (Relieved watch post place history last) := by
  refine inevitably_of_ready
    (fun stage => stage.timeline.now = last.timeline.now ∧ Comes post place last stage) ?_ ?_ ?_
    ⟨rfl, .refl last⟩
  · rintro stage ⟨-, later, outer, since⟩
    exact (since.serves (runs.serves started.serves)).paced
  · rintro stage next ⟨now, since⟩ goes
    obtain ⟨found, -⟩ := id goes
    exact ⟨goes.now.trans now, since.trans (comes_turn post place found)⟩
  · rintro stage ⟨now, later, outer, since⟩
    cases told : stage.timeline.isCancelled post with
    | true => exact .inl ⟨now, later, outer, since, .inl told⟩
    | false =>
      by_cases waits : (stage.timeline.post post).inbox.waiting = []
      · have order := started.order (runs.trans since)
        rw [waits, List.append_nil] at order
        exact .inl ⟨now, later, outer, since, .inr order⟩
      · exact .inr ((since.serves (runs.serves started.serves)).goes_of_waiting told waits)

/-- Errors are taken up in the order in which they were noted, one is lost only while as many wait
as there is room for, and each that points at the connections resets them once, at the moment at
which it was noted, unless the watch is cancelled; nothing else does. -/
theorem attends_errors (started : first.Started watch post place)
    (runs : Runs post place first history outer last) :
    Attends watch post place first history outer last := by
  have resets := runs.resets started.serves
  have order := started.order runs
  have inevitably := started.inevitably runs
  refine ⟨order, ?_, resets, ?_, runs.total started.serves, ?_, inevitably, ?_⟩
  · rintro before error resets behind rfl attention
    exact started.room runs attention
  · intro entry mem
    rw [resets entry mem]
    exact Incident.calls_eq_one_iff
  · have taken : (handled history).Sublist (failures history) :=
      (order ▸ List.sublist_append_left _ _).trans (kept_sublist watch.errorCapacity 0 history)
    rw [sum_resets resets]
    exact taken.countP_le
  · exact fun scene same => Scene.reaches_of_inevitably inevitably same

end Stage

/-! A client's watch is started before anything is set. Then the chain does not tell its last block,
does not give logs, and takes longer for them than a cycle may. -/

namespace Sample

/-- A client's watch was built, and nothing is set yet. -/
def built : Session := ((Session.start 30).build (.usual .client contracts) false).2

def launched : Stage := built.launch.stage

theorem launched_started : launched.Started watch 1 0 := by
  have stationed : built.stationed = some ⟨watch, 1⟩ := rfl
  have alone : built.tasks = [] := rfl
  exact Session.launch_started stationed (by decide) rfl (by simp [alone])

/-- The task at an index has its turn. -/
def after (stage : Stage) (index : Nat) : Stage :=
  (stage.tasks[index]?.map fun task => stage.turn index task).getD stage

/-- What is recorded of it. -/
def entry (stage : Stage) (index : Nat) : Entry :=
  (stage.tasks[index]?.map fun task => task.entry (index + 1) stage.timeline).getD ⟨.quiet, 0⟩

theorem runs_after {post place i outer : Nat} {stage last : Stage} {history : List Entry}
    (own : i < 3) (there : stage.tasks[place + i]?.isSome)
    (rest : Stage.Runs post place (after stage (place + i)) history outer last) :
    Stage.Runs post place stage (entry stage (place + i) :: history) outer last := by
  obtain ⟨task, found⟩ := Option.isSome_iff_exists.1 there
  rw [after, found] at rest
  rw [entry, found]
  exact .turn own found rest

/-- The moment has come, and the world is another one. -/
def amid (stage : Stage) (moment : Nat) (world : World) : Stage :=
  { stage with timeline := { stage.timeline.goOn moment with world } }

theorem runs_amid {post place outer : Nat} {stage last : Stage} {history : List Entry}
    {moment : Nat} {world : World} (same : world.chain.resets = stage.timeline.resets)
    (rest : Stage.Runs post place (amid stage moment world) history outer last) :
    Stage.Runs post place stage history outer last :=
  .spared (.wait moment) rfl (.spared (.reshape world same.ge) same rest)

/-- Everything is set, and the chain behaves like this. -/
def troubled (failsHead failsLogs : Bool) (delay : Nat) : World :=
  { closed.world with chain := { closed.world.chain with failsHead, failsLogs, delay } }

def unset : Stage := after launched 0

def headless : Stage := amid unset 10000 (troubled true false 0)

def logless : Stage := amid (after headless 0) 20000 (troubled false true 0)

def tardy : Stage := amid (after logless 0) 30000 (troubled false false 70000)

def overdue : Stage := amid (after tardy 0) 90000 (troubled false false 70000)

/-- Four cycles have failed, and their errors wait. -/
def failed : Stage := after overdue 0

def relieved : Stage := after (after (after (after failed 2) 2) 2) 2

def history : List Entry :=
  [entry launched 0, entry headless 0, entry logless 0, entry tardy 0, entry overdue 0,
    entry failed 2, entry (after failed 2) 2, entry (after (after failed 2) 2) 2,
    entry (after (after (after failed 2) 2) 2) 2]

theorem launched_runs : Stage.Runs 1 0 launched history 0 relieved := by
  refine runs_after (i := 0) (by decide) (by decide +kernel) ?_
  refine runs_amid (by decide +kernel) (runs_after (i := 0) (by decide) (by decide +kernel) ?_)
  refine runs_amid (by decide +kernel) (runs_after (i := 0) (by decide) (by decide +kernel) ?_)
  refine runs_amid (by decide +kernel) (runs_after (i := 0) (by decide) (by decide +kernel) ?_)
  refine runs_amid (by decide +kernel) (runs_after (i := 0) (by decide) (by decide +kernel) ?_)
  -- then the task that looks after the errors takes them up
  refine runs_after (i := 2) (by decide) (by decide +kernel) ?_
  refine runs_after (i := 2) (by decide) (by decide +kernel) ?_
  refine runs_after (i := 2) (by decide) (by decide +kernel) ?_
  exact runs_after (i := 2) (by decide) (by decide +kernel) (.rest _)

end Sample

/-- Three of the errors point at the connections, and each of them resets these once. -/
theorem attended_after_outage :
    Sample.launched.Started Sample.watch 1 0 ∧
      Stage.Runs 1 0 Sample.launched Sample.history 0 Sample.relieved ∧
      handled Sample.history =
        [.missingSetting Settings.minConfirmationsKey, .latestBlock (.rpc .connectionGone),
          .fetchLogs (.rpc .connectionGone), .timedOut] ∧
      Sample.relieved.timeline.resets = 3 := by
  have all : handled Sample.history =
      [.missingSetting Settings.minConfirmationsKey, .latestBlock (.rpc .connectionGone),
        .fetchLogs (.rpc .connectionGone), .timedOut] := by
    decide +kernel
  have attends := Stage.attends_errors Sample.launched_started Sample.launched_runs
  refine ⟨Sample.launched_started, Sample.launched_runs, all, ?_⟩
  rw [attends.total, all]
  rfl

end ChannelWatch
