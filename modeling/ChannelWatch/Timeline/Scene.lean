import ChannelWatch.Timeline.Task

/-!
# Waiting in the foreground

While the foreground waits for something, the tasks in the background go on. The strand
that is ready first goes on first; of several at the same moment the tasks do, in the order
in which they were started, and the foreground comes last.
-/

namespace ChannelWatch
set_option autoImplicit false

/-- What the foreground waits for: a program, a moment, and tasks that have to finish. -/
structure Foreground (α : Type) where
  run : Run α
  earliest : Nat
  awaited : List Strand

/-- A timeline with its tasks and its foreground. -/
structure Scene (α : Type) where
  timeline : Timeline
  tasks : List Task
  foreground : Foreground α

/-- The number of the foreground's strand; task `i` has the number `i + 1`. -/
def Foreground.strand : Strand := 0

/-- The entry with the least moment, the first of several. -/
def soonest : List (Nat × Strand) → Option (Nat × Strand)
  | [] => none
  | entry :: entries =>
    match soonest entries with
    | none => some entry
    | some best => some (if best.1 < entry.1 then best else entry)

namespace Scene

variable {α : Type}

/-- All awaited tasks have finished. -/
def joined (scene : Scene α) : Bool :=
  scene.foreground.awaited.all fun strand =>
    (scene.tasks[strand - 1]?.map Task.isFinished).getD true

/-- The value of the foreground, once it has waited for everything. -/
def result? (scene : Scene α) : Option α :=
  if scene.joined && decide (scene.foreground.earliest ≤ scene.timeline.now) then
    scene.foreground.run.result?
  else none

/-- When the foreground can go on, as far as that is known. -/
def foregroundReadyAt (scene : Scene α) : Option Nat :=
  match scene.foreground.run.result? with
  | none => scene.timeline.readyAt Foreground.strand scene.foreground.run
  | some _ => if scene.joined then some scene.foreground.earliest else none

/-- The strands that can go on, with their moments. -/
def candidates (scene : Scene α) : List (Nat × Strand) :=
  let tasks := scene.tasks.zipIdx.filterMap fun (task, i) =>
    (task.readyAt scene.timeline (i + 1)).map fun moment => (moment, i + 1)
  let foreground := scene.foregroundReadyAt.map fun moment => (moment, Foreground.strand)
  (tasks ++ foreground.toList).map fun (moment, strand) =>
    (max moment scene.timeline.now, strand)

/-- Goes on with the foreground. -/
def resumeForeground (scene : Scene α) : Scene α :=
  let (run, timeline) := scene.timeline.resume Foreground.strand scene.foreground.run
  { scene with timeline, foreground := { scene.foreground with run } }

/-- Goes on with a strand. -/
def resume (scene : Scene α) (strand : Strand) : Scene α :=
  if strand = Foreground.strand then scene.resumeForeground
  else
    match scene.tasks[strand - 1]? with
    | none => scene
    | some task =>
      let (task, timeline) := task.resume strand scene.timeline
      { scene with timeline, tasks := scene.tasks.set (strand - 1) task }

/-- The next event: time goes on to the moment at which some strand is ready first, and that
strand goes on. -/
def step (scene : Scene α) : Option (Scene α) :=
  (soonest scene.candidates).map fun (moment, strand) =>
    { scene with timeline := scene.timeline.goOn moment }.resume strand

/-- Steps until the foreground has its value, at most so many. -/
def play : Nat → Scene α → Option (α × Scene α)
  | 0, _ => none
  | fuel + 1, scene =>
    match scene.result? with
    | some value => some (value, scene)
    | none => scene.step.bind (play fuel)

end Scene

end ChannelWatch
