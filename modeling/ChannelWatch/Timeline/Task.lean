import ChannelWatch.Timeline.Run

/-!
# Tasks in the background

A watch that was started has three tasks. One collects and one sweeps, each at every tick
of its ticker and never two cycles at once; the third looks after the errors of the first
and resets the connections after an error that points at them. They end once the watch is
cancelled. A fourth kind of task cancels a watch at a given moment.
-/

namespace ChannelWatch
set_option autoImplicit false

/-- A task, and what it is at. -/
inductive Task where
  /-- Collects at every tick. -/
  | collecting (watch : Watch) (post : Nat) (ticker : Ticker)
      (cycle : Option (Run (Except CycleError Collected)))
  /-- Sweeps at every tick. -/
  | sweeping (watch : Watch) (post : Nat) (ticker : Ticker)
      (cycle : Option (Run (Except CycleError SweepReport)))
  /-- Looks after the errors of a post. -/
  | attending (post : Nat)
  /-- Cancels the watch of a post at a moment. -/
  | cancelling (post : Nat) (moment : Nat)
  | finished

namespace Watch

/-- The tasks of a watch that is started now. -/
def tasks (watch : Watch) (post now : Nat) : List Task :=
  [.collecting watch post (.starting now watch.collectInterval) none,
    .sweeping watch post (.starting now watch.sweepInterval) none,
    .attending post]

/-- The collect cycle of the watch, begun now. -/
def collect (watch : Watch) (strand : Strand) (post : Nat) (timeline : Timeline) :
    Run (Except CycleError Collected) × Timeline :=
  timeline.launch strand post (some (timeline.now + watch.cycleTimeout))
    (Cycle.collect watch.profile)

/-- The sweep of the watch, begun now. -/
def sweep (watch : Watch) (strand : Strand) (post : Nat) (timeline : Timeline) :
    Run (Except CycleError SweepReport) × Timeline :=
  timeline.launch strand post (some (timeline.now + watch.cycleTimeout))
    (Cycle.sweep watch.profile)

end Watch

namespace Task

/-- The task has nothing left to do. -/
def isFinished : Task → Bool
  | finished => true
  | _ => false

/-- When the task can go on, as far as that is known. -/
def readyAt (timeline : Timeline) (strand : Strand) : Task → Option Nat
  | collecting _ _ _ (some cycle) => timeline.readyAt strand cycle
  | sweeping _ _ _ (some cycle) => timeline.readyAt strand cycle
  | collecting _ post ticker none | sweeping _ post ticker none =>
    some (if timeline.isCancelled post then timeline.now else ticker.due)
  | attending post =>
    if timeline.isCancelled post || !(timeline.post post).inbox.waiting.isEmpty then
      some timeline.now
    else none
  | cancelling _ moment => some moment
  | finished => none

/-- The task after its collect cycle got this far. -/
def collected (watch : Watch) (ticker : Ticker)
    (cycle : Run (Except CycleError Collected) × Timeline) : Task × Timeline :=
  let (run, timeline) := cycle
  let idle := collecting watch run.post ticker none
  match run.result? with
  | none => (collecting watch run.post ticker (some run), timeline)
  | some (.ok _) => (idle, timeline)
  | some (.error e) => (idle, timeline.report run.post watch.errorCapacity e)

/-- The task after its sweep got this far. -/
def swept (watch : Watch) (ticker : Ticker)
    (cycle : Run (Except CycleError SweepReport) × Timeline) : Task × Timeline :=
  let (run, timeline) := cycle
  match run.result? with
  | none => (sweeping watch run.post ticker (some run), timeline)
  | some _ => (sweeping watch run.post ticker none, timeline)

/-- Takes up the oldest error of a post. -/
def attend (post : Nat) (timeline : Timeline) : Timeline :=
  match (timeline.post post).inbox.take? with
  | none => timeline
  | some (error, inbox) =>
    let timeline := timeline.alter post fun p => { p with inbox }
    if error.isTransport then (timeline.perform post .resetConnections).2 else timeline

/-- Goes on with a task until it has to wait. -/
def resume (strand : Strand) (timeline : Timeline) : Task → Task × Timeline
  | collecting watch _ ticker (some cycle) => collected watch ticker (timeline.resume strand cycle)
  | sweeping watch _ ticker (some cycle) => swept watch ticker (timeline.resume strand cycle)
  | collecting watch post ticker none =>
    if timeline.isCancelled post then (finished, timeline)
    else if timeline.now < ticker.due then (collecting watch post ticker none, timeline)
    else collected watch (ticker.tick timeline.now) (watch.collect strand post timeline)
  | sweeping watch post ticker none =>
    if timeline.isCancelled post then (finished, timeline)
    else if timeline.now < ticker.due then (sweeping watch post ticker none, timeline)
    else swept watch (ticker.tick timeline.now) (watch.sweep strand post timeline)
  | attending post =>
    if timeline.isCancelled post then (finished, timeline)
    else (attending post, attend post timeline)
  | cancelling post moment =>
    if timeline.now < moment then (cancelling post moment, timeline)
    else (finished, timeline.cancel post)
  | finished => (finished, timeline)

end Task

end ChannelWatch
