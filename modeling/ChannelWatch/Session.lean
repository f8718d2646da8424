import ChannelWatch.Timeline.Scene

/-!
# Sessions

A session is a world with a watch in it, worked by hand from outside: build a watch, run
single cycles or start its tasks, let time pass, cancel, stop, and look at or change the
chain, the store and the queue in between. Time passes only while something takes time.
Beside the post of each watch there is one that belongs to the session itself.
-/

namespace ChannelWatch
set_option autoImplicit false

/-- A watch that was built and not started yet, and its post. -/
structure Stationed where
  watch : Watch
  post : Nat

/-- A world with a watch in it. -/
structure Session where
  timeline : Timeline
  tasks : List Task
  /-- The watch whose cycles can be run by hand. -/
  stationed : Option Stationed
  /-- The post of the watch that was built last. -/
  post : Option Nat
  /-- The tasks of the watch that was started last. -/
  running : List Strand
  /-- The common cancellation has been given. -/
  commonCancelled : Bool
  /-- The posts that the common cancellation reaches. -/
  tied : List Nat

namespace Session

variable {α : Type}

/-- The session's own post. -/
def ownPost : Nat := 0

/-- A session without a watch, on a chain that ends in `head`. -/
def start (head : BlockNumber) : Session :=
  { timeline := ((Timeline.start head).setUp .fresh).2
    tasks := []
    stationed := none
    post := none
    running := []
    commonCancelled := false
    tied := [] }

/-- The world as it is now. -/
def world (session : Session) : World := session.timeline.world

/-- Changes the world from outside. -/
def reshape (session : Session) (change : World → World) : Session :=
  { session with
    timeline := { session.timeline with world := change session.timeline.world } }

/-- How many events the foreground may wait through. -/
def patience : Nat := 1000000000000000

/-- Waits for a run that has been begun, and for what else the foreground awaits. -/
def await (session : Session) (begun : Run α × Timeline) (earliest : Nat)
    (awaited : List Strand) : Option (α × Session) :=
  let scene : Scene α := ⟨begun.2, session.tasks, ⟨begun.1, earliest, awaited⟩⟩
  (scene.play patience).map fun (value, scene) =>
    (value, { session with timeline := scene.timeline, tasks := scene.tasks })

/-- Runs a program at a post. -/
def run (session : Session) (post : Nat) (program : Program α) : Option (α × Session) :=
  session.await (session.timeline.launch Foreground.strand post none program) 0 []

/-- Carries out a transaction of the store. -/
def transact (session : Session) (t : Transaction) :
    Option (Except StoreError t.Value × Session) :=
  session.run ownPost (.insist (.store t))

/-- Carries out a request of an operator. -/
def maintain (session : Session) (u : Upkeep) : Option (u.Value × Session) :=
  session.run ownPost (.insist (.upkeep u))

/-- Builds a watch, tied to the common cancellation or not; a plan that does not pass leaves
the session without a watch. -/
def build (session : Session) (plan : Plan) (tie : Bool) :
    Except ConfigError Role × Session :=
  match plan.check with
  | .error e => (.error e, { session with stationed := none, post := none })
  | .ok watch =>
    let (post, timeline) :=
      session.timeline.setUp { Desk.fresh with cancelled := tie && session.commonCancelled }
    let tied := if tie then post :: session.tied else session.tied
    (.ok watch.profile.role,
      { session with timeline, stationed := some ⟨watch, post⟩, post := some post, tied })

/-- Adds a task. -/
def add (session : Session) (task : Task) : Session :=
  { session with tasks := session.tasks ++ [task] }

/-- Waits for a cycle of the stationed watch; `cancelAfter` tells when it is cancelled,
counted from now. -/
def cycle (session : Session) (stationed : Stationed) (begun : Run α × Timeline)
    (cancelAfter : Option Nat) : Option (α × Session) :=
  match cancelAfter with
  | none => session.await begun 0 []
  | some delay =>
    let alarmed := session.add (.cancelling stationed.post (session.timeline.now + delay))
    alarmed.await begun 0 [alarmed.tasks.length]

/-- Runs one collect cycle of the stationed watch. -/
def collect (session : Session) (cancelAfter : Option Nat) :
    Option (Except CycleError Collected × Session) :=
  session.stationed.bind fun stationed =>
    session.cycle stationed
      (stationed.watch.collect Foreground.strand stationed.post session.timeline) cancelAfter

/-- Runs one sweep of the stationed watch. -/
def sweep (session : Session) (cancelAfter : Option Nat) :
    Option (Except CycleError SweepReport × Session) :=
  session.stationed.bind fun stationed =>
    session.cycle stationed
      (stationed.watch.sweep Foreground.strand stationed.post session.timeline) cancelAfter

/-- Cancels the watch that was built last. -/
def cancel (session : Session) : Session :=
  match session.post with
  | none => session
  | some post => { session with timeline := session.timeline.cancel post }

/-- Gives the common cancellation. -/
def cancelCommon (session : Session) : Session :=
  { session with
    commonCancelled := true
    timeline := session.tied.foldl Timeline.cancel session.timeline }

/-- The watch that was built last is cancelled. -/
def isCancelled (session : Session) : Bool := session.post.any session.timeline.isCancelled

/-- Starts the tasks of the stationed watch. -/
def launch (session : Session) : Session :=
  match session.stationed with
  | none => session
  | some stationed =>
    let tasks := stationed.watch.tasks stationed.post session.timeline.now
    let first := session.tasks.length + 1
    { session with
      tasks := session.tasks ++ tasks
      running := (List.range tasks.length).map (first + ·)
      stationed := none }

/-- Lets time pass. -/
def advance (session : Session) (length : Nat) : Option Session :=
  let idle : Run Unit × Timeline :=
    session.timeline.launch Foreground.strand ownPost none (.done ())
  (session.await idle (session.timeline.now + length) []).map Prod.snd

/-- All tasks of the started watch have returned. -/
def isFinished (session : Session) : Bool :=
  session.running.all fun strand =>
    (session.tasks[strand - 1]?.map Task.isFinished).getD true

/-- Cancels the started watch and waits for its tasks; tells how long that took. -/
def stop (session : Session) : Option (Nat × Session) :=
  let cancelled := session.cancel
  let idle : Run Unit × Timeline :=
    cancelled.timeline.launch Foreground.strand ownPost none (.done ())
  (cancelled.await idle 0 cancelled.running).map fun (_, after) =>
    (after.timeline.now - session.timeline.now, { after with running := [] })

/-- Asks the chain for the logs of a query. -/
def fetchLogs (session : Session) (query : Query) :
    Option (Except ChainError (List Log) × Session) :=
  session.run ownPost do
    .insist (.sendQuery query)
    .insist (.logs query)

/-- Asks the chain for its last block. -/
def latestBlock (session : Session) : Option (Except ChainError BlockNumber × Session) :=
  session.run ownPost (.insist .latestBlock)

/-- Resets the connections to the chain. -/
def resetConnections (session : Session) : Option (Except ChainError Unit × Session) :=
  session.run ownPost (.insist .resetConnections)

/-- Reads the bounds of a scan. -/
def scanLimits (session : Session) : Option (Except CycleError ScanLimits × Session) :=
  session.run ownPost (Cycle.scanLimits .final).run

/-- Reads the checkpoint from the settings. -/
def storedCheckpoint (session : Session) : Option (Except CycleError BlockNumber × Session) :=
  session.run ownPost (Cycle.storedCheckpoint .final).run

/-- The checkpoint of the session's own post. -/
def checkpoint (session : Session) : Option (Except CycleError BlockNumber × Session) :=
  session.run ownPost (.insist .checkpoint)

/-- Stores logs and moves the checkpoint of the session's own post. -/
def advanceCheckpoint (session : Session) (logs : List Log) (window : Window) :
    Option (Except CycleError Nat × Session) :=
  session.run ownPost
    (Cycle.demand CycleError.store (Cycle.request .final (.advance logs window))).run

/-- Offers a job to the queue. -/
def offer (session : Session) (job : Job) : Option (Except QueueError Id × Session) :=
  session.run ownPost (.insist (.offer job))

/-- Looks up the id that an accepted job gave to an offering. -/
def offeringJob (session : Session) (offering : Hash) :
    Option (Except QueueError (Option Id) × Session) :=
  session.run ownPost (.insist (.offeringJob offering))

end Session

end ChannelWatch
