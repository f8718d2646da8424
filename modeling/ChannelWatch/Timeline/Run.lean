import ChannelWatch.Timeline

/-!
# Programs under way

Before a request takes effect it may have to pass hurdles: the line in front of a
checkpoint, the line in front of the store, the time that its partner takes. A `Run` is a
program that has come to such a hurdle. Cancellation is noticed before everything else, and
the end of the time only while there is something to wait for.
-/

namespace ChannelWatch
set_option autoImplicit false

/-- A partner that takes its time. -/
inductive Partner where
  | store
  | chain
  | queue
deriving DecidableEq

/-- How long a partner takes. -/
def World.pace (world : World) : Partner → Nat
  | .store => world.store.latency
  | .chain => world.chain.delay
  | .queue => world.queue.delay

/-- What stands between a request and its effect. -/
inductive Hurdle where
  /-- The line in front of the post's checkpoint. -/
  | checkpointLine
  /-- The line in front of the store. -/
  | storeLine
  /-- The time that a partner takes. -/
  | time (partner : Partner)
deriving DecidableEq

/-- The hurdles of a request, in order. A request of an operator takes no time. -/
def Request.hurdles : Request → List Hurdle
  | .store _ => [.storeLine, .time .store]
  | .checkpoint => [.checkpointLine, .storeLine, .time .store]
  | .advance _ _ => [.checkpointLine, .storeLine, .time .store]
  | .logs _ => [.time .chain]
  | .offer _ => [.time .queue]
  | .upkeep _ => [.storeLine]
  | .latestBlock | .sendQuery _ | .resetConnections | .offeringJob _ | .freshId | .ratingsDue _
  | .countClosing _ | .isCancelled => []

/-- The desk answers the request without the store. -/
def Desk.answers (desk : Desk) : Request → Bool
  | .checkpoint => desk.cached.isSome
  | _ => false

/-- How far a request has come. -/
structure Progress where
  /-- The hurdles that still lie ahead. -/
  ahead : List Hurdle
  /-- The end of a pause that has begun. -/
  pause : Option Nat
deriving DecidableEq

/-- The progress of a program whose next request is just being made. -/
def Program.progress {α : Type} : Program α → Progress
  | .done _ => ⟨[], none⟩
  | .ask _ request _ => ⟨request.hurdles, none⟩

/-- A program that has got as far as it can without waiting. -/
structure Run (α : Type) where
  post : Nat
  /-- The end of its time. -/
  deadline : Option Nat
  program : Program α
  /-- How far its next request has come. -/
  progress : Progress

/-- The value of a program that is done. -/
def Run.result? {α : Type} (run : Run α) : Option α :=
  match run.program with
  | .done value => some value
  | .ask _ _ _ => none

/-- The earlier of two moments that may never come. -/
def sooner : Option Nat → Option Nat → Option Nat
  | some a, some b => some (min a b)
  | some a, none => some a
  | none, b => b

namespace Timeline

/-- Faces hurdles in order, as far as nothing has to be waited for. The result tells where
the strand has to wait, if it does. -/
def face (strand : Strand) (number : Nat) (request : Request) :
    List Hurdle → Timeline → Timeline × Option Progress
  | [], timeline => (timeline, none)
  | .checkpointLine :: ahead, timeline =>
    let joined := timeline.alter number fun post => { post with line := post.line.join strand }
    if !(joined.post number).line.isFirst strand then
      (joined, some ⟨.checkpointLine :: ahead, none⟩)
    else if (joined.post number).desk.answers request then (joined, none)
    else joined.face strand number request ahead
  | .storeLine :: ahead, timeline =>
    let joined := { timeline with line := timeline.line.join strand }
    if !joined.line.isFirst strand then (joined, some ⟨.storeLine :: ahead, none⟩)
    else joined.face strand number request ahead
  | .time partner :: ahead, timeline =>
    let length := timeline.world.pace partner
    if length = 0 then timeline.face strand number request ahead
    else (timeline, some ⟨ahead, some (timeline.now + length)⟩)

/-- A moment has come. -/
def hasCome (timeline : Timeline) (moment : Option Nat) : Bool :=
  moment.any fun moment => moment ≤ timeline.now

/-- Goes on with a request that has come so far. -/
def proceed (timeline : Timeline) (strand : Strand) (number : Nat) (request : Request)
    (progress : Progress) : Timeline × Option Progress :=
  if progress.pause.isSome && !timeline.hasCome progress.pause then (timeline, some progress)
  else timeline.face strand number request progress.ahead

/-- Carries a program on as far as it gets without waiting. -/
def drive {α : Type} (strand : Strand) (number : Nat) (deadline : Option Nat) :
    Program α → Progress → Timeline → Run α × Timeline
  | .done value, progress, timeline => (⟨number, deadline, .done value, progress⟩, timeline)
  | .ask guard request next, progress, timeline =>
    if cancelled : guard.cancellable = true ∧ timeline.isCancelled number = true then
      drive strand number deadline (next (.cancelled cancelled.1))
        (next (.cancelled cancelled.1)).progress (timeline.leave strand number)
    else
      match timeline.proceed strand number request progress with
      | (timeline, none) =>
        let (reply, timeline) := timeline.perform number request
        drive strand number deadline (next (.reply reply)) (next (.reply reply)).progress
          (timeline.leave strand number)
      | (timeline, some progress) =>
        if expired : guard.timed = true ∧ timeline.hasCome deadline = true then
          drive strand number deadline (next (.expired expired.1))
            (next (.expired expired.1)).progress (timeline.leave strand number)
        else (⟨number, deadline, .ask guard request next, progress⟩, timeline)

/-- Begins a program. -/
def launch {α : Type} (timeline : Timeline) (strand : Strand) (number : Nat)
    (deadline : Option Nat) (program : Program α) : Run α × Timeline :=
  drive strand number deadline program program.progress timeline

/-- Takes a run up again. -/
def resume {α : Type} (timeline : Timeline) (strand : Strand) (run : Run α) : Run α × Timeline :=
  drive strand run.post run.deadline run.program run.progress timeline

/-- When a strand gets past what it waits for, as far as that is known. -/
def pastAt (timeline : Timeline) (strand : Strand) (number : Nat) (progress : Progress) :
    Option Nat :=
  match progress.pause, progress.ahead with
  | some moment, _ => some moment
  | none, .checkpointLine :: _ =>
    if (timeline.post number).line.isFirst strand then some timeline.now else none
  | none, .storeLine :: _ => if timeline.line.isFirst strand then some timeline.now else none
  | none, _ => some timeline.now

/-- When a run can go on, as far as that is known. -/
def readyAt {α : Type} (timeline : Timeline) (strand : Strand) (run : Run α) : Option Nat :=
  match run.program with
  | .done _ => some timeline.now
  | .ask guard _ _ =>
    if guard.cancellable && timeline.isCancelled run.post then some timeline.now
    else sooner (if guard.timed then run.deadline else none)
      (timeline.pastAt strand run.post run.progress)

end Timeline

end ChannelWatch
