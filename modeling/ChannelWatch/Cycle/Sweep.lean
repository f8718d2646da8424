import ChannelWatch.Cycle.Produce

/-!
# Sweeping stored events

A sweep goes through the events without a job reference in the order of their blocks, hands
their jobs to the queue and records how each event ended. All work up to that shares the
time of the sweep; recording is carried through. A supply event waits for a later sweep
while the announcement of its offering was refused in this one.
-/

namespace ChannelWatch
set_option autoImplicit false

/-- How many events a sweep gave a job, found to need none, and left for another try. -/
structure SweepReport where
  scheduled : Nat
  ignored : Nat
  failed : Nat
deriving DecidableEq

namespace SweepReport

/-- The report before the first event. -/
def zero : SweepReport := ⟨0, 0, 0⟩

/-- How many events a sweep went through. -/
def swept (report : SweepReport) : Nat := report.scheduled + report.ignored + report.failed

/-- The report with one more event. -/
def record (report : SweepReport) : Disposition → SweepReport
  | .scheduled _ => { report with scheduled := report.scheduled + 1 }
  | .ignored => { report with ignored := report.ignored + 1 }
  | .failed => { report with failed := report.failed + 1 }

end SweepReport

/-- The jobs of a sweep so far: those that the queue accepted or already had, and those that
it refused or was not offered any more. -/
structure SweepBatch where
  settled : List Job
  unsettled : List Job

/-- What came of the jobs of one event. -/
structure Submission where
  disposition : Disposition
  settled : List Job
  unsettled : List Job

namespace SweepBatch

/-- The batch before the first event. -/
def empty : SweepBatch := ⟨[], []⟩

/-- The batch with the jobs of one more event. -/
def extend (batch : SweepBatch) (submission : Submission) : SweepBatch :=
  ⟨batch.settled ++ submission.settled, batch.unsettled ++ submission.unsettled⟩

/-- The event changes the supply of an offering whose announcement is unsettled. -/
def awaitsAnnouncement (batch : SweepBatch) (event : StoredEvent) : Bool :=
  event.log.kind.any EventKind.changesSupply &&
    (event.log.topic 3).any fun offering =>
      batch.unsettled.any fun job => (job.announced? offering).isSome

end SweepBatch

namespace Cycle

/-- The result of a cycle, errors included. -/
def attempt {α : Type} (cycle : Cycle α) : Cycle (Except CycleError α) :=
  ExceptT.mk (cycle.run.bind fun result => .done (.ok result))

/-- How an event ends whose jobs were all handled. -/
def handled : Option Id → Disposition
  | some job => .scheduled job
  | none => .ignored

/-- Offers jobs in order until one is refused. Jobs that the queue already has count as
handled; the first accepted one decides the job reference. -/
def submit (rateAfter : UInt32) : List Job → Option Id → Cycle Submission
  | [], accepted => pure ⟨handled accepted, [], []⟩
  | job :: jobs, accepted => do
    match ← request .working (.offer job) with
    | .ok id =>
      if job.type = .clientRecordClosing then
        request .final (.countClosing rateAfter)
      let rest ← submit rateAfter jobs (accepted.or (some id))
      pure { rest with settled := job :: rest.settled }
    | .error e =>
      if e.isHandled then
        let rest ← submit rateAfter jobs accepted
        pure { rest with settled := job :: rest.settled }
      else
        pure ⟨.failed, [], job :: jobs⟩

/-- Produces and submits the jobs of an event. -/
def settle (profile : Profile) (event : StoredEvent) (batch : SweepBatch) :
    Cycle Submission := do
  let jobs ← produce profile event batch.settled
  submit profile.rateAfter jobs none

/-- Records how an event ended. -/
def dispose (event : StoredEvent) (disposition : Disposition) : Cycle Unit :=
  transact .final (.disposeEvent event.id disposition)

/-- Goes through events until the watch is cancelled. An event that the sweep runs out of
time with counts as failed. -/
def sweepThrough (profile : Profile) : List StoredEvent → SweepBatch → SweepReport →
    Cycle SweepReport
  | [], _, report => pure report
  | event :: events, batch, report => do
    if ← request .final .isCancelled then pure report
    else if batch.awaitsAnnouncement event then
      dispose event .failed
      sweepThrough profile events batch (report.record .failed)
    else
      match ← attempt (settle profile event batch) with
      | .ok submission =>
        dispose event submission.disposition
        sweepThrough profile events (batch.extend submission)
          (report.record submission.disposition)
      | .error .timedOut =>
        dispose event .failed
        throw .timedOut
      | .error e => throw e

/-- One sweep. -/
def sweep (profile : Profile) : Cycle SweepReport := do
  let events ← transact .reading .unscheduledEvents
  sweepThrough profile events .empty .zero

end Cycle

end ChannelWatch
