import ChannelWatch.Job
import ChannelWatch.Error

/-!
# The job queue

The queue keeps the jobs that it accepted. It refuses a type of job that it was told to
refuse, and a job with the type and the related id of an accepted one, unless repeats of
that type are allowed.
-/

namespace ChannelWatch
set_option autoImplicit false

/-- The accepted jobs with their ids, and how the queue is told to behave. -/
structure Queue where
  jobs : List (Id × Job)
  refusals : List (JobType × QueueError)
  repeatable : List JobType
  failsLookups : Bool
  /-- How long the reply to an offered job takes. -/
  delay : Nat

namespace Queue

/-- A queue that has accepted nothing yet. -/
def empty : Queue := ⟨[], [], [], false, 0⟩

/-- The queue, told to refuse jobs of a type. -/
def refuse (queue : Queue) (type : JobType) (error : QueueError) : Queue :=
  { queue with refusals := (type, error) :: queue.refusals.filter fun entry => entry.1 ≠ type }

/-- The queue, told to accept jobs of a type again. -/
def accept (queue : Queue) (type : JobType) : Queue :=
  { queue with refusals := queue.refusals.filter fun entry => entry.1 ≠ type }

/-- The queue, told that jobs of a type may be repeated. -/
def allowRepeats (queue : Queue) (type : JobType) : Queue :=
  { queue with repeatable := type :: queue.repeatable }

/-- The queue, told whether lookups fail. -/
def failLookups (queue : Queue) (on : Bool) : Queue := { queue with failsLookups := on }

/-- The queue, told how long the reply to an offered job takes. -/
def delayReplies (queue : Queue) (delay : Nat) : Queue := { queue with delay }

/-- The accepted jobs in order. -/
def accepted (queue : Queue) : List Job := queue.jobs.map Prod.snd

/-- The accepted jobs of a type in order. -/
def acceptedOf (queue : Queue) (type : JobType) : List Job :=
  queue.accepted.filter fun job => job.type = type

/-- The id of an accepted job, counted from zero. -/
def jobId? (queue : Queue) (index : Nat) : Option Id := queue.jobs[index]?.map Prod.fst

/-- The queue has a job with the type and the related id of this one. -/
def holds (queue : Queue) (job : Job) : Bool :=
  queue.jobs.any fun (_, accepted) =>
    accepted.type = job.type && accepted.relatedId = job.relatedId

/-- Why the queue refuses a job, if it does. -/
def refusal? (queue : Queue) (job : Job) : Option QueueError :=
  match queue.refusals.lookup job.type with
  | some error => some error
  | none =>
    if !queue.repeatable.contains job.type && queue.holds job then some .duplicated else none

/-- Offers a job to the queue. -/
def add (queue : Queue) (mint : Mint) (job : Job) : Except QueueError Id × Queue × Mint :=
  match queue.refusal? job with
  | some error => (.error error, queue, mint)
  | none =>
    let (id, mint) := mint.next
    (.ok id, { queue with jobs := queue.jobs ++ [(id, job)] }, mint)

/-- The id that an accepted job gave to an offering. -/
def announced? (queue : Queue) (offering : Hash) : Option Id :=
  queue.jobs.findSome? fun (_, job) => job.announced? offering

/-- Looks up the id that an accepted job gave to an offering. -/
def offeringJob (queue : Queue) (offering : Hash) : Except QueueError (Option Id) :=
  if queue.failsLookups then .error (.other "lookup failed") else .ok (queue.announced? offering)

end Queue

end ChannelWatch
