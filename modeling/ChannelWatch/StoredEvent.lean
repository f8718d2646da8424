import ChannelWatch.Log

/-!
# Stored events

A log in the store, with the id of its row and the state of its scheduling: the job that
answers it, the ignored mark if none has to, or how often handing it over has failed.
-/

namespace ChannelWatch
set_option autoImplicit false

/-- A row of the event table. -/
structure StoredEvent where
  id : Id
  log : Log
  jobRef : Option Id
  failures : UInt32
deriving DecidableEq

/-- How the handling of a stored event ended. -/
inductive Disposition where
  /-- The queue accepted a job under this id. -/
  | scheduled (job : Id)
  /-- No job is needed, or the queue has it already. -/
  | ignored
  /-- It has to be tried again. -/
  | failed
deriving DecidableEq

namespace StoredEvent

/-- The event does not wait for a sweep any more. -/
def isScheduled (event : StoredEvent) : Bool := event.jobRef.isSome

/-- The event was found to need no job. -/
def isIgnored (event : StoredEvent) : Bool := event.jobRef = some Id.nil

/-- The row after its handling ended. -/
def dispose (event : StoredEvent) : Disposition → StoredEvent
  | .scheduled job => { event with jobRef := some job }
  | .ignored => { event with jobRef := some Id.nil }
  | .failed => { event with failures := event.failures + 1 }

/-- The JSON form of a row: the members of its log among its own. -/
def toJson (event : StoredEvent) : Json :=
  .object (("id", .ofId event.id) :: event.log.members ++
    [("jobRef", .ofOption Json.ofId event.jobRef), ("failures", .nat event.failures.toNat)])

/-- Reads a row from an object; the job reference may be missing. -/
def ofJson? : Json → Option StoredEvent
  | .object members => do
    let id ← Json.required Json.id? members "id"
    let log ← Log.ofMembers? members
    let jobRef ← Json.optional Json.id? members "jobRef"
    let failures ← Json.required Json.uint32? members "failures"
    some { id, log, jobRef, failures }
  | _ => none

theorem ofJson?_toJson (event : StoredEvent) : ofJson? event.toJson = some event := by
  have topics : Json.list? (Json.octets? 32) (.array (event.log.topics.map Json.ofOctets)) =
      some event.log.topics :=
    Json.list?_map (fun topic => Json.octets?_ofOctets topic) event.log.topics
  have jobRef : Json.nullable Json.id? (.ofOption Json.ofId event.jobRef) = some event.jobRef :=
    Json.nullable_ofOption Json.id?_ofId (fun id => by simp [Json.ofId]) event.jobRef
  simp [ofJson?, toJson, Log.ofMembers?, Log.members, Json.required, Json.optional,
    Json.withDefault, Json.member?_entry, topics, jobRef, Json.bool?]

end StoredEvent

end ChannelWatch
