import ChannelWatch.Proofs.Succession
import ChannelWatch.Timeline.Run

/-!
# The cadence of ratings

Whether a recorded closing updates the ratings is decided when its job is made, and closings
are counted when the queue accepts their jobs. Between the two a job may be refused, repeated
or dropped. `Program.Tallies` says that a sweep counts every closing that it gets accepted, and
at once; so the count at the making of a job is the number of closings that the queue has
accepted before it. The main statement is `ratings_cadence`.
-/

namespace ChannelWatch
set_option autoImplicit false

namespace Desk

variable {desk : Desk} {rateAfter : UInt32}

/-- While less than a period is counted, to count one more does not overflow. -/
theorem toNat_succ_closings (below : desk.closings < rateAfter) :
    (desk.closings + 1).toNat = desk.closings.toNat + 1 := by
  have less : desk.closings.toNat < rateAfter.toNat := UInt32.lt_iff_toNat_lt.1 below
  have bound : rateAfter.toNat < 2 ^ 32 := rateAfter.toNat_lt
  rw [UInt32.toNat_add]
  have one : (1 : UInt32).toNat = 1 := rfl
  omega

/-- Ratings are due with the closing that completes a period. -/
theorem ratingsDue_iff (below : desk.closings < rateAfter) :
    desk.ratingsDue rateAfter = true ↔ rateAfter.toNat ∣ desk.closings.toNat + 1 := by
  have less : desk.closings.toNat < rateAfter.toNat := UInt32.lt_iff_toNat_lt.1 below
  have due : desk.ratingsDue rateAfter = true ↔ rateAfter.toNat ≤ desk.closings.toNat + 1 := by
    rw [ratingsDue, decide_eq_true_iff, UInt32.le_iff_toNat_le, toNat_succ_closings below]
  rw [due]
  constructor
  · intro reached
    have same : rateAfter.toNat = desk.closings.toNat + 1 := by omega
    exact ⟨1, by omega⟩
  · intro divides
    exact Nat.le_of_dvd (Nat.succ_pos _) divides

/-- Closings are counted modulo the period. -/
theorem toNat_countClosing (below : desk.closings < rateAfter) :
    (desk.countClosing rateAfter).closings.toNat =
      (desk.closings.toNat + 1) % rateAfter.toNat := by
  have less : desk.closings.toNat < rateAfter.toNat := UInt32.lt_iff_toNat_lt.1 below
  have due := ratingsDue_iff below
  unfold countClosing
  split
  · rename_i reached
    exact (Nat.mod_eq_zero_of_dvd (due.1 reached)).symm
  · rename_i short
    have apart : rateAfter.toNat ≠ desk.closings.toNat + 1 := fun same =>
      short (due.2 ⟨1, by omega⟩)
    rw [toNat_succ_closings below, Nat.mod_eq_of_lt (by omega)]

end Desk

/-- The request counts a closing. -/
def Request.counts : Request → Bool
  | .countClosing _ => true
  | _ => false

/-- The accepted job that records a closing. -/
def Act.recorded? (act : Act) : Option Job :=
  act.accepted?.filter fun job => job.type = .clientRecordClosing

/-- The jobs that record a closing and were accepted. -/
def recordings (acts : List Act) : List Job := acts.filterMap Act.recorded?

/-- How many closings were counted. -/
def counted (acts : List Act) : Nat := acts.countP fun act => act.request.counts

@[simp] theorem recordings_append (before behind : List Act) :
    recordings (before ++ behind) = recordings before ++ recordings behind := List.filterMap_append

@[simp] theorem counted_append (before behind : List Act) :
    counted (before ++ behind) = counted before + counted behind := List.countP_append

theorem counted_cons (act : Act) (acts : List Act) :
    counted (act :: acts) = counted acts + act.request.counts.toNat := by
  cases counts : act.request.counts <;> simp [counted, counts]

theorem length_recordings_cons (act : Act) (acts : List Act) :
    (recordings (act :: acts)).length = (recordings acts).length + act.recorded?.isSome.toNat := by
  cases recorded : act.recorded? <;> simp [recordings, recorded]

theorem recordings_eq (acts : List Act) :
    recordings acts = (acceptances acts).filter fun job => job.type = .clientRecordClosing :=
  (List.filter_filterMap ..).symm

theorem Site.closings_perform (site : Site) {request : Request} (quiet : request.counts = false) :
    (site.perform request).2.desk.closings = site.desk.closings := by
  rcases site.desk_perform request with ⟨rateAfter, rfl⟩ | ⟨cached, same⟩
  · cases quiet
  · rw [same]

/-- Others do not touch the closings that a watch has counted. -/
theorem Freedom.Stir.closings {freedom : Freedom} {site next : Site} (stir : freedom.Stir site next)
    (spared : ∀ request, freedom.requests request → ¬ request.sweeps)
    (stays : ¬ freedom.rebuilding) : next.desk.closings = site.desk.closings := by
  cases stir with
  | @beside request may =>
    have quiet : request.counts = false := by
      cases request with
      | countClosing => exact absurd trivial (spared _ may)
      | _ => rfl
    exact site.closings_perform quiet
  | rebuilt may => exact absurd may stays
  | _ => rfl

/-- Along the acts of a watch that is not rebuilt its closings are counted modulo the period. -/
theorem Freedom.Joins.closings {freedom : Freedom} {first last : Site} {acts : List Act}
    {rateAfter : UInt32} {count : Nat} (joins : freedom.Joins first acts last)
    (spared : ∀ request, freedom.requests request → ¬ request.sweeps) (stays : ¬ freedom.rebuilding)
    (rated : 0 < rateAfter.toNat)
    (own : ∀ act ∈ acts, act.request.counts = true → act.request = .countClosing rateAfter)
    (start : first.desk.closings.toNat = count % rateAfter.toNat) :
    last.desk.closings.toNat = (count + counted acts) % rateAfter.toNat := by
  induction joins generalizing count with
  | rest site => exact start
  | stir stir _ ih => exact ih own (by rw [stir.closings spared stays, start])
  | act act _ ih =>
    have rest := fun act mem => own act (List.mem_cons_of_mem _ mem)
    cases counts : act.request.counts with
    | false =>
      have same : act.after.desk.closings = act.site.desk.closings :=
        act.site.closings_perform counts
      rw [counted_cons, counts]
      exact ih rest (by rw [same, start])
    | true =>
      have below : act.site.desk.closings < rateAfter := by
        rw [UInt32.lt_iff_toNat_lt, start]
        exact Nat.mod_lt _ rated
      have after : act.after.desk = act.site.desk.countClosing rateAfter := by
        rw [Act.after, own act List.mem_cons_self counts]
        rfl
      have next : act.after.desk.closings.toNat = (count + 1) % rateAfter.toNat := by
        rw [after, Desk.toNat_countClosing below, start, Nat.mod_add_mod]
      rw [ih rest next, counted_cons, counts, Bool.toNat_true]
      congr 1
      omega

/-- What comes of the request is that a job which records a closing was accepted. -/
def Request.records {guard : Guard} (request : Request) (outcome : Outcome guard request.Reply) :
    Bool :=
  match request, outcome with
  | .offer job, .reply (.ok _) => job.type = .clientRecordClosing
  | _, _ => false

/-- A request that was answered recorded a closing if its act did. -/
theorem Request.records_reply (guard : Guard) (site : Site) (request : Request) :
    request.records (.reply (site.perform request).1 : Outcome guard request.Reply) =
      (Act.mk site request).recorded?.isSome := by
  cases request with
  | offer job =>
    cases refusal : site.world.queue.refusal? job with
    | none =>
      rw [Cycle.perform_offer_of_taken refusal]
      by_cases closing : job.type = .clientRecordClosing <;>
        simp [records, Act.recorded?, Act.accepted?, Act.offered?, Queue.takes, refusal,
          Option.filter, closing]
    | some error =>
      rw [Cycle.perform_offer_of_refused refusal]
      simp [records, Act.recorded?, Act.accepted?, Act.offered?, Queue.takes, refusal,
        Option.filter]
  | _ => rfl

namespace Program

variable {α β : Type} {rateAfter : UInt32}

/-- The program counts a closing right after it got one accepted, and only then; `owed` says
whether one is still to be counted. -/
def Tallies (rateAfter : UInt32) : Bool → Program α → Prop
  | owed, .done _ => owed = false
  | true, .ask guard request next =>
    guard = .final ∧ request = .countClosing rateAfter ∧
      ∀ outcome, (next outcome).Tallies rateAfter false
  | false, .ask _ request next =>
    request.counts = false ∧
      ∀ outcome, (next outcome).Tallies rateAfter (request.records outcome)

theorem Tallies.bind {program : Program α} {f : α → Program β} {owed : Bool}
    (first : program.Tallies rateAfter owed) (second : ∀ value, (f value).Tallies rateAfter false) :
    (program.bind f).Tallies rateAfter owed := by
  induction program generalizing owed with
  | done value =>
    obtain rfl : owed = false := first
    exact second value
  | ask guard request next ih =>
    cases owed with
    | true =>
      obtain ⟨final, counting, later⟩ := first
      exact ⟨final, counting, fun outcome => ih outcome (later outcome)⟩
    | false =>
      obtain ⟨quiet, later⟩ := first
      exact ⟨quiet, fun outcome => ih outcome (later outcome)⟩

/-- A program that offers nothing and counts nothing keeps the tally. -/
theorem tallies_of_asks {program : Program α} (asks : program.Asks fun request => ¬ request.submits) :
    program.Tallies rateAfter false := by
  induction program with
  | done value => rfl
  | ask guard request next ih =>
    obtain ⟨quiet, later⟩ := asks
    refine ⟨?_, fun outcome => ?_⟩
    · cases request with
      | countClosing => exact absurd trivial quiet
      | _ => rfl
    · have none : request.records outcome = false := by
        cases request with
        | offer => exact absurd trivial quiet
        | _ => rfl
      rw [none]
      exact ih outcome (later outcome)

/-- The acts of a program that keeps the tally count as many closings as they recorded, but for
one that is still to be counted. -/
theorem Tallies.course {program left : Program α} {acts : List Act} {owed : Bool}
    (tallies : program.Tallies rateAfter owed) (course : program.Course acts left) :
    (∀ act ∈ acts, act.request.counts = true → act.request = .countClosing rateAfter) ∧
      ∃ later, left.Tallies rateAfter later ∧
        (recordings acts).length + owed.toNat = counted acts + later.toNat := by
  induction course generalizing owed with
  | rest program => exact ⟨by simp, owed, tallies, by simp [recordings, counted]⟩
  | @reply guard request next acts left site rest ih =>
    cases owed with
    | true =>
      obtain ⟨-, rfl, after⟩ := tallies
      obtain ⟨own, later, kept, even⟩ := ih (after _)
      refine ⟨?_, later, kept, ?_⟩
      · intro act mem counts
        rcases List.mem_cons.1 mem with rfl | mem
        · rfl
        · exact own act mem counts
      · have none : (Act.mk site (.countClosing rateAfter)).recorded? = none := rfl
        have counts : (Act.mk site (.countClosing rateAfter)).request.counts = true := rfl
        rw [length_recordings_cons, counted_cons, none, counts]
        simp only [Option.isSome_none, Bool.toNat_false, Bool.toNat_true] at even ⊢
        omega
    | false =>
      obtain ⟨quiet, after⟩ := tallies
      obtain ⟨own, later, kept, even⟩ := ih (after _)
      refine ⟨?_, later, kept, ?_⟩
      · intro act mem counts
        rcases List.mem_cons.1 mem with rfl | mem
        · rw [quiet] at counts
          cases counts
        · exact own act mem counts
      · rw [Request.records_reply] at even
        have silent : (Act.mk site request).request.counts = false := quiet
        rw [length_recordings_cons, counted_cons, silent]
        simp only [Bool.toNat_false] at even ⊢
        omega
  | @expire guard request next acts left timed rest ih =>
    cases owed with
    | true =>
      obtain ⟨rfl, -, -⟩ := tallies
      cases timed
    | false =>
      have none : request.records (.expired timed : Outcome guard request.Reply) = false := by
        cases request <;> rfl
      have after := tallies.2 (.expired timed)
      rw [none] at after
      exact ih after
  | @cancel guard request next acts left cancellable rest ih =>
    cases owed with
    | true =>
      obtain ⟨rfl, -, -⟩ := tallies
      cases cancellable
    | false =>
      have none : request.records (.cancelled cancellable : Outcome guard request.Reply) = false := by
        cases request <;> rfl
      have after := tallies.2 (.cancelled cancellable)
      rw [none] at after
      exact ih after

/-- The program is done, or has to wait before it goes on: elsewhere it does not stop. -/
def MayStop : Program α → Prop
  | .done _ => True
  | .ask _ request _ => request.hurdles ≠ []

/-- Where a program may stop, nothing is still to be counted. -/
theorem Tallies.even {program : Program α} {owed : Bool} (tallies : program.Tallies rateAfter owed)
    (stops : program.MayStop) : owed = false := by
  cases program with
  | done value => exact tallies
  | ask guard request next =>
    cases owed with
    | false => rfl
    | true =>
      obtain ⟨-, rfl, -⟩ := tallies
      exact absurd rfl stops

/-- Before an act that counts nothing, all recorded closings are counted. -/
theorem Tallies.even_before {program left : Program α} {before behind : List Act} {act : Act}
    (tallies : program.Tallies rateAfter false)
    (course : program.Course (before ++ act :: behind) left) (quiet : act.request.counts = false) :
    (recordings before).length = counted before := by
  obtain ⟨middle, start, rest⟩ := course.of_append
  obtain ⟨-, owed, kept, even⟩ := tallies.course start
  cases owed with
  | false => simpa using even
  | true =>
    generalize all : act :: behind = acts at rest
    induction rest with
    | rest => cases all
    | reply site =>
      obtain ⟨rfl, -⟩ := List.cons.inj all
      obtain ⟨-, rfl, -⟩ := kept
      cases quiet
    | expire timed =>
      obtain ⟨rfl, -, -⟩ := kept
      cases timed
    | cancel cancellable =>
      obtain ⟨rfl, -, -⟩ := kept
      cases cancellable

end Program

namespace Cycle

variable {α β : Type} {rateAfter : UInt32}

theorem tallies_bind {cycle : Cycle α} {f : α → Cycle β} {owed : Bool}
    (first : cycle.run.Tallies rateAfter owed)
    (second : ∀ value, (f value).run.Tallies rateAfter false) :
    (cycle >>= f).run.Tallies rateAfter owed := by
  rw [run_bind]
  apply first.bind
  intro result
  cases result with
  | ok value => exact second value
  | error e => exact rfl

/-- A job that was accepted is counted before anything else is done. -/
theorem tallies_tally (job : Job) {f : Unit → Cycle β}
    (later : (f ()).run.Tallies rateAfter false) :
    (tally rateAfter job >>= f).run.Tallies rateAfter (job.type = .clientRecordClosing) := by
  apply tallies_bind _ fun _ => later
  unfold tally
  split
  · rename_i closing
    rw [decide_eq_true closing]
    refine ⟨rfl, rfl, fun outcome => ?_⟩
    cases outcome <;> rfl
  · rename_i other
    rw [decide_eq_false other]
    rfl

theorem tallies_submit (jobs : List Job) (accepted : Option Id) :
    (submit rateAfter jobs accepted).run.Tallies rateAfter false := by
  induction jobs generalizing accepted with
  | nil => rfl
  | cons job jobs ih =>
    rw [submit_cons, run_bind]
    refine ⟨rfl, fun outcome => ?_⟩
    cases outcome with
    | reply reply =>
      cases reply with
      | ok id => exact tallies_tally job (tallies_bind (ih _) fun _ => rfl)
      | error e =>
        show Program.Tallies rateAfter false (ExceptT.run (if e.isHandled then _ else _))
        split
        · exact tallies_bind (ih _) fun _ => rfl
        · rfl
    | expired timed => rfl
    | cancelled cancellable => rfl

theorem tallies_of_looks {cycle : Cycle α} {kind : Request → Prop} (asks : cycle.Asks kind)
    (quiet : ∀ request, kind request → ¬ request.submits) : cycle.run.Tallies rateAfter false :=
  Program.tallies_of_asks (asks.mono quiet)

theorem tallies_settle (profile : Profile) (event : StoredEvent) (batch : SweepBatch) :
    (settle profile event batch).run.Tallies profile.rateAfter false := by
  apply tallies_bind
  · apply tallies_of_looks (produce_asks profile event batch.settled)
    intro request looks submits
    cases request with
    | offer | countClosing => cases looks
    | _ => cases submits
  · intro jobs
    exact tallies_submit jobs none

theorem tallies_sweepThrough (profile : Profile) (events : List StoredEvent) (batch : SweepBatch)
    (report : SweepReport) :
    (sweepThrough profile events batch report).run.Tallies profile.rateAfter false := by
  have note : ∀ (event : StoredEvent) disposition,
      (dispose event disposition).run.Tallies profile.rateAfter false := fun event disposition =>
    Program.tallies_of_asks (asks_transact _ id)
  induction events generalizing batch report with
  | nil => rfl
  | cons event events ih =>
    rw [sweepThrough]
    apply tallies_bind (Program.tallies_of_asks (asks_request _ id))
    intro cancelled
    split
    · rfl
    split
    · exact tallies_bind (note _ _) fun _ => ih _ _
    · have attempted : (attempt (settle profile event batch)).run.Tallies profile.rateAfter false :=
        (tallies_settle profile event batch).bind fun _ => rfl
      apply tallies_bind attempted
      intro result
      split
      · exact tallies_bind (note _ _) fun _ => ih _ _
      · exact tallies_bind (note _ _) fun _ => rfl
      · rfl

theorem tallies_sweep (profile : Profile) :
    (sweep profile).run.Tallies profile.rateAfter false :=
  tallies_bind (Program.tallies_of_asks (asks_transact _ id)) fun _ => tallies_sweepThrough _ _ _ _

end Cycle

/-- A job that records a closing is for a client's event of a closed channel. -/
theorem closing_of_mem_calledFor {profile : Profile} {log : Log}
    (called : .clientRecordClosing ∈ calledFor profile log) :
    profile.role = .client ∧ ∃ kind : ClosingKind, log.kind = some kind.event := by
  unfold calledFor at called
  generalize profile.role = role at called ⊢
  generalize log.kind = kind? at called ⊢
  rcases kind? with _ | kind
  · cases role <;> cases called
  · cases role <;> cases kind <;>
      simp only [entityJob, Option.toList, List.mem_cons, List.not_mem_nil, or_false, reduceCtorEq,
        or_true] at called
    case agent.transfer => split at called <;> cases called
    case client.transfer => split at called <;> cases called
    case client.cooperativeClose => exact ⟨rfl, .cooperative, rfl⟩
    case client.uncooperativeClose => exact ⟨rfl, .uncooperative, rfl⟩

namespace Cycle

variable {acts : List Act} {event : StoredEvent} {jobs : List Job} {job : Job}

/-- The job that records a closing says whether ratings were due when it was made. -/
theorem closingJobs_due {rateAfter : UInt32} {kind : ClosingKind}
    (given : (closingJobs rateAfter event kind).Gives acts jobs) (mem : job ∈ jobs) :
    ∃ before site behind payload, acts = before ++ ⟨site, .ratingsDue rateAfter⟩ :: behind ∧
      job.payload? = some payload ∧ payload.updateRatings = site.desk.ratingsDue rateAfter := by
  unfold closingJobs at given
  split at given
  · obtain ⟨id, before, _, rfl, -, given₁⟩ := gives_bind_iff.1 given
    obtain ⟨due, asking, behind, rfl, asked, given₂⟩ := gives_bind_iff.1 given₁
    obtain ⟨relatedId, drawing, last, rfl, -, given₃⟩ := gives_bind_iff.1 given₂
    obtain ⟨site, rfl, answer⟩ := gives_request_iff.1 asked
    obtain ⟨rfl, rfl⟩ := gives_pure_iff.1 given₃
    rw [List.mem_singleton.1 mem]
    exact ⟨before, site, _, _, rfl, Job.payload?_withPayload .., answer.symm⟩
  · obtain ⟨rfl, rfl⟩ := gives_pure_iff.1 given
    cases mem

theorem clientClosed_due {rateAfter : UInt32} {kind : ClosingKind} {batch : List Job}
    (known : event.log.kind = some kind.event)
    (given : (clientClosed rateAfter event kind.event kind batch).Gives acts jobs)
    (mem : job ∈ jobs) (closing : job.type = .clientRecordClosing) :
    ∃ before site behind payload, acts = before ++ ⟨site, .ratingsDue rateAfter⟩ :: behind ∧
      job.payload? = some payload ∧ payload.updateRatings = site.desk.ratingsDue rateAfter := by
  simp only [clientClosed, gives_bind_iff, gives_pure_iff] at given
  obtain ⟨channel, first, _, rfl, entity, record, second, _, rfl, recorded, supply, third, _, rfl,
    changed, rfl, rfl⟩ := given
  have entity := channelJobs_made known (by cases kind <;> rfl) (.inl rfl) entity
  have changed := supplyJobs_made rfl changed
  have apart : ∀ {types acts made}, Made event types acts made → .clientRecordClosing ∉ types →
      job ∉ made := fun made none mem =>
    none (closing ▸ made.types.subset (List.mem_map_of_mem mem))
  simp only [List.mem_append] at mem
  rcases mem with (mem | mem) | mem
  · exact absurd mem (apart entity (by cases kind <;> decide))
  · obtain ⟨before, site, behind, payload, rfl, read, due⟩ := closingJobs_due recorded mem
    exact ⟨first ++ before, site, behind ++ third, payload, by simp, read, due⟩
  · exact absurd mem (apart changed (by decide))

theorem produce_due {profile : Profile} {batch : List Job}
    (given : (produce profile event batch).Gives acts jobs) (mem : job ∈ jobs)
    (closing : job.type = .clientRecordClosing) :
    ∃ before site behind payload,
      acts = before ++ ⟨site, .ratingsDue profile.rateAfter⟩ :: behind ∧
      job.payload? = some payload ∧
      payload.updateRatings = site.desk.ratingsDue profile.rateAfter := by
  have called := (produce_made given).types.subset (List.mem_map_of_mem mem)
  rw [closing] at called
  obtain ⟨client, kind, known⟩ := closing_of_mem_calledFor called
  unfold produce at given
  rw [known, client] at given
  cases kind <;> exact clientClosed_due known given mem closing

end Cycle

/-- The sweep of the round was left where it may stop. -/
def Round.Stopped (round : Round) : Prop :=
  ∃ left, (Cycle.sweep round.profile).run.Course round.acts left ∧ left.MayStop

/-- Sweeps that have stopped counted every closing that they recorded. -/
theorem length_recordings_of_stopped {rounds : List Round}
    (stopped : ∀ round ∈ rounds, round.Stopped) :
    (recordings (actsOf rounds)).length = counted (actsOf rounds) := by
  induction rounds with
  | nil => rfl
  | cons round rounds ih =>
    have rest := ih fun round mem => stopped round (List.mem_cons_of_mem _ mem)
    obtain ⟨left, course, stop⟩ := stopped round List.mem_cons_self
    obtain ⟨-, owed, kept, even⟩ := (Cycle.tallies_sweep round.profile).course course
    rw [kept.even stop] at even
    simp only [Bool.toNat_false, Nat.add_zero] at even
    rw [actsOf_cons, recordings_append, counted_append, List.length_append, even, rest]

/-- A member of a filtered list, with what stands before it. -/
theorem split_of_getElem?_filterMap {α β : Type} {f : α → Option β} {list : List α} {k : Nat}
    {value : β} (found : (list.filterMap f)[k]? = some value) :
    ∃ before head behind, list = before ++ head :: behind ∧ f head = some value ∧
      (before.filterMap f).length = k := by
  induction list generalizing k with
  | nil => cases found
  | cons head list ih =>
    cases kept : f head with
    | none =>
      rw [List.filterMap_cons_none kept] at found
      obtain ⟨before, taken, behind, rfl, given, length⟩ := ih found
      exact ⟨head :: before, taken, behind, rfl, given, by rw [List.filterMap_cons_none kept, length]⟩
    | some first =>
      rw [List.filterMap_cons_some kept] at found
      cases k with
      | zero => exact ⟨[], head, list, rfl, kept.trans found, rfl⟩
      | succ k =>
        obtain ⟨before, taken, behind, rfl, given, length⟩ := ih found
        refine ⟨head :: before, taken, behind, rfl, given, ?_⟩
        rw [List.filterMap_cons_some kept, List.length_cons, length]

theorem Act.recorded?_eq_some {act : Act} {job : Job} (recorded : act.recorded? = some job) :
    ∃ site, act = ⟨site, .offer job⟩ ∧ job.type = .clientRecordClosing := by
  obtain ⟨accepted, closing⟩ := Option.filter_eq_some_iff.1 recorded
  obtain ⟨site, rfl, -⟩ := Act.accepted?_eq_some accepted
  exact ⟨site, rfl, of_decide_eq_true closing⟩

theorem recordings_of_looks {acts : List Act} (looks : ∀ act ∈ acts, act.request.looks) :
    recordings acts = [] := by
  apply List.filterMap_eq_nil_iff.2
  intro act mem
  rw [Act.recorded?, Act.accepted?, Act.offered?_of_looks (looks act mem)]
  rfl

/-- Between the question whether ratings are due and the offer of the job that carries the answer,
no other closing is recorded. -/
theorem Cycle.sweep_at_recording {profile : Profile} {before behind : List Act} {site : Site}
    {job : Job} {left : Program (Except CycleError SweepReport)}
    (course : (sweep profile).run.Course (before ++ ⟨site, .offer job⟩ :: behind) left)
    (closing : job.type = .clientRecordClosing) :
    ∃ front asked rest payload,
      before = front ++ ⟨asked, .ratingsDue profile.rateAfter⟩ :: rest ∧ recordings rest = [] ∧
      job.payload? = some payload ∧
      payload.updateRatings = asked.desk.ratingsDue profile.rateAfter := by
  obtain ⟨event, turn, earlier, own, last, left, rfl, settling⟩ := sweep_settling course
  obtain ⟨made, offered, jobs, rfl, -, given, front⟩ := settle_at_offer settling
  have among : job ∈ jobs := front.subset (by simp)
  obtain ⟨first, asked, rest, payload, rfl, read, due⟩ := produce_due given among closing
  have looks := given.asked (produce_asks _ _ _)
  refine ⟨earlier ++ first, asked, rest ++ offered, payload, by simp, ?_, read, due⟩
  rw [recordings_append, recordings_of_looks fun act mem => looks act (by simp [mem]),
    List.nil_append]
  -- The jobs of an event are of different types, and this one comes last of those offered.
  have types : ((offers offered ++ [job]).map Job.type).Nodup :=
    ((front.sublist.map _).trans (produce_made given).types).nodup (nodup_calledFor _ _)
  rw [List.map_append, List.nodup_append] at types
  apply List.filterMap_eq_nil_iff.2
  intro act mem
  cases recorded : act.recorded? with
  | none => rfl
  | some other =>
    obtain ⟨site, rfl, same⟩ := Act.recorded?_eq_some recorded
    have earlier : other ∈ offers offered := List.mem_filterMap.2 ⟨_, mem, rfl⟩
    exact absurd (same.trans closing.symm)
      (types.2.2 _ (List.mem_map_of_mem earlier) _ (by simp))

namespace Succession

variable {rateAfter : UInt32} {start last : Site} {rounds : List Round}

/-- The sweeps of one watch count closings towards its period. -/
theorem counts (run : Succession Cycle.sweep withinSweep start rounds last)
    (rate : ∀ round ∈ rounds, round.profile.rateAfter = rateAfter) :
    ∀ act ∈ actsOf rounds, act.request.counts = true → act.request = .countClosing rateAfter := by
  intro act mem
  obtain ⟨round, among, mem⟩ := List.mem_flatMap.1 mem
  obtain ⟨left, course⟩ := run.courses round among
  have own := ((Cycle.tallies_sweep round.profile).course course).1 act mem
  rwa [rate round among] at own

/-- The closings at a site of a run are those that were counted on the way to it, modulo the
period. -/
theorem closings (run : Succession Cycle.sweep withinSweep start rounds last)
    (rate : ∀ round ∈ rounds, round.profile.rateAfter = rateAfter) (rated : 1 ≤ rateAfter)
    (fresh : start.desk.closings = 0) {acts behind : List Act} {site : Site}
    (parts : actsOf rounds = acts ++ behind) (joins : withinSweep.Joins start acts site) :
    site.desk.closings < rateAfter ∧
      site.desk.closings.toNat = counted acts % rateAfter.toNat := by
  have positive : 0 < rateAfter.toNat := UInt32.le_iff_toNat_le.1 rated
  have own : ∀ act ∈ acts, act.request.counts = true → act.request = .countClosing rateAfter := by
    intro act mem
    apply run.counts rate
    rw [parts]
    exact List.mem_append_left _ mem
  have none : start.desk.closings.toNat = 0 % rateAfter.toNat := by
    rw [fresh, Nat.zero_mod]
    rfl
  have reached := joins.closings Freedom.within_spares id positive own none
  rw [Nat.zero_add] at reached
  refine ⟨?_, reached⟩
  rw [UInt32.lt_iff_toNat_lt, reached]
  exact Nat.mod_lt _ positive

/-- When it was asked whether ratings are due, as many closings had been counted as are recorded
in front of the job that carries the answer. -/
theorem at_recording (run : Succession Cycle.sweep withinSweep start rounds last)
    (stopped : ∀ round ∈ rounds.dropLast, round.Stopped)
    (rate : ∀ round ∈ rounds, round.profile.rateAfter = rateAfter) {before behind : List Act}
    {act : Act} {job : Job} (parts : actsOf rounds = before ++ act :: behind)
    (recorded : act.recorded? = some job) :
    ∃ front asked rest payload, actsOf rounds = front ++ ⟨asked, .ratingsDue rateAfter⟩ :: rest ∧
      counted front = (recordings before).length ∧ job.payload? = some payload ∧
      payload.updateRatings = asked.desk.ratingsDue rateAfter := by
  obtain ⟨site, rfl, closing⟩ := Act.recorded?_eq_some recorded
  obtain ⟨earlier, round, later, own, rest, rfl, acts, rfl, rfl⟩ := split_actsOf parts
  obtain ⟨left, course⟩ := run.courses round (by simp)
  rw [acts] at course
  obtain ⟨front, asked, between, payload, rfl, quiet, read, due⟩ :=
    Cycle.sweep_at_recording course closing
  have within : (recordings front).length = counted front := by
    rw [List.append_assoc] at course
    exact (Cycle.tallies_sweep round.profile).even_before course rfl
  have sofar : (recordings (actsOf earlier)).length = counted (actsOf earlier) := by
    apply length_recordings_of_stopped
    intro round mem
    apply stopped
    rw [List.dropLast_append_cons]
    exact List.mem_append_left _ mem
  have asking : (Act.mk asked (.ratingsDue round.profile.rateAfter)).recorded? = none := rfl
  rw [rate round (by simp)] at acts parts asking due
  refine ⟨actsOf earlier ++ front, asked, between ++ ⟨site, .offer job⟩ :: (rest ++ actsOf later),
    payload, by rw [parts]; simp, ?_, read, due⟩
  rw [counted_append, ← sofar, ← within, recordings_append, recordings_append, List.length_append,
    List.length_append, rate round (by simp), length_recordings_cons, quiet, asking]
  rfl

end Succession

/-- The closings of a watch update ratings once in a period: the job that records the k-th of them
says so if and only if the period divides k. What is counted stays below the period. -/
theorem ratings_cadence {rateAfter : UInt32} {start last : Site} {rounds : List Round}
    (run : Succession Cycle.sweep withinSweep start rounds last)
    (stopped : ∀ round ∈ rounds.dropLast, round.Stopped)
    (rate : ∀ round ∈ rounds, round.profile.rateAfter = rateAfter) (rated : 1 ≤ rateAfter)
    (fresh : start.desk.closings = 0) :
    (∃ recorded, last.world.queue.acceptedOf .clientRecordClosing =
        start.world.queue.acceptedOf .clientRecordClosing ++ recorded ∧
      ∀ k job, recorded[k]? = some job → ∃ payload, job.payload? = some payload ∧
        (payload.updateRatings = true ↔ rateAfter.toNat ∣ k + 1)) ∧
    last.desk.closings < rateAfter ∧
    (last.desk.closings + 1).toNat = last.desk.closings.toNat + 1 := by
  have below := (run.closings rate rated fresh (List.append_nil _).symm run.joins).1
  refine ⟨⟨recordings (actsOf rounds), ?_, ?_⟩, below, Desk.toNat_succ_closings below⟩
  · rw [Queue.acceptedOf, run.joins.accepted Freedom.within_spares, List.filter_append,
      recordings_eq]
    rfl
  · intro k job found
    obtain ⟨before, act, behind, parts, recorded, place⟩ := split_of_getElem?_filterMap found
    obtain ⟨front, asked, rest, payload, split, count, read, due⟩ :=
      run.at_recording stopped rate parts recorded
    have joins := run.joins
    rw [split] at joins
    obtain ⟨under, closings⟩ := run.closings rate rated fresh split joins.at.1
    have place : counted front = k := count.trans place
    refine ⟨payload, read, ?_⟩
    rw [due, Desk.ratingsDue_iff under, closings, place, Nat.dvd_iff_mod_eq_zero, Nat.mod_add_mod,
      ← Nat.dvd_iff_mod_eq_zero]

namespace Sample

/-- A client whose ratings are updated with every second closing. -/
def rated : Profile := { client with rateAfter := 2 }

/-- The sweep of the closing while the queue is down for changes of supply. -/
def recorded : Program.Solo (Except CycleError SweepReport) := (Cycle.sweep rated).run.alone down

/-- The sweep after the queue is up again. -/
def recordedAgain : Program.Solo (Except CycleError SweepReport) :=
  (Cycle.sweep rated).run.alone (told recorded.last fun queue => queue.accept .incrementSupply)

theorem recordings : Succession Cycle.sweep withinSweep down
    [⟨rated, recorded.acts⟩, ⟨rated, recordedAgain.acts⟩] recordedAgain.last := by
  have series : Series Cycle.sweep withinSweep withinSweep down
      [⟨rated, recorded.acts⟩, ⟨rated, recordedAgain.acts⟩] recordedAgain.last :=
    .alone rated (.stir (.queue trivial (.accept .incrementSupply)) (.alone rated (.rest _)))
  exact series.succession ⟨fun _ may => may, fun _ _ may => may, id, id⟩
    ⟨fun _ may => may, fun _ _ may => may, id, id⟩

end Sample

/-- The closing is recorded twice, and the second record updates the ratings. -/
theorem ratings_of_second_closing :
    ∃ first second, Sample.recordedAgain.last.world.queue.acceptedOf .clientRecordClosing =
        [first, second] ∧
      (∃ payload, first.payload? = some payload ∧ payload.updateRatings = false) ∧
      ∃ payload, second.payload? = some payload ∧ payload.updateRatings = true := by
  have stopped : ∀ round ∈ [(⟨Sample.rated, Sample.recorded.acts⟩ : Round)], round.Stopped := by
    intro round mem
    rw [List.mem_singleton.1 mem]
    exact ⟨_, Program.alone_course _ Sample.down, trivial⟩
  have rate : ∀ round ∈ [(⟨Sample.rated, Sample.recorded.acts⟩ : Round),
      ⟨Sample.rated, Sample.recordedAgain.acts⟩], round.profile.rateAfter = 2 := by
    simp [Sample.rated]
  obtain ⟨⟨recorded, accepted, due⟩, -⟩ :=
    ratings_cadence Sample.recordings stopped rate (by decide) (by decide +kernel)
  have none : Sample.down.world.queue.acceptedOf .clientRecordClosing = [] := by rfl
  have two : (Sample.recordedAgain.last.world.queue.acceptedOf .clientRecordClosing).length = 2 := by
    decide +kernel
  rw [none, List.nil_append] at accepted
  rw [accepted] at two ⊢
  obtain ⟨first, second, rfl⟩ := List.length_eq_two.1 two
  obtain ⟨payload, read, iff⟩ := due 0 first rfl
  obtain ⟨payload', read', iff'⟩ := due 1 second rfl
  refine ⟨first, second, rfl, ⟨payload, read, ?_⟩, payload', read', iff'.2 (by decide)⟩
  exact Bool.eq_false_iff.2 (mt iff.1 (by decide))

end ChannelWatch
