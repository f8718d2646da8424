import Mathlib.Data.List.Perm.Basic
import ChannelWatch.Proofs.Holding

/-!
# Jobs and what the queue answers

What comes of the jobs of an event depends on nothing but the replies of the queue, in the way that
`Submission.ComesOf` says. Along a sweep each job that was made goes to one of the two lists of its
batch. The main statement is `submission_follows_answers`.
-/

namespace ChannelWatch
set_option autoImplicit false

/-- A job that was offered, and what the queue replied. -/
structure Answer where
  job : Job
  reply : Except QueueError Id

namespace Answer

/-- The queue had the job already. -/
def Known (answer : Answer) : Prop :=
  answer.reply = .error .duplicated ∨ answer.reply = .error .alreadyProcessing

/-- The queue accepted the job, or had it already. -/
def Handled (answer : Answer) : Prop := (∃ id, answer.reply = .ok id) ∨ answer.Known

/-- The queue refused the job, and did not have it. -/
def Refused (answer : Answer) : Prop :=
  answer.reply = .error .closed ∨ ∃ text, answer.reply = .error (.other text)

/-- The id under which the queue accepted the job. -/
def id? (answer : Answer) : Option Id := answer.reply.toOption

theorem id?_eq_some_iff {answer : Answer} {id : Id} :
    answer.id? = some id ↔ answer.reply = .ok id := by
  unfold id?
  cases answer.reply <;> simp [Except.toOption]

theorem handled_or_refused (answer : Answer) : answer.Handled ∨ answer.Refused := by
  obtain ⟨job, reply⟩ := answer
  cases reply with
  | ok id => exact .inl (.inl ⟨id, rfl⟩)
  | error e =>
    cases e with
    | duplicated => exact .inl (.inr (.inl rfl))
    | alreadyProcessing => exact .inl (.inr (.inr rfl))
    | closed => exact .inr (.inl rfl)
    | other text => exact .inr (.inr ⟨text, rfl⟩)

theorem not_refused_of_handled (answer : Answer) (handled : answer.Handled) : ¬ answer.Refused := by
  rintro (closed | ⟨text, other⟩) <;> simp_all [Handled, Known]

theorem Known.id?_eq_none {answer : Answer} (known : answer.Known) : answer.id? = none := by
  rcases known with same | same <;> simp [id?, same, Except.toOption]

theorem Handled.known {answer : Answer} (handled : answer.Handled) (none : answer.id? = none) :
    answer.Known := by
  rcases handled with ⟨id, accepted⟩ | known
  · rw [id?_eq_some_iff.2 accepted] at none
    cases none
  · exact known

end Answer

/-- What comes of jobs for which the queue gives these answers. -/
inductive Submission.ComesOf : Submission → List Job → List Answer → Prop where
  /-- A job is refused: those in front were handled, and those behind are not offered. -/
  | failed {front : List Answer} {last : Answer} (rest : List Job)
      (handled : ∀ answer ∈ front, answer.Handled) (refused : last.Refused) :
      ComesOf ⟨.failed, front.map Answer.job, last.job :: rest⟩
        (front.map Answer.job ++ last.job :: rest) (front ++ [last])
  /-- All jobs are handled, and the first one that is accepted gives its id. -/
  | scheduled {front behind : List Answer} {first : Answer} {id : Id}
      (known : ∀ answer ∈ front, answer.Known) (accepted : first.reply = .ok id)
      (handled : ∀ answer ∈ behind, answer.Handled) :
      ComesOf ⟨.scheduled id, (front ++ first :: behind).map Answer.job, []⟩
        ((front ++ first :: behind).map Answer.job) (front ++ first :: behind)
  /-- The queue has all jobs already. -/
  | ignored {answers : List Answer} (known : ∀ answer ∈ answers, answer.Known) :
      ComesOf ⟨.ignored, answers.map Answer.job, []⟩ (answers.map Answer.job) answers

/-- What comes of jobs for which the queue gives these answers, where another job may have been
accepted before: that one keeps the reference, so the induction on the jobs has to know of it. -/
inductive Submission.Ends (accepted : Option Id) : Submission → List Job → List Answer → Prop where
  | refused {front : List Answer} {last : Answer} (rest : List Job)
      (handled : ∀ answer ∈ front, answer.Handled) (refused : last.Refused) :
      Ends accepted ⟨.failed, front.map Answer.job, last.job :: rest⟩
        (front.map Answer.job ++ last.job :: rest) (front ++ [last])
  | handled {answers : List Answer} (handled : ∀ answer ∈ answers, answer.Handled) :
      Ends accepted
        ⟨Cycle.handled (accepted.or (answers.findSome? Answer.id?)), answers.map Answer.job, []⟩
        (answers.map Answer.job) answers

namespace Submission

variable {accepted : Option Id} {submission : Submission} {job : Job} {jobs : List Job}
  {given : List Answer}

/-- One more job in front is handled, or it is refused. -/
theorem ends_cons_iff : submission.Ends accepted (job :: jobs) given ↔
    ∃ answer behind, given = answer :: behind ∧ answer.job = job ∧
      ((answer.Handled ∧ ∃ rest : Submission, rest.Ends (accepted.or answer.id?) jobs behind ∧
          submission = { rest with settled := job :: rest.settled }) ∨
        (answer.Refused ∧ behind = [] ∧ submission = ⟨.failed, [], job :: jobs⟩)) := by
  constructor
  · intro ends
    generalize all : job :: jobs = offered at ends
    cases ends with
    | @refused front last rest handled refused =>
      cases front with
      | nil =>
        obtain ⟨rfl, rfl⟩ := List.cons.inj all
        exact ⟨last, [], rfl, rfl, .inr ⟨refused, rfl, rfl⟩⟩
      | cons answer front =>
        obtain ⟨rfl, rfl⟩ := List.cons.inj all
        obtain ⟨first, later⟩ := List.forall_mem_cons.1 handled
        exact ⟨answer, _, rfl, rfl, .inl ⟨first, _, .refused rest later refused, rfl⟩⟩
    | handled handled =>
      cases given with
      | nil => cases all
      | cons answer behind =>
        obtain ⟨rfl, rfl⟩ := List.cons.inj all
        obtain ⟨first, later⟩ := List.forall_mem_cons.1 handled
        refine ⟨answer, behind, rfl, rfl, .inl ⟨first, _, .handled later, ?_⟩⟩
        rw [Option.or_assoc, List.findSome?_cons]
        cases answer.id? <;> rfl
  · rintro ⟨answer, behind, rfl, rfl, ⟨first, rest, ends, rfl⟩ | ⟨refused, rfl, rfl⟩⟩
    · cases ends with
      | @refused front last rest handled refused =>
        exact @Ends.refused accepted (answer :: front) last rest
          (List.forall_mem_cons.2 ⟨first, handled⟩) refused
      | handled handled =>
        have ends : Ends accepted _ _ (answer :: behind) :=
          .handled (List.forall_mem_cons.2 ⟨first, handled⟩)
        rw [List.findSome?_cons] at ends
        rw [Option.or_assoc]
        cases named : answer.id? <;> rw [named] at ends <;> exact ends
    · exact @Ends.refused accepted [] answer jobs (by simp) refused

theorem comesOf_iff_ends : submission.ComesOf jobs given ↔ submission.Ends none jobs given := by
  constructor
  · intro comesOf
    cases comesOf with
    | failed rest handled refused => exact .refused rest handled refused
    | @scheduled front behind first id known accepted handled =>
      have all : ∀ answer ∈ front ++ first :: behind, answer.Handled := by
        simp only [List.forall_mem_append, List.forall_mem_cons]
        exact ⟨fun answer mem => .inr (known answer mem), .inl ⟨id, accepted⟩, handled⟩
      have named : (front ++ first :: behind).findSome? Answer.id? = some id :=
        List.findSome?_eq_some_iff.2 ⟨front, first, behind, rfl, Answer.id?_eq_some_iff.2 accepted,
          fun answer mem => (known answer mem).id?_eq_none⟩
      have ends : Ends none _ _ (front ++ first :: behind) := .handled all
      rwa [named] at ends
    | ignored known =>
      have unnamed : given.findSome? Answer.id? = none :=
        List.findSome?_eq_none_iff.2 fun answer mem => (known answer mem).id?_eq_none
      have ends : Ends none _ _ given := .handled fun answer mem => .inr (known answer mem)
      rwa [unnamed] at ends
  · intro ends
    cases ends with
    | refused rest handled refused => exact .failed rest handled refused
    | handled handled =>
      rw [Option.none_or]
      cases named : given.findSome? Answer.id? with
      | none =>
        exact .ignored fun answer mem =>
          (handled answer mem).known (List.findSome?_eq_none_iff.1 named answer mem)
      | some id =>
        obtain ⟨front, first, behind, rfl, accepted, unnamed⟩ := List.findSome?_eq_some_iff.1 named
        simp only [List.forall_mem_append, List.forall_mem_cons] at handled
        exact .scheduled (fun answer mem => (handled.1 answer mem).known (unnamed answer mem))
          (Answer.id?_eq_some_iff.1 accepted) handled.2.2

/-- Whatever the queue replies, jobs come to an end. -/
theorem exists_ends (accepted : Option Id) (jobs : List Job) (replies : Nat → Except QueueError Id) :
    ∃ (given : List Answer) (submission : Submission), submission.Ends accepted jobs given ∧
      ∀ (place : Nat) answer, given[place]? = some answer → answer.reply = replies place := by
  induction jobs generalizing accepted replies with
  | nil => exact ⟨[], _, .handled (List.forall_mem_nil _), by simp⟩
  | cons job jobs ih =>
    have inFront : ∀ {behind : List Answer},
        (∀ (place : Nat) answer, behind[place]? = some answer → answer.reply = replies (place + 1)) →
        ∀ (place : Nat) answer, (Answer.mk job (replies 0) :: behind)[place]? = some answer →
          answer.reply = replies place := by
      intro behind replied place answer found
      cases place with
      | zero =>
        obtain rfl : Answer.mk job (replies 0) = answer := by simpa using found
        rfl
      | succ place => exact replied place answer (by simpa using found)
    rcases (Answer.mk job (replies 0)).handled_or_refused with handled | refused
    · obtain ⟨behind, rest, ends, replied⟩ :=
        ih (accepted.or (Answer.mk job (replies 0)).id?) fun place => replies (place + 1)
      exact ⟨_, _, ends_cons_iff.2 ⟨_, behind, rfl, rfl, .inl ⟨handled, rest, ends, rfl⟩⟩,
        inFront replied⟩
    · exact ⟨_, _, ends_cons_iff.2 ⟨_, [], rfl, rfl, .inr ⟨refused, rfl, rfl⟩⟩,
        inFront (by simp)⟩

/-- Which answers are given does not depend on what was accepted before. -/
theorem Ends.with_accepted (ends : submission.Ends accepted jobs given) (other : Option Id) :
    ∃ submission : Submission, submission.Ends other jobs given := by
  cases ends with
  | refused rest handled refused => exact ⟨_, .refused rest handled refused⟩
  | handled handled => exact ⟨_, .handled handled⟩

end Submission

/-- The answer to a job that is offered at a site. -/
def Site.answer (site : Site) (job : Job) : Answer := ⟨job, (site.perform (.offer job)).1⟩

/-- The job that was offered, and what the queue replied. -/
def Act.answer? (act : Act) : Option Answer :=
  match act.request with
  | .offer job => some (act.site.answer job)
  | _ => none

/-- The jobs that acts offered, in order, and what the queue replied. -/
def answers (acts : List Act) : List Answer := acts.filterMap Act.answer?

@[simp] theorem answers_append (before behind : List Act) :
    answers (before ++ behind) = answers before ++ answers behind := List.filterMap_append

theorem Act.map_job_answer? (act : Act) : act.answer?.map Answer.job = act.offered? := by
  obtain ⟨site, request⟩ := act
  cases request <;> rfl

theorem answers_of_offers {acts : List Act} (none : offers acts = []) : answers acts = [] := by
  refine List.filterMap_eq_nil_iff.2 fun act mem => ?_
  have silent := List.filterMap_eq_nil_iff.1 none act mem
  rw [← act.map_job_answer?] at silent
  exact Option.map_eq_none_iff.1 silent

/-- The queue can reply anything to a job. -/
theorem exists_answer (answer : Answer) :
    ∃ site : Site, site.answer answer.job = answer := by
  obtain ⟨job, reply⟩ := answer
  cases reply with
  | ok id =>
    let site : Site := ⟨⟨.empty, .ending 0, .empty, ⟨fun _ => id, 0⟩⟩, .fresh⟩
    have taken : site.world.queue.refusal? job = none := rfl
    exact ⟨site, congrArg (Answer.mk job) (Cycle.perform_offer_of_taken taken)⟩
  | error e =>
    let site : Site := ⟨⟨.empty, .ending 0, Queue.empty.refuse job.type e, .counting⟩, .fresh⟩
    have refused : site.world.queue.refusal? job = some e := by
      simp [site, Queue.refusal?, Queue.refuse]
    exact ⟨site, congrArg (Answer.mk job) (Cycle.perform_offer_of_refused refused)⟩

namespace Cycle

variable {rateAfter : UInt32} {accepted : Option Id} {job : Job} {jobs : List Job}
  {acts : List Act} {given : List Answer} {submission : Submission}

/-- Jobs are submitted, the queue gives the answers, and this comes of it. -/
def Answered (rateAfter : UInt32) (accepted : Option Id) (jobs : List Job) (given : List Answer)
    (submission : Submission) : Prop :=
  ∃ acts, answers acts = given ∧ (submit rateAfter jobs accepted).Gives acts submission

theorem handled_answer_iff (site : Site) (job : Job) :
    (site.answer job).Handled ↔ site.world.queue.handles job = true := by
  unfold Answer.Handled Answer.Known Site.answer Queue.handles
  cases refusal : site.world.queue.refusal? job with
  | none => simp [perform_offer_of_taken refusal]
  | some e =>
    rw [perform_offer_of_refused refusal]
    cases e <;> simp [QueueError.isHandled]

theorem answers_offer (site : Site) (job : Job) {counts : List Act}
    (quiet : ∀ act ∈ counts, act.request = .countClosing rateAfter) (behind : List Act) :
    answers (⟨site, .offer job⟩ :: (counts ++ behind)) = site.answer job :: answers behind := by
  have silent : answers counts = [] := List.filterMap_eq_nil_iff.2 fun act mem => by
    simp [Act.answer?, quiet act mem]
  show site.answer job :: answers (counts ++ behind) = _
  rw [answers_append, silent, List.nil_append]

theorem exists_tally (rateAfter : UInt32) (job : Job) :
    ∃ counts, (tally rateAfter job).Gives counts () := by
  unfold tally
  split
  · exact ⟨_, gives_request_iff.2 ⟨⟨.start 0, .fresh⟩, rfl, rfl⟩⟩
  · exact ⟨[], gives_pure_iff.2 ⟨rfl, rfl⟩⟩

/-- A submission begins with the answer to its first job, and ends with it if that is refused. -/
theorem Answered.first (answered : Answered rateAfter accepted (job :: jobs) given submission) :
    ∃ answer behind, given = answer :: behind ∧ answer.job = job ∧
      ((answer.Handled ∧ ∃ rest, Answered rateAfter (accepted.or answer.id?) jobs behind rest ∧
          submission = { rest with settled := job :: rest.settled }) ∨
        (answer.Refused ∧ behind = [] ∧ submission = ⟨.failed, [], job :: jobs⟩)) := by
  obtain ⟨acts, rfl, run⟩ := answered
  obtain ⟨site, ⟨handled, counts, behind, next, rest, rfl, quiet, source, later, rfl⟩ |
    ⟨refused, rfl, rfl⟩⟩ := gives_submit_cons run
  · refine ⟨_, _, answers_offer site job quiet behind, rfl,
      .inl ⟨(handled_answer_iff site job).2 handled, rest, ⟨behind, rfl, ?_⟩, rfl⟩⟩
    rcases source with ⟨refused, rfl⟩ | ⟨taken, rfl⟩
    · obtain ⟨e, refusal⟩ := Option.ne_none_iff_exists'.1 refused
      have none : (site.answer job).id? = none := by
        simp [Answer.id?, Site.answer, perform_offer_of_refused refusal, Except.toOption]
      rwa [none, Option.or_none]
    · have minted : (site.answer job).id? = some site.world.mint.next.1 :=
        Answer.id?_eq_some_iff.2 (perform_offer_of_taken taken)
      rwa [minted]
  · have unhandled : ¬ (site.answer job).Handled := by
      rw [handled_answer_iff, refused]
      exact Bool.false_ne_true
    exact ⟨site.answer job, [], rfl, rfl,
      .inr ⟨(site.answer job).handled_or_refused.resolve_left unhandled, rfl, rfl⟩⟩

/-- What was offered at a site gave its answer. -/
theorem gives_offer {site : Site} {answer : Answer} (here : site.answer answer.job = answer) :
    (Cycle.request .working (.offer answer.job)).Gives [⟨site, .offer answer.job⟩] answer.reply :=
  gives_request_iff.2 ⟨site, rfl, congrArg Answer.reply here⟩

/-- A job that is handled can be put in front. -/
theorem Answered.cons {answer : Answer} {rest : Submission} (handled : answer.Handled)
    (later : Answered rateAfter (accepted.or answer.id?) jobs given rest) :
    Answered rateAfter accepted (answer.job :: jobs) (answer :: given)
      { rest with settled := answer.job :: rest.settled } := by
  obtain ⟨site, here⟩ := exists_answer answer
  obtain ⟨acts, rfl, later⟩ := later
  have asked := gives_offer here
  let addFront (rest : Submission) : Submission :=
    { rest with settled := answer.job :: rest.settled }
  unfold Answered
  rw [submit_cons]
  rcases handled with ⟨id, reply⟩ | known
  · obtain ⟨counts, counted⟩ := exists_tally rateAfter answer.job
    rw [Answer.id?_eq_some_iff.2 reply] at later
    rw [reply] at asked
    refine ⟨_, ?_, gives_bind_iff.2 ⟨_, _, counts ++ acts, rfl, asked,
      gives_bind_iff.2 ⟨(), counts, acts, rfl, counted, gives_map addFront later⟩⟩⟩
    rw [List.singleton_append, answers_offer site answer.job (tally_gives counted), here]
  · rw [known.id?_eq_none, Option.or_none] at later
    have parts : answers ([⟨site, .offer answer.job⟩] ++ acts) = answer :: answers acts := by
      rw [answers_append, ← here]
      rfl
    refine ⟨_, parts, gives_bind_iff.2 ⟨_, _, acts, rfl, asked, ?_⟩⟩
    rcases known with reply | reply <;> rw [reply] <;> exact gives_map addFront later

/-- A job that is refused can be all that is offered. -/
theorem answered_of_refused {answer : Answer} (refused : answer.Refused) :
    Answered rateAfter accepted (answer.job :: jobs) [answer]
      ⟨.failed, [], answer.job :: jobs⟩ := by
  obtain ⟨site, here⟩ := exists_answer answer
  have parts : answers [⟨site, .offer answer.job⟩] = [answer] := by
    rw [← here]
    rfl
  refine ⟨_, parts, ?_⟩
  rw [submit_cons]
  refine gives_bind_iff.2 ⟨_, _, [], (List.append_nil _).symm, gives_offer here, ?_⟩
  rcases refused with reply | ⟨text, reply⟩ <;> rw [reply] <;> exact gives_pure_iff.2 ⟨rfl, rfl⟩

/-- Nothing but the answers decides what comes of a submission. -/
theorem answered_iff_ends :
    Answered rateAfter accepted jobs given submission ↔ submission.Ends accepted jobs given := by
  induction jobs generalizing accepted given submission with
  | nil =>
    constructor
    · rintro ⟨acts, rfl, run⟩
      obtain ⟨rfl, rfl⟩ := gives_pure_iff.1 run
      have ends : Submission.Ends accepted _ _ [] := .handled (List.forall_mem_nil _)
      rwa [List.findSome?_nil, Option.or_none] at ends
    · intro ends
      generalize none : [] = offered at ends
      cases ends with
      | refused => simp at none
      | handled =>
        obtain rfl := List.map_eq_nil_iff.1 none.symm
        rw [List.findSome?_nil, Option.or_none]
        exact ⟨[], rfl, gives_pure_iff.2 ⟨rfl, rfl⟩⟩
  | cons job jobs ih =>
    rw [Submission.ends_cons_iff]
    simp only [← ih]
    constructor
    · exact Answered.first
    · rintro ⟨answer, behind, rfl, rfl, ⟨handled, rest, later, rfl⟩ | ⟨refused, rfl, rfl⟩⟩
      · exact later.cons handled
      · exact answered_of_refused refused

/-- However far a submission gets, its answers are the first ones of one that ends. -/
theorem submit_answers {left : Program (Except CycleError Submission)}
    (course : (submit rateAfter jobs accepted).run.Course acts left) :
    ∃ (further : List Answer) (submission : Submission),
      submission.Ends accepted jobs (answers acts ++ further) := by
  -- Where the submission is cut short, any replies that may come next will do.
  have ended : ∀ accepted jobs, ∃ (further : List Answer) (submission : Submission),
      submission.Ends accepted jobs further := by
    intro accepted jobs
    obtain ⟨further, submission, ends, -⟩ :=
      Submission.exists_ends accepted jobs fun _ => .error .duplicated
    exact ⟨further, submission, ends⟩
  induction jobs generalizing acts accepted left with
  | nil =>
    obtain ⟨rfl, -⟩ := Program.course_done_iff.1 course
    exact ended accepted []
  | cons job jobs ih =>
    rcases submit_course_cons course with rfl | ⟨site, counts, behind, rfl, quiet, rest⟩
    · exact ended accepted (job :: jobs)
    rw [answers_offer site job quiet]
    rcases (site.answer job).handled_or_refused with handled | refused
    · have later : ∃ (further : List Answer) (submission : Submission),
          submission.Ends (accepted.or (site.answer job).id?) jobs (answers behind ++ further) := by
        rcases rest with rfl | ⟨-, next, left, course⟩
        · exact ended _ jobs
        · obtain ⟨further, submission, ends⟩ := ih course
          exact ⟨further, ends.with_accepted _⟩
      obtain ⟨further, submission, ends⟩ := later
      exact ⟨further, _, Submission.ends_cons_iff.2
        ⟨_, _, rfl, rfl, .inl ⟨handled, submission, ends, rfl⟩⟩⟩
    · obtain rfl : behind = [] := by
        refine rest.resolve_right fun onward => ?_
        exact (site.answer job).not_refused_of_handled
          ((handled_answer_iff site job).2 onward.1) refused
      exact ⟨[], _, Submission.ends_cons_iff.2 ⟨_, _, rfl, rfl, .inr ⟨refused, rfl, rfl⟩⟩⟩

theorem answered_iff_comesOf :
    Answered rateAfter none jobs given submission ↔ submission.ComesOf jobs given :=
  answered_iff_ends.trans Submission.comesOf_iff_ends.symm

section Sweeping

variable {profile : Profile} {event : StoredEvent} {events : List StoredEvent}
  {batch turn : SweepBatch} {dealings : List Dealing}

/-- The jobs of an event are made without an offer, and what comes of them follows the answers. -/
theorem settle_comesOf (run : (settle profile event batch).Gives acts submission) :
    ∃ jobs making handing, acts = making ++ handing ∧
      (produce profile event batch.settled).Gives making jobs ∧ answers making = [] ∧
      submission.ComesOf jobs (answers handing) := by
  obtain ⟨jobs, making, handing, rfl, made, submitted⟩ := gives_settle_iff.1 run
  have silent := answers_of_offers (offers_of_looks (made.asked (produce_asks _ _ _)))
  exact ⟨jobs, making, handing, rfl, made, silent,
    answered_iff_comesOf.1 ⟨handing, rfl, submitted⟩⟩

/-- What comes of each dealing follows the answers, and these are all that the sweep got. -/
theorem Through.answered (through : Through profile events batch acts dealings turn) :
    (∀ dealing ∈ dealings, dealing.submission.ComesOf dealing.jobs (answers dealing.acts)) ∧
      answers acts = dealings.flatMap fun dealing => answers dealing.acts := by
  induction through with
  | start => exact ⟨List.forall_mem_nil _, rfl⟩
  | held asked noted awaits granted rest ih => exact ih
  | @settled event events batch turn making handing behind jobs submission dealings asked noted free
      made submitted granted rest ih =>
    obtain ⟨each, all⟩ := ih
    refine ⟨List.forall_mem_cons.2 ⟨answered_iff_comesOf.1 ⟨handing, rfl, submitted⟩, each⟩, ?_⟩
    have silent := answers_of_offers (offers_of_looks (made.asked (produce_asks _ _ _)))
    have own : answers (⟨asked, .isCancelled⟩ :: (making ++ handing)) =
        answers (making ++ handing) := rfl
    have note : answers
        (⟨noted, .store (.disposeEvent event.id submission.disposition)⟩ :: behind) =
          answers behind := rfl
    rw [answers_append, own, note, answers_append, silent, List.nil_append, all, List.flatMap_cons]

/-- The batch grows by what comes of each dealing. -/
theorem Through.batch_eq (through : Through profile events batch acts dealings turn) :
    turn.settled = batch.settled ++ dealings.flatMap (·.submission.settled) ∧
      turn.unsettled = batch.unsettled ++ dealings.flatMap (·.submission.unsettled) := by
  induction through with
  | start => simp
  | held asked noted awaits granted rest ih => exact ih
  | settled asked noted free made submitted granted rest ih =>
    rw [ih.1, ih.2]
    simp [SweepBatch.extend]

end Sweeping

end Cycle

theorem Submission.ComesOf.parts {submission : Submission} {jobs : List Job} {given : List Answer}
    (comesOf : submission.ComesOf jobs given) :
    submission.settled ++ submission.unsettled = jobs := by
  cases comesOf <;> simp

/-- A job that was refused is left over. -/
theorem Submission.ComesOf.mem_unsettled {submission : Submission} {jobs : List Job}
    {given : List Answer} (comesOf : submission.ComesOf jobs given) {answer : Answer}
    (mem : answer ∈ given) (refused : answer.Refused) : answer.job ∈ submission.unsettled := by
  have unhandled : ¬ answer.Handled := fun handled => answer.not_refused_of_handled handled refused
  cases comesOf with
  | failed rest handled _ =>
    rcases List.mem_append.1 mem with front | last
    · exact absurd (handled answer front) unhandled
    · obtain rfl := List.mem_singleton.1 last
      exact List.mem_cons_self
  | scheduled known accepted handled =>
    rcases List.mem_append.1 mem with front | behind
    · exact absurd (.inr (known answer front)) unhandled
    · rcases List.mem_cons.1 behind with rfl | behind
      · exact absurd (.inl ⟨_, accepted⟩) unhandled
      · exact absurd (handled answer behind) unhandled
  | ignored known => exact absurd (.inr (known answer mem)) unhandled

/-- What a sweep has gathered in its batch by its acts and dealings: what comes of each dealing follows
the answers, the two lists hold that, and each job that was made is in one of them. -/
structure SweepBatch.Gathers (batch : SweepBatch) (acts : List Act) (dealings : List Dealing) :
    Prop where
  each : ∀ dealing ∈ dealings, dealing.submission.ComesOf dealing.jobs (answers dealing.acts)
  all : answers acts = dealings.flatMap fun dealing => answers dealing.acts
  settled : batch.settled = dealings.flatMap (·.submission.settled)
  unsettled : batch.unsettled = dealings.flatMap (·.submission.unsettled)
  partition : (batch.settled ++ batch.unsettled).Perm (dealings.flatMap Dealing.jobs)

theorem SweepBatch.Gathers.mem_unsettled {batch : SweepBatch} {acts : List Act}
    {dealings : List Dealing} (gathers : batch.Gathers acts dealings) {answer : Answer}
    (mem : answer ∈ answers acts) (refused : answer.Refused) : answer.job ∈ batch.unsettled := by
  rw [gathers.all] at mem
  obtain ⟨dealing, among, mem⟩ := List.mem_flatMap.1 mem
  rw [gathers.unsettled]
  exact List.mem_flatMap.2 ⟨dealing, among, (gathers.each dealing among).mem_unsettled mem refused⟩

theorem Cycle.Through.gathers {profile : Profile} {events : List StoredEvent} {acts : List Act}
    {dealings : List Dealing} {batch : SweepBatch}
    (through : Through profile events .empty acts dealings batch) : batch.Gathers acts dealings := by
  obtain ⟨each, all⟩ := through.answered
  obtain ⟨settled, unsettled⟩ := through.batch_eq
  refine ⟨each, all, settled, unsettled, ?_⟩
  have joined : (dealings.flatMap fun dealing =>
      dealing.submission.settled ++ dealing.submission.unsettled) = dealings.flatMap Dealing.jobs :=
    List.flatMap_congr fun dealing mem => (each dealing mem).parts
  rw [settled, unsettled, ← joined]
  exact List.flatMap_append_perm _ _ _

/-- What comes of a list of jobs is what the queue's answers say, and every row of replies has an
end; where a submission is cut short, its answers are the first ones of such a row. So it is with the
jobs of every event, and the batch grows by what comes of them. When a sweep takes up an event, the
batch by which it decides has gathered the jobs of all events that it has gone through. -/
theorem submission_follows_answers (profile : Profile) :
    (∀ (jobs : List Job) (given : List Answer) (submission : Submission),
      Cycle.Answered profile.rateAfter none jobs given submission ↔
        submission.ComesOf jobs given) ∧
    (∀ (jobs : List Job) (replies : Nat → Except QueueError Id),
      ∃ given submission, Cycle.Answered profile.rateAfter none jobs given submission ∧
        ∀ (place : Nat) answer, given[place]? = some answer → answer.reply = replies place) ∧
    (∀ (jobs : List Job) (acts : List Act) (left : Program (Except CycleError Submission)),
      (Cycle.submit profile.rateAfter jobs none).run.Course acts left →
      ∃ (further : List Answer) (submission : Submission),
        submission.ComesOf jobs (answers acts ++ further)) ∧
    (∀ (event : StoredEvent) (batch : SweepBatch) (acts : List Act) (submission : Submission),
      (Cycle.settle profile event batch).Gives acts submission →
      ∃ jobs making handing, acts = making ++ handing ∧
        (Cycle.produce profile event batch.settled).Gives making jobs ∧ answers making = [] ∧
        submission.ComesOf jobs (answers handing) ∧
        batch.extend submission =
          ⟨batch.settled ++ submission.settled, batch.unsettled ++ submission.unsettled⟩) ∧
    ∀ (before : List Act) (guard : Guard)
      (next : Outcome guard Request.isCancelled.Reply → Program (Except CycleError SweepReport)),
      (Cycle.sweep profile).run.Course before (.ask guard .isCancelled next) →
      ∃ listed own front event later batch report dealings,
        before = ⟨listed, .store .unscheduledEvents⟩ :: own ∧
        listed.world.store.unscheduled = front ++ event :: later ∧
        Cycle.Through profile front .empty own dealings batch ∧ batch.Gathers own dealings ∧
        next (.reply false) =
          (if batch.awaitsAnnouncement event then Cycle.passOver profile event later batch report
            else Cycle.attempt (Cycle.settle profile event batch) >>=
              Cycle.conclude profile event later batch report).run := by
  refine ⟨fun _ _ _ => Cycle.answered_iff_comesOf, fun jobs replies => ?_,
    fun jobs acts left course => ?_, fun event batch acts submission run => ?_,
    fun before guard next course => ?_⟩
  · obtain ⟨given, submission, ends, replied⟩ := Submission.exists_ends none jobs replies
    exact ⟨given, submission, Cycle.answered_iff_ends.2 ends, replied⟩
  · obtain ⟨further, submission, ends⟩ := Cycle.submit_answers course
    exact ⟨further, submission, Submission.comesOf_iff_ends.2 ends⟩
  · obtain ⟨jobs, making, handing, rfl, made, silent, comesOf⟩ := Cycle.settle_comesOf run
    exact ⟨jobs, making, handing, rfl, made, silent, comesOf, rfl⟩
  · rcases Cycle.sweep_listed course with ⟨-, pending | ⟨e, ended⟩⟩ | ⟨listed, own, rfl, -, sweeping⟩
    · exact absurd rfl pending
    · cases ended
    obtain ⟨front, event, later, dealings, batch, report, split, through, -, goesOn⟩ :=
      Cycle.sweepThrough_through sweeping
    exact ⟨listed, own, front, event, later, batch, report, dealings, rfl, split, through,
      through.gathers, goesOn⟩

/-! The queue is down for changes of supply while a client sweeps that a channel was closed and that
another one was created. -/

namespace Sample

def parted : Site :=
  told ((Cycle.collect client).run.alone
      (ready [closing, created 11] [(offering, Id.counted 0)])).last fun queue =>
    queue.refuse .incrementSupply (.other "queue down")

/-- The sweep, once it has its snapshot. -/
def parting : Program.Solo (Except CycleError SweepReport) :=
  Cycle.sweptAlone client parted parted.world.store.events

theorem parting_course : (Cycle.sweep client).run.Course
    (⟨parted, .store .unscheduledEvents⟩ :: parting.acts) (.done parting.value) :=
  Cycle.sweptAlone_course (by decide +kernel)
    (Store.unscheduled_of_ordered (by decide +kernel) (by decide +kernel))

end Sample

/-- When the sweep takes up the creation, its batch has gathered the jobs of the closing: the recording
was accepted, and the change of supply was refused. -/
theorem gathered_closing :
    ∃ (batch : SweepBatch) (dealings : List Dealing),
      batch.Gathers (Sample.parting.acts.take 10) dealings ∧
      batch.settled.map Job.type = [.clientRecordClosing] ∧
      ∃ job ∈ batch.unsettled, job.type = .incrementSupply := by
  obtain ⟨-, -, -, -, gathers⟩ := submission_follows_answers Sample.client
  obtain ⟨asked, rest, parts⟩ : ∃ asked rest,
      Sample.parting.acts = Sample.parting.acts.take 10 ++ ⟨asked, .isCancelled⟩ :: rest :=
    split_at_question (by decide +kernel)
  have course := Sample.parting_course
  rw [parts, ← List.cons_append] at course
  obtain ⟨guard, next, start, -⟩ := course.at_act
  obtain ⟨listed, own, front, event, later, batch, report, dealings, same, -, through, gathers, -⟩ :=
    gathers _ guard next start
  obtain ⟨-, rfl⟩ := List.cons.inj same
  refine ⟨batch, dealings, gathers, ?_, ?_⟩
  · rw [through.announces.1]
    decide +kernel
  · obtain ⟨answer, mem, type, reply⟩ : ∃ answer ∈ answers (Sample.parting.acts.take 10),
        answer.job.type = .incrementSupply ∧ answer.reply = .error (.other "queue down") := by
      decide +kernel
    exact ⟨answer.job, gathers.mem_unsettled mem (.inr ⟨_, reply⟩), type⟩

end ChannelWatch
