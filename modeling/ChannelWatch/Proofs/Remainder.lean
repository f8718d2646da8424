import ChannelWatch.Proofs.Turn
import Mathlib.Data.Prod.Lex
import Mathlib.SetTheory.Ordinal.Family

/-!
# What is left at a moment

How much of a program, of a run and of a task lies ahead, as long as no time passes. A run that is
ready gets further when it is taken up (`Run.remainder_resume_lt`), and so does a task
(`Task.remainder_resume_lt`).
-/

namespace ChannelWatch
set_option autoImplicit false

namespace Program

variable {α : Type}

/-- How deep a program is; what it goes on with is less deep. -/
noncomputable def depth : Program α → Ordinal.{0}
  | done _ => 0
  | ask _ _ next => ⨆ outcome, (next outcome).depth + 1

theorem depth_next_lt (guard : Guard) (request : Request)
    (next : Outcome guard request.Reply → Program α) (outcome : Outcome guard request.Reply) :
    (next outcome).depth < (ask guard request next).depth :=
  Ordinal.lt_iSup_add_one (fun outcome => (next outcome).depth) outcome

end Program

/-- What still stands between a request and its effect; the end of a pause that has begun counts
beside the hurdles behind it. -/
def Progress.load (progress : Progress) : Nat :=
  2 * progress.ahead.length + if progress.pause.isSome then 1 else 0

theorem Progress.load_pausing (ahead : List Hurdle) (moment : Nat) :
    Progress.load ⟨ahead, some moment⟩ = 2 * ahead.length + 1 := rfl

theorem Progress.load_facing (ahead : List Hurdle) :
    Progress.load ⟨ahead, none⟩ = 2 * ahead.length := rfl

namespace Timeline

/-- A post that was never set up is fresh. -/
theorem post_of_beyond {timeline : Timeline} {number : Nat}
    (beyond : ¬ number < timeline.posts.length) : timeline.post number = .fresh := by
  rw [post, List.getD_eq_getElem?_getD, List.getElem?_eq_none (Nat.not_lt.1 beyond)]
  rfl

variable {α : Type}

theorem load_face {strand : Strand} {number : Nat} {request : Request} {hurdles : List Hurdle}
    {timeline : Timeline} {progress : Progress}
    (waits : (timeline.face strand number request hurdles).2 = some progress) :
    progress.load ≤ 2 * hurdles.length := by
  induction hurdles generalizing timeline with
  | nil => cases waits
  | cons hurdle hurdles ih =>
    have later : ∀ {timeline : Timeline},
        (timeline.face strand number request hurdles).2 = some progress →
        progress.load ≤ 2 * (hurdle :: hurdles).length := fun waits =>
      (ih waits).trans (Nat.mul_le_mul_left 2 (Nat.le_succ _))
    cases hurdle with
    | checkpointLine =>
      unfold face at waits
      simp only at waits
      split at waits
      · rw [← Option.some.inj waits]
        rfl
      split at waits
      · cases waits
      · exact later waits
    | storeLine =>
      unfold face at waits
      simp only at waits
      split at waits
      · rw [← Option.some.inj waits]
        rfl
      · exact later waits
    | time partner =>
      unfold face at waits
      simp only at waits
      split at waits
      · exact later waits
      · rw [← Option.some.inj waits, Progress.load_pausing, List.length_cons]
        omega

/-- A request that gets past what it waited for has less before it, if it has to wait again. -/
theorem load_proceed {strand : Strand} {number : Nat} {request : Request} {timeline : Timeline}
    {progress later : Progress} {moment : Nat}
    (past : timeline.pastAt strand number progress = some moment) (come : moment ≤ timeline.now)
    (waits : (timeline.proceed strand number request progress).2 = some later) :
    later.load < progress.load := by
  obtain ⟨ahead, pause⟩ := progress
  cases pause with
  | some pause =>
    obtain rfl : pause = moment := by simpa [pastAt] using past
    have faced : (timeline.face strand number request ahead).2 = some later := by
      simpa [proceed, hasCome, come] using waits
    rw [Progress.load_pausing]
    exact Nat.lt_succ_of_le (load_face faced)
  | none =>
    have faced : (timeline.face strand number request ahead).2 = some later := by
      simpa [proceed] using waits
    cases ahead with
    | nil => cases faced
    | cons hurdle ahead =>
      have shorter : ∀ {timeline : Timeline},
          (timeline.face strand number request ahead).2 = some later →
          later.load < Progress.load ⟨hurdle :: ahead, none⟩ := fun faced => by
        have less := load_face faced
        rw [Progress.load_facing, List.length_cons]
        omega
      cases hurdle with
      | checkpointLine =>
        have first : (timeline.post number).line.isFirst strand = true := by
          by_contra behind
          simp [pastAt, behind] at past
        have there : number < timeline.posts.length := by
          by_contra beyond
          rw [post_of_beyond beyond] at first
          cases first
        unfold face at faced
        simp only [post_alter, there, and_true, if_true, Line.isFirst_join strand first,
          Bool.not_true, Bool.false_eq_true, if_false] at faced
        split at faced
        · cases faced
        · exact shorter faced
      | storeLine =>
        have first : timeline.line.isFirst strand = true := by
          by_contra behind
          simp [pastAt, behind] at past
        unfold face at faced
        simp only [Line.isFirst_join strand first, Bool.not_true, Bool.false_eq_true,
          if_false] at faced
        exact shorter faced
      | time partner =>
        unfold face at faced
        simp only at faced
        split at faced
        · exact shorter faced
        · rw [← Option.some.inj faced, Progress.load_pausing, Progress.load_facing,
            List.length_cons]
          omega

theorem depth_drive_le (strand : Strand) (number : Nat) (deadline : Option Nat)
    (program : Program α) (progress : Progress) (timeline : Timeline) :
    (drive strand number deadline program progress timeline).1.program.depth ≤ program.depth := by
  induction program generalizing progress timeline with
  | done value => exact le_rfl
  | ask guard request next ih =>
    have further : ∀ outcome progress timeline,
        (drive strand number deadline (next outcome) progress timeline).1.program.depth ≤
          (Program.ask guard request next).depth := fun outcome progress timeline =>
      (ih outcome progress timeline).trans (Program.depth_next_lt guard request next outcome).le
    rw [drive]
    split
    · exact further _ _ _
    · split
      · exact further _ _ _
      · split
        · exact further _ _ _
        · exact le_rfl

end Timeline

/-- The earlier of two moments is the second one if the first lies ahead. -/
theorem come_of_sooner {a b : Option Nat} {moment now : Nat} (same : sooner a b = some moment)
    (come : moment ≤ now) (ahead : ∀ limit ∈ a, ¬ limit ≤ now) :
    ∃ other, b = some other ∧ other ≤ now := by
  cases a with
  | none => exact ⟨moment, same, come⟩
  | some limit =>
    have late := ahead limit rfl
    cases b with
    | none =>
      rw [← Option.some.inj same] at come
      exact absurd come late
    | some other =>
      rw [← Option.some.inj same] at come
      exact ⟨other, rfl, (min_le_iff.1 come).resolve_left late⟩

namespace Run

variable {α : Type}

/-- How much is left of a run: the depth of its program, then the load of its next request. -/
noncomputable def remainder (run : Run α) : Ordinal.{0} ×ₗ Nat :=
  toLex (run.program.depth, run.progress.load)

/-- A run that is ready gets further when it is taken up. -/
theorem remainder_resume_lt {strand : Strand} {timeline : Timeline} {run : Run α} {moment : Nat}
    (ready : timeline.readyAt strand run = some moment) (come : moment ≤ timeline.now)
    (going : run.result? = none) :
    (timeline.resume strand run).1.remainder < run.remainder := by
  obtain ⟨post, deadline, program, progress⟩ := run
  cases program with
  | done value => cases going
  | ask guard request next =>
    have further : ∀ outcome begun timeline,
        (Timeline.drive strand post deadline (next outcome) begun timeline).1.remainder <
          Run.remainder ⟨post, deadline, .ask guard request next, progress⟩ :=
      fun outcome begun timeline => Prod.Lex.toLex_lt_toLex.2 (.inl
        ((Timeline.depth_drive_le _ _ _ _ _ _).trans_lt
          (Program.depth_next_lt guard request next outcome)))
    rw [Timeline.resume, Timeline.drive]
    split
    · exact further _ _ _
    rename_i carried
    split
    · exact further _ _ _
    rename_i faced later proceeded
    split
    · exact further _ _ _
    rename_i intime
    -- it has to wait again, though what it waited for has come
    have uncancelled : (guard.cancellable && timeline.isCancelled post) = false := by
      simpa using carried
    have same : faced.now = timeline.now := by
      have faces := timeline.undisturbed_proceed strand post request progress
      rw [proceeded] at faces
      exact faces.now
    simp only [Timeline.readyAt, uncancelled, Bool.false_eq_true, if_false] at ready
    obtain ⟨moment, past, come⟩ := come_of_sooner ready come fun limit mem passed => intime <| by
      split at mem
      · rename_i timed
        exact ⟨timed, by simpa [Timeline.hasCome, Option.mem_def.1 mem, same] using passed⟩
      · cases mem
    exact Prod.Lex.toLex_lt_toLex.2
      (.inr ⟨rfl, Timeline.load_proceed past come (by rw [proceeded])⟩)

/-- How much is left of a cycle, if there is one. -/
noncomputable def left (cycle : Option (Run α)) : WithBot (Ordinal.{0} ×ₗ Nat) :=
  cycle.map remainder

theorem left_resume_lt {strand : Strand} {timeline : Timeline} {run : Run α} {moment : Nat}
    (ready : timeline.readyAt strand run = some moment) (come : moment ≤ timeline.now) :
    left (if (timeline.resume strand run).1.result?.isNone then some (timeline.resume strand run).1
      else none) < left (some run) := by
  split
  · rename_i going
    refine WithBot.coe_lt_coe.2 (remainder_resume_lt ready come ?_)
    cases result : run.result? with
    | none => rfl
    | some value =>
      obtain ⟨post, deadline, program, progress⟩ := run
      cases program with
      | done => cases going
      | ask => cases result
  · exact WithBot.bot_lt_coe _

end Run

/-! ## How much of a task is left at a moment -/

namespace Task

/-- The task is ready to go on at this moment. -/
def Ready (timeline : Timeline) (strand : Strand) (task : Task) : Prop :=
  ∃ moment, task.readyAt timeline strand = some moment ∧ moment ≤ timeline.now

/-- What is left at a moment of a task that runs cycles: the ticks that are due until then, and the
cycle that it is at. -/
noncomputable def rounds {α : Type} (now : Nat) (ticker : Ticker) (cycle : Option (Run α)) :
    Nat ×ₗ WithBot (Ordinal.{0} ×ₗ Nat) :=
  toLex (now + 1 - ticker.due + 2, Run.left cycle)

/-- What is left of a task at a moment. -/
noncomputable def remainder (now : Nat) : Task → Nat ×ₗ WithBot (Ordinal.{0} ×ₗ Nat)
  | collecting _ _ ticker cycle => rounds now ticker cycle
  | sweeping _ _ ticker cycle => rounds now ticker cycle
  | attending _ | cancelling _ _ => toLex (1, ⊥)
  | finished => toLex (0, ⊥)

/-- When a task that runs cycles can go on, as far as that is known. -/
def nextAt {α : Type} (timeline : Timeline) (strand : Strand) (post : Nat) (ticker : Ticker) :
    Option (Run α) → Option Nat
  | some run => timeline.readyAt strand run
  | none => some (if timeline.isCancelled post then timeline.now else ticker.due)

section

variable {α : Type} {watch : Watch} {post now : Nat} {program : Program α}
  {task : Ticker → Option (Run α) → Task} {go : Ticker → Run α × Timeline → Task × Timeline}
  {strand : Strand} {timeline : Timeline} {ticker : Ticker} {cycle : Option (Run α)}
  {turned : Task × Timeline}

theorem rounds_tick_lt (paced : 0 < ticker.period) (due : ticker.due ≤ now)
    (begun before : Option (Run α)) :
    rounds now (ticker.tick now) begun < rounds now ticker before := by
  have later := Ticker.due_lt_due_tick now paced
  exact Prod.Lex.toLex_lt_toLex.2 (.inl (by omega))

theorem finished_lt_rounds (cycle : Option (Run α)) :
    finished.remainder now < rounds now ticker cycle :=
  Prod.Lex.toLex_lt_toLex.2 (.inl (by omega))

/-- A task that runs cycles gets further in a turn for which it is ready. -/
theorem CycleTurn.remainder_lt
    (turn : CycleTurn watch post program task go strand timeline ticker cycle turned)
    (left : ∀ ticker run after, (go ticker (run, after)).1.remainder timeline.now =
      rounds timeline.now ticker (if run.result?.isNone then some run else none))
    (paced : 0 < ticker.period) {moment : Nat}
    (ready : nextAt timeline strand post ticker cycle = some moment)
    (come : moment ≤ timeline.now) :
    turned.1.remainder timeline.now < rounds timeline.now ticker cycle := by
  cases turn with
  | stopped => exact finished_lt_rounds none
  | waited spared early =>
    obtain rfl : ticker.due = moment := by simpa [nextAt, spared] using ready
    exact absurd come (Nat.not_le.2 early)
  | took takes =>
    rw [left]
    cases takes with
    | again run => exact Prod.Lex.toLex_lt_toLex.2 (.inr ⟨rfl, Run.left_resume_lt ready come⟩)
    | anew due => exact rounds_tick_lt paced due _ _

end

variable {strand : Strand} {timeline : Timeline} {task : Task}

/-- A task that is ready gets further, unless it looks after errors and has to go on doing so. -/
theorem remainder_resume_lt (paced : task.Paced) (ready : task.Ready timeline strand)
    (attends : ∀ post, task = .attending post → timeline.isCancelled post = true) :
    (task.resume strand timeline).1.remainder timeline.now < task.remainder timeline.now := by
  obtain ⟨moment, ready, come⟩ := ready
  cases task with
  | collecting watch post ticker cycle =>
    have next : nextAt timeline strand post ticker cycle = some moment := by
      rw [← ready]
      cases cycle <;> rfl
    refine (resume_collecting watch post strand timeline ticker cycle).remainder_lt
      (fun ticker run after => ?_) paced next come
    rw [collected_fst]
    rfl
  | sweeping watch post ticker cycle =>
    have next : nextAt timeline strand post ticker cycle = some moment := by
      rw [← ready]
      cases cycle <;> rfl
    refine (resume_sweeping watch post strand timeline ticker cycle).remainder_lt
      (fun ticker run after => ?_) paced next come
    rw [swept_fst]
    rfl
  | attending post =>
    rw [resume, if_pos (attends post rfl)]
    exact Prod.Lex.toLex_lt_toLex.2 (.inl Nat.zero_lt_one)
  | cancelling post due =>
    obtain rfl : due = moment := by simpa [readyAt] using ready
    rw [resume, if_neg (Nat.not_lt.2 come)]
    exact Prod.Lex.toLex_lt_toLex.2 (.inl Nat.zero_lt_one)
  | finished => cases ready

end Task

end ChannelWatch
