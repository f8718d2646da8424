import ChannelWatch.Proofs.Course
import ChannelWatch.Timeline.Run

/-!
# Cycles that a cut ends

Most cycles are straight: where a request is cut short, the cycle ends at once with what cut it.
`Cycle.Straight` says so, and under which guards such a cycle makes which requests. What a
straight cycle has come to is settled by its acts alone (`Cycle.Gives.ends`). Collect cycles are
straight; their scan is a survey, which only reads, and then explores the chain.
-/

namespace ChannelWatch
set_option autoImplicit false

namespace Program

variable {α : Type} {kind wider : Guard → Request → Prop}

/-- Every request is of a kind, and to be cut short ends the program with what cut it. -/
def Straight (kind : Guard → Request → Prop) : Program (Except CycleError α) → Prop
  | .done _ => True
  | .ask guard request next => kind guard request ∧
      (∀ value, (next (.reply value)).Straight kind) ∧
      (∀ timed, next (.expired timed) = .done (.error .timedOut)) ∧
      ∀ cancellable, next (.cancelled cancellable) = .done (.error .cancelled)

theorem Straight.mono (within : ∀ guard request, kind guard request → wider guard request)
    {program : Program (Except CycleError α)} (straight : program.Straight kind) :
    program.Straight wider := by
  induction program with
  | done result => trivial
  | ask guard request next ih =>
    obtain ⟨of_kind, replied, expired, cancelled⟩ := straight
    exact ⟨within _ _ of_kind, fun value => ih _ (replied value), expired, cancelled⟩

theorem Straight.asks {program : Program (Except CycleError α)} (straight : program.Straight kind) :
    program.Asks fun request => ∃ guard, kind guard request := by
  induction program with
  | done result => trivial
  | ask guard request next ih =>
    obtain ⟨of_kind, replied, expired, cancelled⟩ := straight
    refine ⟨⟨guard, of_kind⟩, fun outcome => ?_⟩
    cases outcome with
    | reply value => exact ih _ (replied value)
    | expired timed =>
      rw [expired]
      trivial
    | cancelled cancellable =>
      rw [cancelled]
      trivial

/-- What is left of a straight program is straight. -/
theorem Course.left_straight {program left : Program (Except CycleError α)} {acts : List Act}
    (course : Course program acts left) (straight : program.Straight kind) :
    left.Straight kind := by
  induction course with
  | rest => exact straight
  | reply site _ ih => exact ih (straight.2.1 _)
  | expire timed _ ih =>
    apply ih
    rw [straight.2.2.1]
    trivial
  | cancel cancellable _ ih =>
    apply ih
    rw [straight.2.2.2]
    trivial

end Program

namespace Cycle

variable {α β : Type} {kind wider : Guard → Request → Prop}

/-- Every request is of a kind, and to be cut short ends the cycle with what cut it. -/
def Straight (kind : Guard → Request → Prop) (cycle : Cycle α) : Prop := cycle.run.Straight kind

theorem Straight.mono {cycle : Cycle α} (straight : cycle.Straight kind)
    (within : ∀ guard request, kind guard request → wider guard request) : cycle.Straight wider :=
  Program.Straight.mono within straight

theorem straight_pure (value : α) : (pure value : Cycle α).Straight kind := trivial

theorem straight_bind {cycle : Cycle α} {f : α → Cycle β} (first : cycle.Straight kind)
    (second : ∀ value, (f value).Straight kind) : (cycle >>= f).Straight kind := by
  rw [Straight, run_bind]
  rw [Straight] at first
  generalize cycle.run = program at first
  induction program with
  | done result =>
    cases result with
    | ok value => exact second value
    | error e => trivial
  | ask guard request next ih =>
    obtain ⟨of_kind, replied, expired, cancelled⟩ := first
    refine ⟨of_kind, fun value => ih _ (replied value), fun timed => ?_, fun cancellable => ?_⟩
    · simp only [expired]
      rfl
    · simp only [cancelled]
      rfl

theorem straight_request {guard : Guard} {request : Request} (of_kind : kind guard request) :
    (Cycle.request guard request).Straight kind :=
  ⟨of_kind, fun _ => trivial, fun _ => rfl, fun _ => rfl⟩

theorem straight_demand {ε : Type} (wrap : ε → CycleError) {ask : Cycle (Except ε α)}
    (straight : ask.Straight kind) : (demand wrap ask).Straight kind := by
  apply straight_bind straight
  intro result
  cases result <;> trivial

theorem straight_transact {guard : Guard} {t : Transaction} (of_kind : kind guard (.store t)) :
    (transact guard t).Straight kind :=
  straight_demand _ (straight_request of_kind)

/-- Requests of a kind that are made at once or give way to a cancellation. -/
def Yielding (kind : Request → Prop) (guard : Guard) (request : Request) : Prop :=
  kind request ∧ (request.hurdles = [] ∨ guard.cancellable = true)

theorem Straight.asks_of_yielding {kind : Request → Prop} {cycle : Cycle α}
    (straight : cycle.Straight (Yielding kind)) : cycle.Asks kind :=
  Program.Asks.mono (fun _ ⟨_, of_kind, _⟩ => of_kind) (Program.Straight.asks straight)

/-- A straight cycle that has given its value does nothing more. -/
theorem Gives.ends {cycle : Cycle α} (straight : cycle.Straight kind) {before behind : List Act}
    {value : α} {left : Program (Except CycleError α)} (given : cycle.Gives before value)
    (course : cycle.run.Course (before ++ behind) left) :
    behind = [] ∧ left = .done (.ok value) := by
  rw [Straight] at straight
  rw [Gives] at given
  generalize cycle.run = program at straight given course
  induction program generalizing before with
  | done result =>
    obtain ⟨rfl, same⟩ := Program.course_done_iff.1 given
    rw [same]
    exact Program.course_done_iff.1 course
  | ask guard request next ih =>
    obtain ⟨-, replied, expired, cancelled⟩ := straight
    cases given with
    | reply site rest =>
      cases course with
      | reply site tail => exact ih _ (replied _) rest tail
      | expire timed tail =>
        rw [expired] at tail
        cases (Program.course_done_iff.1 tail).1
      | cancel cancellable tail =>
        rw [cancelled] at tail
        cases (Program.course_done_iff.1 tail).1
    | expire timed rest =>
      rw [expired] at rest
      cases (Program.course_done_iff.1 rest).2
    | cancel cancellable rest =>
      rw [cancelled] at rest
      cases (Program.course_done_iff.1 rest).2

end Cycle

namespace Request

/-- The request reads what a scan needs to know besides the chain. -/
def surveys : Request → Prop
  | .store (.getSetting _) | .store .addressesInUse | .checkpoint => True
  | _ => False

/-- The request asks the chain. -/
def explores : Request → Prop
  | .latestBlock | .sendQuery _ | .logs _ => True
  | _ => False

end Request

namespace Cycle

/-- The part of a scan that only reads: its bounds, the checkpoint and the addresses in use. -/
def survey : Cycle (ScanLimits × BlockNumber × List Address) := do
  let limits ← scanLimits .reading
  let checkpoint ← demand id (request .reading .checkpoint)
  let locals ← transact .reading .addressesInUse
  pure (limits, checkpoint, locals)

/-- The part of a scan that asks the chain. -/
def explore (profile : Profile) (limits : ScanLimits) (checkpoint : BlockNumber)
    (locals : List Address) : Cycle (Window × List Log) := do
  let head ← demand CycleError.latestBlock (request .working .latestBlock)
  let window := Window.next checkpoint head limits
  if window.isEmpty then pure (window, [])
  else do
    let logs ← fetchAll locals (watchQueries profile.role profile.contracts locals window)
    pure (window, logs)

theorem scan_eq (profile : Profile) :
    scan profile = survey >>= fun (limits, checkpoint, locals) =>
      explore profile limits checkpoint locals := by
  simp only [scan, survey, explore, bind_assoc, pure_bind]

theorem survey_straight :
    survey.Straight fun guard request => guard = .reading ∧ request.surveys := by
  have setting : ∀ key interpret, (setting .reading key interpret).Straight
      fun guard request => guard = .reading ∧ request.surveys := by
    intro key interpret
    apply straight_bind (straight_transact ⟨rfl, trivial⟩)
    intro text
    cases interpret key text <;> trivial
  have limits : (scanLimits .reading).Straight
      fun guard request => guard = .reading ∧ request.surveys :=
    straight_bind (setting Settings.minConfirmationsKey Settings.required) fun _ =>
    straight_bind (setting Settings.freshBlocksKey Settings.required) fun _ =>
      straight_bind (setting Settings.blockLimitKey Settings.orZero) fun _ => straight_pure _
  exact straight_bind limits fun _ =>
    straight_bind (straight_demand _ (straight_request ⟨rfl, trivial⟩)) fun _ =>
      straight_bind (straight_transact ⟨rfl, trivial⟩) fun _ => straight_pure _

theorem explore_straight (profile : Profile) (limits : ScanLimits) (checkpoint : BlockNumber)
    (locals : List Address) : (explore profile limits checkpoint locals).Straight
      fun guard request => guard = .working ∧ request.explores := by
  have fetched : ∀ queries, (fetchAll locals queries).Straight
      fun guard request => guard = .working ∧ request.explores := by
    intro queries
    induction queries with
    | nil => exact straight_pure _
    | cons query queries ih =>
      refine straight_bind ?_ fun _ => straight_bind ih fun _ => straight_pure _
      unfold fetch
      split
      · exact straight_pure _
      · exact straight_bind (straight_request ⟨rfl, trivial⟩) fun _ =>
          straight_bind (straight_demand _ (straight_request ⟨rfl, trivial⟩)) fun _ =>
            straight_pure _
  apply straight_bind (straight_demand _ (straight_request ⟨rfl, trivial⟩))
  intro head
  simp only
  split
  · exact straight_pure _
  · exact straight_bind (fetched _) fun _ => straight_pure _

theorem collect_straight (profile : Profile) : (collect profile).Straight fun _ _ => True := by
  have scanned : (scan profile).Straight fun _ _ => True := by
    rw [scan_eq]
    exact straight_bind (survey_straight.mono fun _ _ _ => trivial) fun _ =>
      (explore_straight _ _ _ _).mono fun _ _ _ => trivial
  apply straight_bind scanned
  intro found
  simp only
  split
  · exact straight_pure _
  · exact straight_bind (straight_demand _ (straight_request trivial)) fun _ => straight_pure _

end Cycle

end ChannelWatch
