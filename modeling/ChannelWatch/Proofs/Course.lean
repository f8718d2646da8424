import ChannelWatch.Cycle.Sweep

/-!
# Courses of programs

What a program has done is a list of acts: the requests that took effect, each with the site
at which it did. `Program.Course` relates a program to its acts and to the program that is
left; a request that was cut short leaves no act. A course says nothing yet about how the
sites of its acts hang together. The main statement, `Program.Course.of_bind`, takes the
course of a sequence apart.
-/

namespace ChannelWatch
set_option autoImplicit false

/-- A request that took effect, and where it did. -/
structure Act where
  site : Site
  request : Request

namespace Act

/-- The site after the request took effect. -/
def after (act : Act) : Site := (act.site.perform act.request).2

end Act

namespace Program

variable {α β : Type}

/-- The program gets through the acts and has the last program left. -/
inductive Course : Program α → List Act → Program α → Prop where
  | rest (program : Program α) : Course program [] program
  | reply {guard : Guard} {request : Request} {next : Outcome guard request.Reply → Program α}
      {acts : List Act} {left : Program α} (site : Site)
      (course : Course (next (.reply (site.perform request).1)) acts left) :
      Course (.ask guard request next) (⟨site, request⟩ :: acts) left
  | expire {guard : Guard} {request : Request} {next : Outcome guard request.Reply → Program α}
      {acts : List Act} {left : Program α} (timed : guard.timed = true)
      (course : Course (next (.expired timed)) acts left) :
      Course (.ask guard request next) acts left
  | cancel {guard : Guard} {request : Request} {next : Outcome guard request.Reply → Program α}
      {acts : List Act} {left : Program α} (cancellable : guard.cancellable = true)
      (course : Course (next (.cancelled cancellable)) acts left) :
      Course (.ask guard request next) acts left

theorem course_done_iff {value : α} {acts : List Act} {left : Program α} :
    Course (.done value) acts left ↔ acts = [] ∧ left = .done value := by
  constructor
  · intro course
    cases course
    exact ⟨rfl, rfl⟩
  · rintro ⟨rfl, rfl⟩
    exact .rest _

/-- A sequence is still in its first part, or the first part has ended with a value. -/
theorem Course.of_bind {program : Program α} {f : α → Program β} {acts : List Act}
    {left : Program β} (course : Course (program.bind f) acts left) :
    (∃ first, Course program acts first ∧ left = first.bind f) ∨
      ∃ value before behind, acts = before ++ behind ∧ Course program before (.done value) ∧
        Course (f value) behind left := by
  induction program generalizing acts with
  | done value => exact .inr ⟨value, [], acts, rfl, .rest _, course⟩
  | ask guard request next ih =>
    rw [ask_bind] at course
    cases course with
    | rest => exact .inl ⟨.ask guard request next, .rest _, rfl⟩
    | reply site rest =>
      rcases ih _ rest with ⟨first, run, rfl⟩ | ⟨value, before, behind, rfl, run, last⟩
      · exact .inl ⟨first, .reply site run, rfl⟩
      · exact .inr ⟨value, _, behind, rfl, .reply site run, last⟩
    | expire timed rest =>
      rcases ih _ rest with ⟨first, run, rfl⟩ | ⟨value, before, behind, rfl, run, last⟩
      · exact .inl ⟨first, .expire timed run, rfl⟩
      · exact .inr ⟨value, before, behind, rfl, .expire timed run, last⟩
    | cancel cancellable rest =>
      rcases ih _ rest with ⟨first, run, rfl⟩ | ⟨value, before, behind, rfl, run, last⟩
      · exact .inl ⟨first, .cancel cancellable run, rfl⟩
      · exact .inr ⟨value, before, behind, rfl, .cancel cancellable run, last⟩

/-- A sequence that is done has done both its parts. -/
theorem Course.of_bind_done {program : Program α} {f : α → Program β} {acts : List Act}
    {result : β} (course : Course (program.bind f) acts (.done result)) :
    ∃ value before behind, acts = before ++ behind ∧ Course program before (.done value) ∧
      Course (f value) behind (.done result) := by
  rcases course.of_bind with ⟨first, run, left⟩ | split
  · cases first with
    | done value => exact ⟨value, acts, [], by simp, run, by rw [left]; exact .rest _⟩
    | ask guard request next => cases left
  · exact split

theorem Course.bind {program : Program α} {f : α → Program β} {value : α} {before behind : List Act}
    {left : Program β} (first : Course program before (.done value))
    (second : Course (f value) behind left) :
    Course (program.bind f) (before ++ behind) left := by
  induction program generalizing before with
  | done v =>
    obtain ⟨rfl, same⟩ := course_done_iff.1 first
    cases same
    exact second
  | ask guard request next ih =>
    cases first with
    | reply site rest => exact .reply site (ih _ rest)
    | expire timed rest => exact .expire timed (ih _ rest)
    | cancel cancellable rest => exact .cancel cancellable (ih _ rest)

theorem Course.trans {program middle left : Program α} {before behind : List Act}
    (first : Course program before middle) (second : Course middle behind left) :
    Course program (before ++ behind) left := by
  induction first with
  | rest => exact second
  | reply site _ ih => exact .reply site (ih second)
  | expire timed _ ih => exact .expire timed (ih second)
  | cancel cancellable _ ih => exact .cancel cancellable (ih second)

/-- On the way through some acts a program passes the first of them. -/
theorem Course.of_append {program left : Program α} {before behind : List Act}
    (course : Course program (before ++ behind) left) :
    ∃ middle, Course program before middle ∧ Course middle behind left := by
  generalize all : before ++ behind = acts at course
  induction course generalizing before with
  | rest program =>
    obtain ⟨rfl, rfl⟩ := List.append_eq_nil_iff.1 all
    exact ⟨program, .rest _, .rest _⟩
  | reply site course ih =>
    cases before with
    | nil =>
      have all : behind = _ := all
      subst all
      exact ⟨_, .rest _, .reply site course⟩
    | cons head before =>
      obtain ⟨rfl, tail⟩ := List.cons.inj all
      obtain ⟨middle, start, rest⟩ := ih tail
      exact ⟨middle, .reply site start, rest⟩
  | expire timed _ ih =>
    obtain ⟨middle, start, rest⟩ := ih all
    exact ⟨middle, .expire timed start, rest⟩
  | cancel cancellable _ ih =>
    obtain ⟨middle, start, rest⟩ := ih all
    exact ⟨middle, .cancel cancellable start, rest⟩

/-- The last of some acts can take effect at another site. -/
theorem Course.elsewhere {program left : Program α} {before : List Act} {act : Act}
    (course : Course program (before ++ [act]) left) (site : Site) :
    ∃ left, Course program (before ++ [⟨site, act.request⟩]) left := by
  generalize all : before ++ [act] = acts at course
  induction course generalizing before with
  | rest => simp at all
  | reply _ _ ih =>
    cases before with
    | nil =>
      obtain ⟨rfl, -⟩ := List.cons.inj all
      exact ⟨_, .reply site (.rest _)⟩
    | cons head before =>
      obtain ⟨rfl, tail⟩ := List.cons.inj all
      obtain ⟨left, rest⟩ := ih tail
      exact ⟨left, .reply _ rest⟩
  | expire timed _ ih =>
    obtain ⟨left, rest⟩ := ih all
    exact ⟨left, .expire timed rest⟩
  | cancel cancellable _ ih =>
    obtain ⟨left, rest⟩ := ih all
    exact ⟨left, .cancel cancellable rest⟩

/-- What a program does while nothing else happens. -/
structure Solo (α : Type) where
  acts : List Act
  value : α
  last : Site

/-- Carries a program out from a site while nothing else happens. -/
def alone : Program α → Site → Solo α
  | .done value, site => ⟨[], value, site⟩
  | .ask _ request next, site =>
    let rest := alone (next (.reply (site.perform request).1)) (site.perform request).2
    { rest with acts := ⟨site, request⟩ :: rest.acts }

theorem alone_course (program : Program α) (site : Site) :
    program.Course (program.alone site).acts (.done (program.alone site).value) := by
  induction program generalizing site with
  | done value => exact .rest _
  | ask guard request next ih => exact .reply site (ih _ _)

/-- Every request that the program may come to is of a kind. -/
def Asks (kind : Request → Prop) : Program α → Prop
  | .done _ => True
  | .ask _ request next => kind request ∧ ∀ outcome, (next outcome).Asks kind

theorem Asks.bind {kind : Request → Prop} {program : Program α} {f : α → Program β}
    (first : program.Asks kind) (second : ∀ value, (f value).Asks kind) :
    (program.bind f).Asks kind := by
  induction program with
  | done value => exact second value
  | ask guard request next ih => exact ⟨first.1, fun outcome => ih outcome (first.2 outcome)⟩

theorem Asks.mono {kind wider : Request → Prop} (within : ∀ request, kind request → wider request)
    {program : Program α} (asks : program.Asks kind) : program.Asks wider := by
  induction program with
  | done value => trivial
  | ask guard request next ih =>
    exact ⟨within request asks.1, fun outcome => ih outcome (asks.2 outcome)⟩

theorem Course.asked {kind : Request → Prop} {program left : Program α} {acts : List Act}
    (course : Course program acts left) (asks : program.Asks kind) :
    ∀ act ∈ acts, kind act.request := by
  induction course with
  | rest => simp
  | reply site rest ih =>
    intro act mem
    rcases List.mem_cons.1 mem with rfl | mem
    · exact asks.1
    · exact ih (asks.2 _) act mem
  | expire timed rest ih => exact ih (asks.2 _)
  | cancel cancellable rest ih => exact ih (asks.2 _)

/-- What is left of a program asks for nothing new. -/
theorem Course.left_asks {kind : Request → Prop} {program left : Program α} {acts : List Act}
    (course : Course program acts left) (asks : program.Asks kind) : left.Asks kind := by
  induction course with
  | rest => exact asks
  | reply site _ ih => exact ih (asks.2 _)
  | expire timed _ ih => exact ih (asks.2 _)
  | cancel cancellable _ ih => exact ih (asks.2 _)

end Program

namespace Cycle

variable {α β : Type}

/-- The cycle got through the acts and ended with a value. -/
def Gives (cycle : Cycle α) (acts : List Act) (value : α) : Prop :=
  cycle.run.Course acts (.done (.ok value))

theorem run_bind (cycle : Cycle α) (f : α → Cycle β) :
    (cycle >>= f).run = cycle.run.bind fun
      | .ok value => (f value).run
      | .error e => .done (.error e) := by
  show cycle.run.bind _ = _
  congr 1
  funext result
  cases result <;> rfl

/-- A sequence of cycles is still in its first part, or that has given a value. -/
theorem course_bind {cycle : Cycle α} {f : α → Cycle β} {acts : List Act}
    {left : Program (Except CycleError β)} (course : (cycle >>= f).run.Course acts left) :
    (∃ first, cycle.run.Course acts first) ∨
      ∃ value before behind, acts = before ++ behind ∧ cycle.Gives before value ∧
        (f value).run.Course behind left := by
  rw [run_bind] at course
  rcases course.of_bind with ⟨first, run, -⟩ | ⟨value, before, behind, rfl, run, last⟩
  · exact .inl ⟨first, run⟩
  · cases value with
    | ok value => exact .inr ⟨value, before, behind, rfl, run, last⟩
    | error e =>
      obtain ⟨rfl, -⟩ := Program.course_done_iff.1 last
      exact .inl ⟨_, by simpa using run⟩

/-- To turn the value into another one takes no acts. -/
theorem course_map {cycle : Cycle α} {f : α → β} {acts : List Act}
    {left : Program (Except CycleError β)}
    (course : (cycle >>= fun value => pure (f value)).run.Course acts left) :
    ∃ first, cycle.run.Course acts first := by
  rcases course_bind course with partway | ⟨value, before, behind, rfl, given, last⟩
  · exact partway
  · obtain ⟨rfl, -⟩ := Program.course_done_iff.1 last
    exact ⟨_, by rwa [List.append_nil]⟩

@[simp] theorem gives_pure_iff {value result : α} {acts : List Act} :
    (pure value : Cycle α).Gives acts result ↔ acts = [] ∧ result = value := by
  simp [Gives, Program.course_done_iff]

@[simp] theorem gives_bind_iff {cycle : Cycle α} {f : α → Cycle β} {acts : List Act}
    {result : β} :
    (cycle >>= f).Gives acts result ↔
      ∃ value before behind, acts = before ++ behind ∧ cycle.Gives before value ∧
        (f value).Gives behind result := by
  constructor
  · intro given
    obtain ⟨value, before, behind, rfl, run, last⟩ := Program.Course.of_bind_done given
    cases value with
    | ok value => exact ⟨value, before, behind, rfl, run, last⟩
    | error e => cases (Program.course_done_iff.1 last).2
  · rintro ⟨value, before, behind, rfl, first, second⟩
    exact Program.Course.bind first second

theorem gives_map {cycle : Cycle α} {acts : List Act} {value : α} (f : α → β)
    (given : cycle.Gives acts value) :
    (cycle >>= fun value => pure (f value)).Gives acts (f value) :=
  gives_bind_iff.2 ⟨value, acts, [], (List.append_nil _).symm, given, gives_pure_iff.2 ⟨rfl, rfl⟩⟩

theorem gives_request_iff {guard : Guard} {request : Request} {acts : List Act}
    {result : request.Reply} :
    (Cycle.request guard request).Gives acts result ↔
      ∃ site, acts = [⟨site, request⟩] ∧ (site.perform request).1 = result := by
  constructor
  · intro given
    cases given with
    | reply site rest =>
      obtain ⟨rfl, same⟩ := Program.course_done_iff.1 rest
      exact ⟨site, rfl, by simpa using same.symm⟩
    | expire timed rest => cases (Program.course_done_iff.1 rest).2
    | cancel cancellable rest => cases (Program.course_done_iff.1 rest).2
  · rintro ⟨site, rfl, rfl⟩
    exact .reply site (.rest _)

/-- A request is under way, or it is the one act so far. -/
theorem course_request {guard : Guard} {request : Request} {acts : List Act}
    {left : Program (Except CycleError request.Reply)}
    (course : (Cycle.request guard request).run.Course acts left) :
    acts = [] ∨ ∃ site, acts = [⟨site, request⟩] := by
  cases course with
  | rest => exact .inl rfl
  | reply site rest =>
    obtain ⟨rfl, -⟩ := Program.course_done_iff.1 rest
    exact .inr ⟨site, rfl⟩
  | expire timed rest => exact .inl (Program.course_done_iff.1 rest).1
  | cancel cancellable rest => exact .inl (Program.course_done_iff.1 rest).1

@[simp] theorem gives_demand_iff {ε : Type} {wrap : ε → CycleError} {ask : Cycle (Except ε α)}
    {acts : List Act} {value : α} :
    (demand wrap ask).Gives acts value ↔ ask.Gives acts (.ok value) := by
  rw [demand, gives_bind_iff]
  constructor
  · rintro ⟨result, before, behind, rfl, first, second⟩
    cases result with
    | ok found =>
      obtain ⟨rfl, rfl⟩ := gives_pure_iff.1 second
      simpa using first
    | error e => cases (Program.course_done_iff.1 second).2
  · intro first
    exact ⟨_, acts, [], by simp, first, gives_pure_iff.2 ⟨rfl, rfl⟩⟩

/-- A transaction that was granted was answered by the tables at its site. -/
theorem gives_transact_iff {guard : Guard} {t : Transaction} {acts : List Act} {value : t.Value} :
    (transact guard t).Gives acts value ↔
      ∃ site, acts = [⟨site, .store t⟩] ∧ (site.world.transact t).1 = .ok value := by
  rw [transact, gives_demand_iff, gives_request_iff]
  rfl

theorem course_demand {ε : Type} {wrap : ε → CycleError} {ask : Cycle (Except ε α)}
    {acts : List Act} {left : Program (Except CycleError α)}
    (course : (demand wrap ask).run.Course acts left) : ∃ first, ask.run.Course acts first := by
  rcases course_bind course with partway | ⟨value, before, behind, rfl, given, last⟩
  · exact partway
  · cases value with
    | ok value =>
      obtain ⟨rfl, -⟩ := Program.course_done_iff.1 last
      exact ⟨_, by rwa [List.append_nil]⟩
    | error e =>
      obtain ⟨rfl, -⟩ := Program.course_done_iff.1 last
      exact ⟨_, by rwa [List.append_nil]⟩

/-- A transaction is under way, or it is the one act so far. -/
theorem course_transact {guard : Guard} {t : Transaction} {acts : List Act}
    {left : Program (Except CycleError t.Value)}
    (course : (transact guard t).run.Course acts left) :
    acts = [] ∨ ∃ site, acts = [⟨site, .store t⟩] := by
  obtain ⟨first, asked⟩ := course_demand course
  exact course_request asked

/-- Every request that the cycle may come to is of a kind. -/
def Asks (kind : Request → Prop) (cycle : Cycle α) : Prop := cycle.run.Asks kind

theorem asks_pure {kind : Request → Prop} (value : α) : (pure value : Cycle α).Asks kind := trivial

theorem asks_throw {kind : Request → Prop} (e : CycleError) : (throw e : Cycle α).Asks kind :=
  trivial

theorem asks_bind {kind : Request → Prop} {cycle : Cycle α} {f : α → Cycle β}
    (first : cycle.Asks kind) (second : ∀ value, (f value).Asks kind) :
    (cycle >>= f).Asks kind := by
  apply Program.Asks.bind first
  intro result
  cases result with
  | ok value => exact second value
  | error e => trivial

theorem asks_request {kind : Request → Prop} (guard : Guard) {request : Request}
    (of_kind : kind request) : (Cycle.request guard request).Asks kind := by
  refine ⟨of_kind, fun outcome => ?_⟩
  cases outcome <;> trivial

theorem asks_demand {kind : Request → Prop} {ε : Type} (wrap : ε → CycleError)
    {ask : Cycle (Except ε α)} (asks : ask.Asks kind) : (demand wrap ask).Asks kind := by
  apply asks_bind asks
  intro result
  cases result <;> trivial

theorem asks_transact {kind : Request → Prop} (guard : Guard) {t : Transaction}
    (of_kind : kind (.store t)) : (transact guard t).Asks kind :=
  asks_demand _ (asks_request guard of_kind)

theorem Asks.mono {kind wider : Request → Prop} {cycle : Cycle α} (asks : cycle.Asks kind)
    (within : ∀ request, kind request → wider request) : cycle.Asks wider :=
  Program.Asks.mono within asks

end Cycle

end ChannelWatch
