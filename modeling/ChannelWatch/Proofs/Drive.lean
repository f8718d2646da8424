import ChannelWatch.Proofs.Round
import ChannelWatch.Session

/-!
# Rounds on a timeline

A program that is driven on a timeline does a course of it, and its acts join the sites of its
post. Seen from another strand the same acts are things that happen around. So a cycle that a
session runs by hand, with tasks in the background, is a round: `Session.sweep_series` and
`Session.collect_series`. What else it runs by hand happens around: `Session.run_stirs`.
-/

namespace ChannelWatch
set_option autoImplicit false

/-- Two timelines with the same site at every post. -/
structure Timeline.Alike (before after : Timeline) : Prop where
  world : after.world = before.world
  desks : ∀ number, (after.post number).desk = (before.post number).desk
  posts : after.posts.length = before.posts.length

namespace Timeline

theorem Alike.refl (timeline : Timeline) : timeline.Alike timeline := ⟨rfl, fun _ => rfl, rfl⟩

theorem Alike.trans {first middle last : Timeline} (start : first.Alike middle)
    (rest : middle.Alike last) : first.Alike last :=
  ⟨rest.world.trans start.world, fun number => (rest.desks number).trans (start.desks number),
    rest.posts.trans start.posts⟩

theorem Alike.site {before after : Timeline} (alike : before.Alike after) (number : Nat) :
    after.site number = before.site number := by
  rw [Timeline.site, Timeline.site, alike.world, alike.desks]

/-- What is altered at a post that is there. -/
theorem post_alter (timeline : Timeline) (number other : Nat) (change : Post → Post) :
    (timeline.alter number change).post other =
      if number = other ∧ number < timeline.posts.length then change (timeline.post other)
      else timeline.post other := by
  simp only [post, alter, List.getD_eq_getElem?_getD, List.getElem?_modify]
  by_cases here : number = other
  · subst here
    by_cases there : number < timeline.posts.length
    · simp [there]
    · simp [there]
  · simp [here]

/-- A change of a post that spares its desk does not show in any site. -/
theorem alike_alter (timeline : Timeline) (number : Nat) (change : Post → Post)
    (same : ∀ post, (change post).desk = post.desk) :
    timeline.Alike (timeline.alter number change) where
  world := rfl
  desks other := by
    rw [post_alter]
    split
    · exact same _
    · rfl
  posts := by simp [alter]

theorem alike_leave (timeline : Timeline) (strand : Strand) (number : Nat) :
    timeline.Alike (timeline.leave strand number) := by
  have left : timeline.Alike { timeline with line := timeline.line.leave strand } :=
    ⟨rfl, fun _ => rfl, rfl⟩
  exact left.trans (alike_alter _ number _ fun _ => rfl)

theorem alike_goOn (timeline : Timeline) (moment : Nat) : timeline.Alike (timeline.goOn moment) :=
  ⟨rfl, fun _ => rfl, rfl⟩

/-- To face hurdles changes no site. -/
theorem alike_face (strand : Strand) (number : Nat) (request : Request) (hurdles : List Hurdle)
    (timeline : Timeline) :
    timeline.Alike (timeline.face strand number request hurdles).1 := by
  induction hurdles generalizing timeline with
  | nil => exact .refl _
  | cons hurdle hurdles ih =>
    cases hurdle with
    | checkpointLine =>
      have joined := timeline.alike_alter number
        (fun post => { post with line := post.line.join strand }) fun _ => rfl
      unfold face
      simp only
      split
      · exact joined
      split
      · exact joined
      · exact joined.trans (ih _)
    | storeLine =>
      have joined : timeline.Alike { timeline with line := timeline.line.join strand } :=
        ⟨rfl, fun _ => rfl, rfl⟩
      unfold face
      simp only
      split
      · exact joined
      · exact joined.trans (ih _)
    | time partner =>
      unfold face
      simp only
      split
      · exact ih _
      · exact .refl _

theorem alike_proceed (timeline : Timeline) (strand : Strand) (number : Nat) (request : Request)
    (progress : Progress) :
    timeline.Alike (timeline.proceed strand number request progress).1 := by
  unfold proceed
  split
  · exact .refl _
  · exact alike_face _ _ _ _ _

theorem perform_eq (timeline : Timeline) (number : Nat) (request : Request) :
    (timeline.perform number request).2 =
      { timeline with world := ((timeline.site number).perform request).2.world }.alter number
        fun post => { post with desk := ((timeline.site number).perform request).2.desk } := rfl

theorem length_perform (timeline : Timeline) (number : Nat) (request : Request) :
    (timeline.perform number request).2.posts.length = timeline.posts.length := by
  simp [perform_eq, alter]

/-- At its own post a request leaves the site that it makes. -/
theorem site_perform (timeline : Timeline) {number : Nat} (there : number < timeline.posts.length)
    (request : Request) :
    (timeline.perform number request).2.site number =
      ((timeline.site number).perform request).2 := by
  rw [perform_eq, site, post_alter, if_pos ⟨rfl, there⟩]
  rfl

/-- Seen from every post, only things that a freedom allows happen. -/
structure Stirs (freedom : Freedom) (before after : Timeline) : Prop where
  joins : ∀ number, freedom.Joins (before.site number) [] (after.site number)
  posts : after.posts.length = before.posts.length

variable {freedom : Freedom}

theorem Stirs.of_alike {before after : Timeline} (alike : before.Alike after) :
    Stirs freedom before after :=
  ⟨fun number => by rw [alike.site]; exact .rest _, alike.posts⟩

theorem Stirs.trans {first middle last : Timeline} (start : Stirs freedom first middle)
    (rest : Stirs freedom middle last) : Stirs freedom first last :=
  ⟨fun number => by simpa using (start.joins number).append (rest.joins number),
    rest.posts.trans start.posts⟩

/-- A request of a post is made beside those of its own watch and elsewhere for all others. -/
theorem perform_stirs (timeline : Timeline) (number : Nat) {request : Request}
    (may : freedom.requests request) :
    Stirs freedom timeline (timeline.perform number request).2 := by
  refine ⟨fun other => ?_, timeline.length_perform number request⟩
  by_cases here : number = other ∧ number < timeline.posts.length
  · obtain ⟨rfl, there⟩ := here
    rw [timeline.site_perform there]
    exact .stir (.beside may) (.rest _)
  · have apart : (timeline.perform number request).2.site other =
        { timeline.site other with
          world := (Site.perform ⟨timeline.world, (timeline.post number).desk⟩ request).2.world } := by
      rw [perform_eq, site, post_alter]
      have elsewhere : ¬ (number = other ∧ number < timeline.posts.length) := here
      simp only [elsewhere]
      rfl
    rw [apart]
    exact .stir (.elsewhere (timeline.post number).desk may) (.rest _)

theorem cancel_stirs (timeline : Timeline) (number : Nat) :
    Stirs freedom timeline (timeline.cancel number) := by
  refine ⟨fun other => ?_, by simp [cancel, alter]⟩
  show freedom.Joins _ [] ⟨timeline.world, ((timeline.cancel number).post other).desk⟩
  rw [cancel, post_alter]
  split
  · exact .stir .cancelled (.rest _)
  · exact .rest _

end Timeline

/-- How a program of a post goes on on a timeline: between its requests no site changes. -/
inductive Drives {α : Type} (number : Nat) : Program α → Timeline → Program α → Timeline → Prop where
  | rest (program : Program α) {before after : Timeline} (alike : before.Alike after) :
      Drives number program before program after
  | reply {guard : Guard} {request : Request} {next : Outcome guard request.Reply → Program α}
      {left : Program α} {before faced after : Timeline} (alike : before.Alike faced)
      (rest : Drives number (next (.reply (faced.perform number request).1))
        (faced.perform number request).2 left after) :
      Drives number (.ask guard request next) before left after
  | expire {guard : Guard} {request : Request} {next : Outcome guard request.Reply → Program α}
      {left : Program α} {before after : Timeline} (timed : guard.timed = true)
      (rest : Drives number (next (.expired timed)) before left after) :
      Drives number (.ask guard request next) before left after
  | cancel {guard : Guard} {request : Request} {next : Outcome guard request.Reply → Program α}
      {left : Program α} {before after : Timeline} (cancellable : guard.cancellable = true)
      (rest : Drives number (next (.cancelled cancellable)) before left after) :
      Drives number (.ask guard request next) before left after

namespace Drives

variable {α : Type} {number : Nat} {program left : Program α} {before after : Timeline}

theorem of_alike {faced : Timeline} (alike : before.Alike faced)
    (drives : Drives number program faced left after) : Drives number program before left after := by
  induction drives with
  | rest program same => exact .rest program (alike.trans same)
  | reply same rest _ => exact .reply (alike.trans same) rest
  | expire timed _ ih => exact .expire timed (ih alike)
  | cancel cancellable _ ih => exact .cancel cancellable (ih alike)

theorem posts (drives : Drives number program before left after) :
    after.posts.length = before.posts.length := by
  induction drives with
  | rest program alike => exact alike.posts
  | reply alike _ ih => rw [ih, Timeline.length_perform, alike.posts]
  | expire timed _ ih => exact ih
  | cancel cancellable _ ih => exact ih

/-- What a program does is a course of it, and the acts join the sites of its post. -/
theorem course {freedom : Freedom} (drives : Drives number program before left after)
    (there : number < before.posts.length) :
    ∃ acts, program.Course acts left ∧
      freedom.Joins (before.site number) acts (after.site number) := by
  induction drives with
  | rest program alike => exact ⟨[], .rest _, by rw [alike.site]; exact .rest _⟩
  | @reply guard request next left before faced after alike rest ih =>
    have faced_there : number < faced.posts.length := by rwa [alike.posts]
    have performed : number < (faced.perform number request).2.posts.length := by
      rwa [Timeline.length_perform]
    obtain ⟨acts, course, joins⟩ := ih performed
    rw [faced.site_perform faced_there] at joins
    rw [← alike.site number]
    exact ⟨⟨faced.site number, request⟩ :: acts, .reply (faced.site number) course,
      .act ⟨faced.site number, request⟩ joins⟩
  | expire timed _ ih =>
    obtain ⟨acts, course, joins⟩ := ih there
    exact ⟨acts, .expire timed course, joins⟩
  | cancel cancellable _ ih =>
    obtain ⟨acts, course, joins⟩ := ih there
    exact ⟨acts, .cancel cancellable course, joins⟩

/-- Seen from any post, what a program does happens around. -/
theorem stirs {freedom : Freedom} (drives : Drives number program before left after)
    (asks : program.Asks freedom.requests) :
    before.Stirs freedom after ∧ left.Asks freedom.requests := by
  induction drives with
  | rest program alike => exact ⟨.of_alike alike, asks⟩
  | @reply guard request next left before faced after alike rest ih =>
    obtain ⟨later, asked⟩ := ih (asks.2 _)
    exact ⟨(Timeline.Stirs.of_alike alike).trans ((faced.perform_stirs number asks.1).trans later),
      asked⟩
  | expire timed _ ih => exact ih (asks.2 _)
  | cancel cancellable _ ih => exact ih (asks.2 _)

end Drives

namespace Timeline

variable {α : Type}

theorem drive_drives (strand : Strand) (number : Nat) (deadline : Option Nat)
    (program : Program α) (progress : Progress) (timeline : Timeline) :
    Drives number program timeline
      (drive strand number deadline program progress timeline).1.program
      (drive strand number deadline program progress timeline).2 := by
  induction program generalizing progress timeline with
  | done value => exact .rest _ (.refl _)
  | ask guard request next ih =>
    rw [drive]
    split
    · rename_i cancelled
      exact .cancel cancelled.1 ((ih _ _ _).of_alike (timeline.alike_leave strand number))
    · have alike := timeline.alike_proceed strand number request progress
      generalize timeline.proceed strand number request progress = proceeded at alike ⊢
      obtain ⟨faced, waiting⟩ := proceeded
      cases waiting with
      | none => exact .reply alike ((ih _ _ _).of_alike (alike_leave _ strand number))
      | some progress =>
        simp only
        split
        · rename_i expired
          exact .expire expired.1
            ((ih _ _ _).of_alike (alike.trans (faced.alike_leave strand number)))
        · exact .rest _ alike

theorem drive_post (strand : Strand) (number : Nat) (deadline : Option Nat)
    (program : Program α) (progress : Progress) (timeline : Timeline) :
    (drive strand number deadline program progress timeline).1.post = number := by
  induction program generalizing progress timeline with
  | done value => rfl
  | ask guard request next ih =>
    rw [drive]
    split
    · exact ih _ _ _
    · split
      · exact ih _ _ _
      · split
        · exact ih _ _ _
        · rfl

end Timeline

namespace Task

variable {freedom : Freedom}

/-- The task makes no requests but those that a freedom allows. -/
def Keeps (freedom : Freedom) : Task → Prop
  | collecting watch _ _ cycle =>
    (Cycle.collect watch.profile).Asks freedom.requests ∧
      ∀ run ∈ cycle, run.program.Asks freedom.requests
  | sweeping watch _ _ cycle =>
    (Cycle.sweep watch.profile).Asks freedom.requests ∧
      ∀ run ∈ cycle, run.program.Asks freedom.requests
  | attending _ => freedom.requests .resetConnections
  | cancelling _ _ => True
  | finished => True

theorem collected_stirs {watch : Watch} {ticker : Ticker} {before after : Timeline}
    {run : Run (Except CycleError Collected)} (asks : (Cycle.collect watch.profile).Asks freedom.requests)
    (stirs : before.Stirs freedom after) (left : run.program.Asks freedom.requests) :
    before.Stirs freedom (collected watch ticker (run, after)).2 ∧
      (collected watch ticker (run, after)).1.Keeps freedom := by
  unfold collected
  simp only
  split
  · exact ⟨stirs, asks, by simpa using left⟩
  · exact ⟨stirs, asks, by simp⟩
  · exact ⟨stirs.trans (.of_alike (Timeline.alike_alter _ _ _ fun _ => rfl)), asks, by simp⟩

theorem swept_stirs {watch : Watch} {ticker : Ticker} {before after : Timeline}
    {run : Run (Except CycleError SweepReport)} (asks : (Cycle.sweep watch.profile).Asks freedom.requests)
    (stirs : before.Stirs freedom after) (left : run.program.Asks freedom.requests) :
    before.Stirs freedom (swept watch ticker (run, after)).2 ∧
      (swept watch ticker (run, after)).1.Keeps freedom := by
  unfold swept
  simp only
  split
  · exact ⟨stirs, asks, by simpa using left⟩
  · exact ⟨stirs, asks, by simp⟩

theorem attend_stirs (post : Nat) (timeline : Timeline) (may : freedom.requests .resetConnections) :
    timeline.Stirs freedom (attend post timeline) := by
  unfold attend
  split
  · exact .of_alike (.refl _)
  · rename_i error inbox taken
    have alike := timeline.alike_alter post (fun p => { p with inbox }) fun _ => rfl
    simp only
    split
    · exact (Timeline.Stirs.of_alike alike).trans (Timeline.perform_stirs _ post may)
    · exact .of_alike alike

/-- A task that goes on does what a freedom allows, and still makes no other requests. -/
theorem resume_stirs (strand : Strand) (timeline : Timeline) {task : Task}
    (keeps : task.Keeps freedom) :
    timeline.Stirs freedom (task.resume strand timeline).2 ∧
      (task.resume strand timeline).1.Keeps freedom := by
  have idle : timeline.Stirs freedom timeline := .of_alike (.refl _)
  cases task with
  | collecting watch post ticker cycle =>
    cases cycle with
    | some run =>
      obtain ⟨stirs, left⟩ := (timeline.drive_drives strand run.post run.deadline run.program
        run.progress).stirs (keeps.2 run rfl)
      exact collected_stirs keeps.1 stirs left
    | none =>
      rw [resume]
      split
      · exact ⟨idle, trivial⟩
      split
      · exact ⟨idle, keeps⟩
      · obtain ⟨stirs, left⟩ := (timeline.drive_drives strand post _ _ _).stirs keeps.1
        exact collected_stirs keeps.1 stirs left
  | sweeping watch post ticker cycle =>
    cases cycle with
    | some run =>
      obtain ⟨stirs, left⟩ := (timeline.drive_drives strand run.post run.deadline run.program
        run.progress).stirs (keeps.2 run rfl)
      exact swept_stirs keeps.1 stirs left
    | none =>
      rw [resume]
      split
      · exact ⟨idle, trivial⟩
      split
      · exact ⟨idle, keeps⟩
      · obtain ⟨stirs, left⟩ := (timeline.drive_drives strand post _ _ _).stirs keeps.1
        exact swept_stirs keeps.1 stirs left
  | attending post =>
    rw [resume]
    split
    · exact ⟨idle, trivial⟩
    · exact ⟨attend_stirs post timeline keeps, keeps⟩
  | cancelling post moment =>
    rw [resume]
    split
    · exact ⟨idle, trivial⟩
    · exact ⟨timeline.cancel_stirs post, trivial⟩
  | finished => exact ⟨idle, trivial⟩

end Task

namespace Scene

variable {α : Type} {freedom : Freedom}

/-- From one scene to another the foreground does acts of its program, and the tasks what a
freedom allows. -/
structure Follows (freedom : Freedom) (scene : Scene α) (acts : List Act) (next : Scene α) :
    Prop where
  post : next.foreground.run.post = scene.foreground.run.post
  course : scene.foreground.run.program.Course acts next.foreground.run.program
  joins : freedom.Joins (scene.timeline.site scene.foreground.run.post) acts
    (next.timeline.site scene.foreground.run.post)
  /-- If the foreground makes no other requests either, the same holds seen from every post. -/
  around : scene.foreground.run.program.Asks freedom.requests →
    scene.timeline.Stirs freedom next.timeline
  keeps : ∀ task ∈ next.tasks, task.Keeps freedom
  posts : next.timeline.posts.length = scene.timeline.posts.length

theorem Follows.refl {scene : Scene α} (keeps : ∀ task ∈ scene.tasks, task.Keeps freedom) :
    Follows freedom scene [] scene :=
  ⟨rfl, .rest _, .rest _, fun _ => .of_alike (.refl _), keeps, rfl⟩

theorem Follows.trans {first middle last : Scene α} {before behind : List Act}
    (start : Follows freedom first before middle) (rest : Follows freedom middle behind last) :
    Follows freedom first (before ++ behind) last where
  post := rest.post.trans start.post
  course := start.course.trans rest.course
  joins := start.joins.append (by rw [← start.post]; exact rest.joins)
  around asks := (start.around asks).trans (rest.around (start.course.left_asks asks))
  keeps := rest.keeps
  posts := rest.posts.trans start.posts

theorem resume_follows (scene : Scene α) (keeps : ∀ task ∈ scene.tasks, task.Keeps freedom)
    (there : scene.foreground.run.post < scene.timeline.posts.length) (strand : Strand) :
    ∃ acts, Follows freedom scene acts (scene.resume strand) := by
  unfold resume
  split
  · have drives := scene.timeline.drive_drives Foreground.strand scene.foreground.run.post
      scene.foreground.run.deadline scene.foreground.run.program scene.foreground.run.progress
    obtain ⟨acts, course, joins⟩ := drives.course there
    exact ⟨acts, Timeline.drive_post _ _ _ _ _ _, course, joins, fun asks => (drives.stirs asks).1,
      keeps, drives.posts⟩
  · split
    · exact ⟨[], .refl keeps⟩
    · rename_i task found
      have mem : task ∈ scene.tasks := List.mem_of_getElem? found
      obtain ⟨stirs, kept⟩ := Task.resume_stirs strand scene.timeline (keeps task mem)
      refine ⟨[], rfl, .rest _, stirs.joins _, fun _ => stirs, fun other among => ?_, stirs.posts⟩
      rcases List.mem_or_eq_of_mem_set among with among | rfl
      · exact keeps other among
      · exact kept

theorem step_follows {scene next : Scene α} (keeps : ∀ task ∈ scene.tasks, task.Keeps freedom)
    (there : scene.foreground.run.post < scene.timeline.posts.length)
    (stepped : scene.step = some next) : ∃ acts, Follows freedom scene acts next := by
  obtain ⟨⟨moment, strand⟩, -, rfl⟩ := Option.map_eq_some_iff.1 stepped
  have alike := scene.timeline.alike_goOn moment
  have waited : Follows freedom scene [] { scene with timeline := scene.timeline.goOn moment } :=
    ⟨rfl, .rest _, by rw [alike.site]; exact .rest _, fun _ => .of_alike alike, keeps, alike.posts⟩
  obtain ⟨acts, resumed⟩ :=
    resume_follows { scene with timeline := scene.timeline.goOn moment } keeps there strand
  exact ⟨acts, waited.trans resumed⟩

/-- When the foreground has its value, its program is done. -/
theorem done_of_result {scene : Scene α} {value : α} (result : scene.result? = some value) :
    scene.foreground.run.program = .done value := by
  unfold result? Run.result? at result
  split at result
  · split at result
    · rename_i found program
      rw [program, Option.some.inj result]
    · cases result
  · cases result

theorem play_follows {fuel : Nat} {scene last : Scene α} {value : α}
    (keeps : ∀ task ∈ scene.tasks, task.Keeps freedom)
    (there : scene.foreground.run.post < scene.timeline.posts.length)
    (played : scene.play fuel = some (value, last)) :
    ∃ acts, Follows freedom scene acts last ∧ last.foreground.run.program = .done value := by
  induction fuel generalizing scene with
  | zero => cases played
  | succ fuel ih =>
    unfold play at played
    split at played
    · rename_i found result
      obtain ⟨rfl, rfl⟩ : found = value ∧ scene = last := by simpa using played
      exact ⟨[], .refl keeps, done_of_result result⟩
    · obtain ⟨next, stepped, rest⟩ := Option.bind_eq_some_iff.1 played
      obtain ⟨before, first⟩ := step_follows keeps there stepped
      obtain ⟨behind, later, done⟩ := ih first.keeps (by rw [first.post, first.posts]; exact there) rest
      exact ⟨before ++ behind, first.trans later, done⟩

end Scene

namespace Session

variable {α : Type} {freedom : Freedom} {session after : Session}

/-- A program that a session waits for does a course to its end, whatever the tasks in the
background do meanwhile; if it makes no requests but those that may happen around, that is all
that happens. -/
theorem await_launch {number : Nat} {deadline : Option Nat} {program : Program α} {earliest : Nat}
    {awaited : List Strand} {value : α} (keeps : ∀ task ∈ session.tasks, task.Keeps freedom)
    (there : number < session.timeline.posts.length)
    (ran : session.await (session.timeline.launch Foreground.strand number deadline program) earliest
      awaited = some (value, after)) :
    (∃ acts, program.Course acts (.done value) ∧
      freedom.Joins (session.timeline.site number) acts (after.timeline.site number)) ∧
    (program.Asks freedom.requests → session.timeline.Stirs freedom after.timeline) ∧
    ∀ task ∈ after.tasks, task.Keeps freedom := by
  obtain ⟨⟨found, last⟩, played, same⟩ := Option.map_eq_some_iff.1 ran
  obtain ⟨rfl, rfl⟩ := Prod.mk.inj same
  have drives := session.timeline.drive_drives Foreground.strand number deadline program
    program.progress
  have post := Timeline.drive_post Foreground.strand number deadline program program.progress
    session.timeline
  obtain ⟨before, course, joins⟩ := drives.course there
  have there' : (session.timeline.launch Foreground.strand number deadline program).1.post <
      (session.timeline.launch Foreground.strand number deadline program).2.posts.length := by
    rw [Timeline.launch, post, drives.posts]
    exact there
  obtain ⟨behind, follows, done⟩ := Scene.play_follows keeps there' played
  have joins' := follows.joins
  simp only [Timeline.launch, post] at joins'
  refine ⟨⟨before ++ behind, course.trans (done ▸ follows.course), joins.append joins'⟩,
    fun asks => ?_, follows.keeps⟩
  obtain ⟨stirs, left⟩ := drives.stirs asks
  exact stirs.trans (follows.around left)

/-- What a session runs by hand may happen around. -/
theorem run_stirs {number : Nat} {program : Program α} {value : α}
    (keeps : ∀ task ∈ session.tasks, task.Keeps freedom)
    (there : number < session.timeline.posts.length) (asks : program.Asks freedom.requests)
    (ran : session.run number program = some (value, after)) :
    session.timeline.Stirs freedom after.timeline :=
  (await_launch keeps there ran).2.1 asks

theorem cycle_course {stationed : Stationed} {deadline : Option Nat} {program : Program α}
    {cancelAfter : Option Nat} {value : α} (keeps : ∀ task ∈ session.tasks, task.Keeps freedom)
    (there : stationed.post < session.timeline.posts.length)
    (ran : session.cycle stationed
      (session.timeline.launch Foreground.strand stationed.post deadline program) cancelAfter =
        some (value, after)) :
    ∃ acts, program.Course acts (.done value) ∧
      freedom.Joins (session.timeline.site stationed.post) acts
        (after.timeline.site stationed.post) := by
  unfold cycle at ran
  split at ran
  · exact (await_launch keeps there ran).1
  · rename_i delay
    have quiet : (Task.cancelling stationed.post (session.timeline.now + delay)).Keeps freedom :=
      trivial
    generalize Task.cancelling stationed.post (session.timeline.now + delay) = alarm at quiet ran
    have alarmed : ∀ task ∈ (session.add alarm).tasks, task.Keeps freedom := by
      intro task mem
      rcases List.mem_append.1 mem with mem | mem
      · exact keeps task mem
      · rw [List.mem_singleton.1 mem]
        exact quiet
    have begun : (session.add alarm).await ((session.add alarm).timeline.launch Foreground.strand
        stationed.post deadline program) 0 [(session.add alarm).tasks.length] =
          some (value, after) := ran
    exact (await_launch alarmed there begun).1

/-- A sweep by hand is a round, if the tasks in the background do not sweep. -/
theorem sweep_series {between : Freedom} {stationed : Stationed}
    (here : session.stationed = some stationed)
    (there : stationed.post < session.timeline.posts.length)
    (keeps : ∀ task ∈ session.tasks, task.Keeps freedom) {cancelAfter : Option Nat}
    {result : Except CycleError SweepReport} (ran : session.sweep cancelAfter = some (result, after)) :
    ∃ acts, Series Cycle.sweep between freedom (session.timeline.site stationed.post)
      [⟨stationed.watch.profile, acts⟩] (after.timeline.site stationed.post) := by
  rw [sweep, here, Option.bind_some] at ran
  obtain ⟨acts, course, joins⟩ := cycle_course keeps there ran
  exact ⟨acts, .round stationed.watch.profile course joins (.rest _)⟩

/-- A collect cycle by hand is a round. -/
theorem collect_series {between : Freedom} {stationed : Stationed}
    (here : session.stationed = some stationed)
    (there : stationed.post < session.timeline.posts.length)
    (keeps : ∀ task ∈ session.tasks, task.Keeps freedom) {cancelAfter : Option Nat}
    {result : Except CycleError Collected} (ran : session.collect cancelAfter = some (result, after)) :
    ∃ acts, Series Cycle.collect between freedom (session.timeline.site stationed.post)
      [⟨stationed.watch.profile, acts⟩] (after.timeline.site stationed.post) := by
  rw [collect, here, Option.bind_some] at ran
  obtain ⟨acts, course, joins⟩ := cycle_course keeps there ran
  exact ⟨acts, .round stationed.watch.profile course joins (.rest _)⟩

end Session

end ChannelWatch
