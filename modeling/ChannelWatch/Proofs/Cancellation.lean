import ChannelWatch.Proofs.Strand

/-!
# What a cancelled watch still does

From the moment on at which a watch is cancelled it begins nothing new. A collect cycle that is at
its commit carries that out, and a sweep that has decided how an event ended notes that; what else
its strands do is to read. `Timeline.Leads` says what may happen after a moment, and the main
statement is `cancelled_winds_up`.
-/

namespace ChannelWatch
set_option autoImplicit false

/-- Anything may happen but that a watch is built again. -/
def Freedom.anything : Freedom where
  requests _ := True
  chains _ _ := True
  orders := True
  rebuilding := False

/-- Nothing happens but that the watch is cancelled. -/
def Freedom.nothing : Freedom where
  requests _ := False
  chains _ _ := False
  orders := False
  rebuilding := False

theorem Program.asks_anything {α : Type} (program : Program α) :
    program.Asks Freedom.anything.requests := by
  induction program with
  | done value => trivial
  | ask guard request next ih => exact ⟨trivial, ih⟩

theorem Task.keeps_anything (task : Task) : task.Keeps Freedom.anything := by
  cases task with
  | collecting | sweeping => exact ⟨Program.asks_anything _, fun run _ => run.program.asks_anything⟩
  | _ => trivial

/-- A watch that has to stop has to stop for good. -/
theorem Freedom.Joins.cancelled {first last : Site} {acts : List Act}
    (joins : Freedom.anything.Joins first acts last) (told : first.desk.cancelled = true) :
    last.desk.cancelled = true := by
  induction joins with
  | rest site => exact told
  | stir stir _ ih =>
    apply ih
    cases stir with
    | beside may => exact (Site.perform_cancelled _ _).trans told
    | cancelled => rfl
    | rebuilt may => exact absurd may id
    | _ => exact told
  | act act _ ih => exact ih ((act.site.perform_cancelled act.request).trans told)

namespace Timeline

theorem Stirs.isCancelled {before after : Timeline} (stirs : before.Stirs Freedom.anything after)
    {number : Nat} (cancelled : before.isCancelled number = true) :
    after.isCancelled number = true :=
  (stirs.joins number).cancelled cancelled

/-- One moment leads to another: time passes, runs and tasks go on, watches are built and
cancelled, and the world is changed from outside. -/
inductive Leads : Timeline → Timeline → Prop where
  | rest (timeline : Timeline) : Leads timeline timeline
  | wait {timeline last : Timeline} (moment : Nat) (rest : Leads (timeline.goOn moment) last) :
      Leads timeline last
  | run {α : Type} {timeline last : Timeline} (strand : Strand) (run : Run α)
      (rest : Leads (timeline.resume strand run).2 last) : Leads timeline last
  | task {timeline last : Timeline} (strand : Strand) (task : Task)
      (rest : Leads (task.resume strand timeline).2 last) : Leads timeline last
  | build {timeline last : Timeline} (desk : Desk) (rest : Leads (timeline.setUp desk).2 last) :
      Leads timeline last
  | cancel {timeline last : Timeline} (number : Nat) (rest : Leads (timeline.cancel number) last) :
      Leads timeline last
  | reshape {timeline last : Timeline} (world : World) (rest : Leads { timeline with world } last) :
      Leads timeline last

theorem Leads.trans {first middle last : Timeline} (start : first.Leads middle)
    (rest : middle.Leads last) : first.Leads last := by
  induction start with
  | rest => exact rest
  | wait moment _ ih => exact .wait moment (ih rest)
  | run strand run _ ih => exact .run strand run (ih rest)
  | task strand task _ ih => exact .task strand task (ih rest)
  | build desk _ ih => exact .build desk (ih rest)
  | cancel number _ ih => exact .cancel number (ih rest)
  | reshape world _ ih => exact .reshape world (ih rest)

theorem isCancelled_setUp {timeline : Timeline} {number : Nat} (desk : Desk)
    (cancelled : timeline.isCancelled number = true) :
    (timeline.setUp desk).2.isCancelled number = true := by
  have there := there_of_isCancelled cancelled
  have same : (timeline.setUp desk).2.post number = timeline.post number := by
    simp only [post, setUp, List.getD_eq_getElem?_getD, List.getElem?_append_left there]
  rwa [isCancelled, same]

/-- To tell a watch to stop makes it one that has to. -/
theorem isCancelled_cancel {timeline : Timeline} {number : Nat}
    (there : number < timeline.posts.length) :
    (timeline.cancel number).isCancelled number = true := by
  rw [isCancelled, cancel, post_alter, if_pos ⟨rfl, there⟩]

/-- A watch that is cancelled stays so. -/
theorem Leads.isCancelled {first last : Timeline} (leads : first.Leads last) {number : Nat}
    (cancelled : first.isCancelled number = true) : last.isCancelled number = true := by
  induction leads with
  | rest => exact cancelled
  | wait | reshape => rename_i ih; exact ih cancelled
  | run strand run _ ih =>
    exact ih (((drive_drives strand run.post run.deadline run.program run.progress _).stirs
      run.program.asks_anything).1.isCancelled cancelled)
  | task strand task _ ih =>
    exact ih ((Task.resume_stirs strand _ task.keeps_anything).1.isCancelled cancelled)
  | build desk _ ih => exact ih (isCancelled_setUp desk cancelled)
  | cancel number _ ih => exact ih ((Timeline.cancel_stirs _ number).isCancelled cancelled)

end Timeline

theorem Scene.resume_leads {α : Type} (scene : Scene α) (strand : Strand) :
    scene.timeline.Leads (scene.resume strand).timeline := by
  unfold resume
  by_cases front : strand = Foreground.strand
  · rw [if_pos front]
    exact .run Foreground.strand scene.foreground.run (.rest _)
  · rw [if_neg front]
    cases scene.tasks[strand - 1]? with
    | none => exact .rest _
    | some task => exact .task strand task (.rest _)

/-- A scene goes from moment to moment. -/
theorem Scene.step_leads {α : Type} {scene next : Scene α} (stepped : scene.step = some next) :
    scene.timeline.Leads next.timeline := by
  obtain ⟨⟨moment, strand⟩, -, rfl⟩ := Option.map_eq_some_iff.1 stepped
  exact .wait moment (resume_leads { scene with timeline := scene.timeline.goOn moment } strand)

theorem Scene.play_leads {α : Type} {fuel : Nat} {scene last : Scene α} {value : α}
    (played : scene.play fuel = some (value, last)) : scene.timeline.Leads last.timeline := by
  induction fuel generalizing scene with
  | zero => cases played
  | succ fuel ih =>
    unfold play at played
    split at played
    · obtain ⟨rfl, rfl⟩ : _ = value ∧ scene = last := by simpa using played
      exact .rest _
    · obtain ⟨next, stepped, rest⟩ := Option.bind_eq_some_iff.1 played
      exact (step_leads stepped).trans (ih rest)

/-- What a session waits for leads from moment to moment. -/
theorem Session.await_leads {α : Type} {session after : Session} {begun : Run α × Timeline}
    {earliest : Nat} {awaited : List Strand} {value : α}
    (ran : session.await begun earliest awaited = some (value, after)) :
    begun.2.Leads after.timeline := by
  obtain ⟨⟨found, last⟩, played, same⟩ := Option.map_eq_some_iff.1 ran
  obtain ⟨-, rfl⟩ := Prod.mk.inj same
  exact Scene.play_leads played

namespace Request

/-- The request is work that is begun anew: a job, a question to the chain, a new connection. -/
def begins : Request → Prop
  | .offer _ | .latestBlock | .sendQuery _ | .logs _ | .resetConnections => True
  | _ => False

/-- The request reads what a cycle starts with, or asks whether the watch has to stop. -/
def reads : Request → Prop
  | .store .unscheduledEvents | .isCancelled => True
  | request => request.surveys

theorem not_begins_of_reads {request : Request} (reads : request.reads) : ¬ request.begins := by
  cases request <;> first | exact id | exact fun _ => reads

theorem reads_of_surveys {request : Request} (surveys : request.surveys) : request.reads := by
  cases request with
  | store t => cases t <;> first | exact surveys | trivial
  | _ => first | exact surveys | trivial

end Request

/-- What is done belongs to the cycle that a strand was at. -/
def Continues (profile : Profile) (past future : List Act) : Prop :=
  future = [] ∨ ∃ earlier own, past = earlier ++ own ∧
    ((∃ left, (Cycle.collect profile).run.Course (own ++ future) left) ∨
      ∃ left, (Cycle.sweep profile).run.Course (own ++ future) left)

/-- What is left to do for a strand of a cancelled watch, by what it has done before. -/
inductive WindsUp (profile : Profile) (past : List Act) : List Act → Prop where
  | reading {future : List Act} (reads : ∀ act ∈ future, act.request.reads) :
      WindsUp profile past future
  /-- A collect cycle has scanned its window to the end and commits what it has found. -/
  | committing {earlier own : List Act} {found : List Log} {window : Window} (site : Site)
      (parts : past = earlier ++ own) (scanned : (Cycle.scan profile).Gives own (window, found))
      (ahead : window.isEmpty = false) : WindsUp profile past [⟨site, .advance found window⟩]
  /-- A sweep has decided how an event ended, and notes it. -/
  | noting {earlier own rest : List Act} {listed : Site} {event : Id} {disposition : Disposition}
      (noted : Site) (parts : past = earlier ++ ⟨listed, .store .unscheduledEvents⟩ :: own)
      (owes : Owes profile listed.world.store.unscheduled .empty own event disposition)
      (ends : ∀ act ∈ rest, act.request = .isCancelled) :
      WindsUp profile past (⟨noted, .store (.disposeEvent event disposition)⟩ :: rest)

namespace WindsUp

variable {profile : Profile} {past future earlier own : List Act}

theorem not_begins (windsUp : WindsUp profile past future) :
    ∀ act ∈ future, ¬ act.request.begins := by
  cases windsUp with
  | reading reads => exact fun act mem => Request.not_begins_of_reads (reads act mem)
  | committing site => simp [Request.begins]
  | noting noted parts owes ends =>
    refine List.forall_mem_cons.2 ⟨id, fun act mem => ?_⟩
    rw [ends act mem]
    exact id

end WindsUp

section

variable {profile : Profile} {past future earlier own : List Act}

theorem winds_up_idle : Continues profile past [] ∧ WindsUp profile past [] :=
  ⟨.inl rfl, .reading (by simp)⟩

theorem collect_winds_up {left : Program (Except CycleError Collected)}
    (parts : past = earlier ++ own)
    (stops : (Cycle.collect profile).run.Stops own future left) :
    Continues profile past future ∧ WindsUp profile past future := by
  refine ⟨.inr ⟨earlier, own, parts, .inl stops.whole⟩, ?_⟩
  rcases Cycle.collect_stops stops with surveys | ⟨site, found, window, rfl, scanned, ahead⟩
  · exact .reading fun act mem => Request.reads_of_surveys (surveys act mem)
  · exact .committing site parts scanned ahead

theorem sweep_winds_up {left : Program (Except CycleError SweepReport)}
    (parts : past = earlier ++ own) (stops : (Cycle.sweep profile).run.Stops own future left) :
    Continues profile past future ∧ WindsUp profile past future := by
  refine ⟨.inr ⟨earlier, own, parts, .inr stops.whole⟩, ?_⟩
  rcases Cycle.sweep_stops stops with reads |
    ⟨listed, own, event, disposition, noted, rest, rfl, owes, rfl, ends⟩
  · refine .reading fun act mem => ?_
    rcases reads act mem with same | same <;> rw [same] <;> trivial
  · exact .noting noted parts owes ends

end

/-- Without new work the queue and the chain stay as they are. -/
theorem Freedom.Joins.partners {first last : Site} {acts : List Act}
    (joins : Freedom.nothing.Joins first acts last) (quiet : ∀ act ∈ acts, ¬ act.request.begins) :
    last.world.queue = first.world.queue ∧ last.world.chain = first.world.chain := by
  have carries : Freedom.nothing.Carries fun before after =>
      after.queue = before.queue ∧ after.chain = before.chain :=
    { refl := fun _ => ⟨rfl, rfl⟩
      trans := fun start rest => ⟨rest.1.trans start.1, rest.2.trans start.2⟩
      request := fun _ _ may => absurd may id
      chain := fun _ _ may => absurd may id
      queue := fun _ _ may => absurd may id }
  refine carries.joins joins fun act mem => ?_
  have quiet := quiet act mem
  obtain ⟨site, request⟩ := act
  have makes := site.makes request
  show (site.perform request).2.world.queue = _ ∧ (site.perform request).2.world.chain = _
  generalize (site.perform request).2.world = after at makes
  cases makes with
  | accepted | asked | reset => exact absurd trivial quiet
  | _ => exact ⟨rfl, rfl⟩

/-- How a strand that works for a watch goes on after a moment at which the watch is cancelled. -/
structure Worker.Quits {σ : Type} (worker : Worker σ) (profile : Profile) (work : σ)
    (early late : List Timeline) : Prop where
  /-- It begins nothing new. -/
  quiet : ∀ act ∈ worker.along (worker.after work early) late, ¬ act.request.begins
  /-- It begins no other cycle. -/
  continues : Continues profile (worker.along work early)
    (worker.along (worker.after work early) late)
  /-- It carries out what it had come to. -/
  windsUp : WindsUp profile (worker.along work early)
    (worker.along (worker.after work early) late)
  /-- In no turn does it touch the queue or the chain. -/
  spares : ∀ before timeline behind, late = before ++ timeline :: behind →
    let turn := worker.resume timeline (worker.after (worker.after work early) before)
    turn.2.world.queue = timeline.world.queue ∧ turn.2.world.chain = timeline.world.chain

namespace Worker

variable {σ : Type} {worker : Worker σ} {profile : Profile} {work : σ} {post : Nat}

theorem along_append (worker : Worker σ) (work : σ) (before behind : List Timeline) :
    worker.along work (before ++ behind) =
      worker.along work before ++ worker.along (worker.after work before) behind := by
  induction before generalizing work with
  | nil => rfl
  | cons timeline before ih => simp [along, after, ih]

/-- A strand quits if an invariant of its work tells what it winds up with. -/
theorem Quits.of_invariant {I : List Act → σ → Prop} (start : I [] work)
    (turn : ∀ past work timeline, I past work →
      I (past ++ worker.acts timeline work) (worker.resume timeline work).1)
    (joins : ∀ past work timeline, I past work → post < timeline.posts.length →
      Freedom.nothing.Joins (timeline.site post) (worker.acts timeline work)
        ((worker.resume timeline work).2.site post))
    (ends : ∀ past work late, I past work →
      (∀ timeline ∈ late, timeline.isCancelled post = true) →
      Continues profile past (worker.along work late) ∧
        WindsUp profile past (worker.along work late))
    (early : List Timeline) {late : List Timeline}
    (cancelled : ∀ timeline ∈ late, timeline.isCancelled post = true) :
    worker.Quits profile work early late := by
  have halfway : I (worker.along work early) (worker.after work early) := by
    simpa using worker.keeps turn start early
  obtain ⟨continues, windsUp⟩ := ends _ _ late halfway cancelled
  refine ⟨windsUp.not_begins, continues, windsUp, ?_⟩
  rintro before timeline behind rfl
  have here := Timeline.there_of_isCancelled (cancelled timeline (by simp))
  have done := joins _ _ timeline (worker.keeps turn halfway before) here
  refine done.partners fun act mem => windsUp.not_begins act ?_
  rw [along_append]
  exact List.mem_append_right _ (List.mem_append_left _ mem)

end Worker

theorem Task.minds_tasks {watch : Watch} {post now : Nat} {task : Task}
    (mem : task ∈ watch.tasks post now) : task.Minds watch post [] := by
  simp only [Watch.tasks, List.mem_cons, List.not_mem_nil, or_false] at mem
  rcases mem with rfl | rfl | rfl
  · exact .collecting _ (by simp)
  · exact .sweeping _ (by simp)
  · exact .attending

theorem Run.quits {α : Type} {cycle : Cycle α} {profile : Profile} {post : Nat}
    (parked : cycle.run.Parked)
    (ends : ∀ {past earlier own future left}, past = earlier ++ own →
      cycle.run.Stops own future left →
      Continues profile past future ∧ WindsUp profile past future)
    (strand : Strand) (deadline : Option Nat) (early : List Timeline) {late : List Timeline}
    (cancelled : ∀ timeline ∈ late, timeline.isCancelled post = true) :
    (worker strand).Quits profile (cycle.run.begun post deadline) early late := by
  refine .of_invariant (underway_begun parked post deadline [])
    (fun past run timeline underway => underway.turn strand timeline) ?_ ?_ early cancelled
  · rintro past run timeline underway there
    obtain rfl := underway.post
    exact (run.driven strand timeline).joins _ there
  · intro past run late underway cancelled
    rcases underway.stops strand cancelled with idle | ⟨earlier, own, left, parts, stops⟩
    · rw [idle]
      exact winds_up_idle
    · exact ends parts stops

/-- After a moment at which a watch is cancelled neither its tasks nor a cycle that is run by hand
begin anything new: they read, carry out a commit that was next, or note how an event ended that
was decided. -/
theorem cancelled_winds_up (watch : Watch) (post : Nat) (strand : Strand) {moment : Timeline}
    (cancelled : moment.isCancelled post = true) (early : List Timeline) {late : List Timeline}
    (later : ∀ timeline ∈ late, moment.Leads timeline) :
    (∀ now, ∀ task ∈ watch.tasks post now,
      (Task.worker strand).Quits watch.profile task early late) ∧
    (∀ deadline, (Run.worker strand).Quits watch.profile
      ((Cycle.collect watch.profile).run.begun post deadline) early late) ∧
    ∀ deadline, (Run.worker strand).Quits watch.profile
      ((Cycle.sweep watch.profile).run.begun post deadline) early late := by
  have cancelled : ∀ timeline ∈ late, timeline.isCancelled post = true := fun timeline mem =>
    (later timeline mem).isCancelled cancelled
  refine ⟨fun now task mem => ?_, fun deadline => ?_, fun deadline => ?_⟩
  · refine .of_invariant (Task.minds_tasks mem)
      (fun past task timeline minds => Task.Minds.turn minds strand timeline)
      (fun past task timeline minds there => Task.Minds.acts_joins minds _ strand there) ?_ early
      cancelled
    intro past task late minds cancelled
    rcases Task.Minds.stops minds strand cancelled with idle | ⟨earlier, own, left, parts, stops⟩ |
      ⟨earlier, own, left, parts, stops⟩
    · rw [idle]
      exact winds_up_idle
    · exact collect_winds_up parts stops
    · exact sweep_winds_up parts stops
  · exact Run.quits (Cycle.collect_parked _) collect_winds_up strand deadline early cancelled
  · exact Run.quits (Cycle.sweep_parked _) sweep_winds_up strand deadline early cancelled

/-! A client is cancelled while its collect task waits for the store at the commit. -/

namespace Sample

def watch : Watch where
  toPlan := .usual .client contracts
  collectInterval_pos := by decide
  sweepInterval_pos := by decide
  cycleTimeout_pos := by decide
  errorCapacity_pos := by decide
  rateAfter_pos := by decide

/-- The collect task of the watch. -/
def collecting : Task := .collecting watch 0 (.starting 0 watch.collectInterval) none

/-- The chain takes its time. -/
def asked : Timeline where
  now := 0
  world := { closed.world with chain := { closed.world.chain with delay := 5 } }
  posts := [.fresh]
  line := .empty

/-- The logs are there, and the store takes its time. -/
def answered : Timeline :=
  let timeline := (collecting.resume 1 asked).2.goOn 5
  { timeline with
    world := { timeline.world with
      chain := closed.world.chain
      store := { timeline.world.store with latency := 3 } } }

/-- The moment at which the task has to wait once more. -/
def waiting : Timeline := (((Task.worker 1).after collecting [asked]).resume 1 answered).2

/-- What the task has done until then. -/
def collectedBefore : List Act := (Task.worker 1).along collecting [asked, answered]

/-- What it does when the store has answered, though the watch was cancelled. -/
def collectedAfter : List Act :=
  (Task.worker 1).along ((Task.worker 1).after collecting [asked, answered])
    [(waiting.cancel 0).goOn 8]

/-- The request commits a window. -/
def isCommit : Request → Bool
  | .advance _ _ => true
  | _ => false

end Sample

/-- The task had scanned its window when the watch was cancelled, and still commits it. -/
theorem commit_carried_out :
    ∃ earlier own site found window, Sample.collectedBefore = earlier ++ own ∧
      (Cycle.scan Sample.client).Gives own (window, found) ∧
      Sample.collectedAfter = [⟨site, .advance found window⟩] := by
  have there : 0 < Sample.waiting.posts.length := by decide +kernel
  have later : ∀ timeline ∈ [(Sample.waiting.cancel 0).goOn 8],
      (Sample.waiting.cancel 0).Leads timeline := by
    intro timeline mem
    rw [List.mem_singleton.1 mem]
    exact .wait 8 (.rest _)
  have quits := (cancelled_winds_up Sample.watch 0 1 (Timeline.isCancelled_cancel there)
    [Sample.asked, Sample.answered] later).1 0 Sample.collecting List.mem_cons_self
  have windsUp : WindsUp Sample.client Sample.collectedBefore Sample.collectedAfter := quits.windsUp
  have commits : ∃ act ∈ Sample.collectedAfter, Sample.isCommit act.request = true := by
    decide +kernel
  generalize Sample.collectedBefore = past at windsUp ⊢
  generalize Sample.collectedAfter = future at windsUp commits ⊢
  cases windsUp with
  | reading reads =>
    obtain ⟨⟨site, request⟩, mem, commit⟩ := commits
    cases request with
    | advance => exact absurd (reads _ mem) id
    | _ => cases commit
  | committing site parts scanned ahead =>
    exact ⟨_, _, site, _, _, parts, scanned, rfl⟩
  | noting noted parts owes ends =>
    obtain ⟨act, mem, commit⟩ := commits
    rcases List.mem_cons.1 mem with rfl | mem
    · cases commit
    · rw [ends act mem] at commit
      cases commit

end ChannelWatch
