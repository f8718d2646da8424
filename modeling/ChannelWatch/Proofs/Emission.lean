import ChannelWatch.Proofs.Collect
import ChannelWatch.Proofs.Sweep

/-!
# How often a job is emitted

Sweeps of one watch after the other, while anything else goes on around them. Whatever is
refused, cut short or repeated, an event gets a second job of a type only if the job has a
new related id each time and the event was left waiting in between. The main statement is
`emitsOnce_iff`.
-/

namespace ChannelWatch
set_option autoImplicit false

/-- Collect cycles may go on around a sweep. -/
theorem collect_beside_sweeps (profile : Profile) :
    (Cycle.collect profile).Asks betweenSweeps.steady.requests := by
  apply (Cycle.collect_asks profile).mono
  intro request collects
  have spared : ¬ request.sweeps ∧ ¬ request.seeds := by
    cases request with
    | store t => cases t <;> first | exact ⟨id, id⟩ | cases collects
    | upkeep => cases collects
    | offer | countClosing => cases collects
    | _ => exact ⟨id, id⟩
  exact spared

/-- Sweeps one after the other, of watches that may be built again in between, while accounts,
offerings and channels stay as they are. -/
abbrev Sweeps : Site → List Round → Site → Prop :=
  Series Cycle.sweep betweenSweeps.steady withinSweep.steady

/-- No two accepted jobs are of one type and for one event. -/
def Queue.EmitsOnce (queue : Queue) : Prop := (queue.accepted.map Job.purpose).Nodup

/-- A later round emits a job of an earlier one again: under another related id, as the tables
do not name the job, and for an event that was left waiting. -/
structure Reissue (tables : Store) (earlier later : Round) (first second : Job) : Prop where
  before : first ∈ acceptances earlier.acts
  again : ∃ act ∈ later.acts, act.accepted? = some second ∧
    ∃ log, act.site.world.Waits second.originEvent log ∧
      tables.steadyId? log second.type = none
  purpose : first.purpose = second.purpose
  renamed : first.relatedId ≠ second.relatedId
  renewed : second.type.renewed = true

/-- A job is accepted while its event waits, and has the id that the tables give it, unless its
type is renewed and the tables give none. -/
theorem accepted_in_sweep {profile : Profile} {acts : List Act}
    {left : Program (Except CycleError SweepReport)} {first last : Site}
    (course : (Cycle.sweep profile).run.Course acts left)
    (joins : withinSweep.steady.Joins first acts last) (numbered : first.world.Numbered)
    (apart : last.world.mint.used.Nodup) {tables : World} (agrees : tables.Agrees first.world)
    {act : Act} (mem : act ∈ acts) {job : Job} (accepted : act.accepted? = some job) :
    ∃ log, act.site.world.Waits job.originEvent log ∧
      (tables.store.steadyId? log job.type = some job.relatedId ∨
        tables.store.steadyId? log job.type = none ∧ job.type.renewed = true) := by
  obtain ⟨site, rfl, -⟩ := Act.accepted?_eq_some accepted
  have kinds := course.asked (Cycle.sweep_asks profile)
  have agree : ∀ act ∈ acts, tables.Agrees act.site.world := by
    have along : ∀ act ∈ acts, act.site.world.Agrees act.after.world := fun act mem =>
      .of_makes (act.site.makes act.request) (Request.not_seeds_of_ofSweep (kinds act mem))
    exact fun act mem => agrees.trans (withinSweep.steady_agrees.reaches joins along act mem)
  obtain ⟨before, behind, rfl⟩ := List.append_of_mem mem
  obtain ⟨event, turn, earlier, made, own, jobs, waits, taken, -, given, offered⟩ :=
    Cycle.sweep_at_offer (Freedom.steady_spares Freedom.within_spares) course joins numbered apart
  obtain ⟨asked, rfl⟩ := taken.parts
  have produced := Cycle.produce_made given
  have called : job ∈ jobs := offered.subset (by simp)
  refine ⟨event.log, ?_,
    produced.steady tables (fun act mem => agree act (by simp [mem])) job called⟩
  rwa [(produced.answers job called).origin]

/-- One sweep accepts no two jobs for one purpose. -/
theorem purposes_of_sweep {profile : Profile} {acts : List Act}
    {left : Program (Except CycleError SweepReport)} {freedom : Freedom} {first last : Site}
    (course : (Cycle.sweep profile).run.Course acts left)
    (joins : freedom.Joins first acts last) (numbered : first.world.Numbered)
    (apart : last.world.mint.used.Nodup) : ((acceptances acts).map Job.purpose).Nodup := by
  apply ((acceptances_sublist_offers acts).map Job.purpose).nodup
  rcases Cycle.sweep_course course with rfl | ⟨listed, behind, rfl, sweeping⟩
  · exact List.nodup_nil
  · obtain ⟨start, tail⟩ := joins.of_cons
    have grows : listed.world.Grows last.world :=
      .trans (.of_makes (listed.makes _)) tail.grows
    have distinct := (start.numbered numbered).nodup_unscheduled (grows.used.nodup apart)
    exact (sweeping.purposes distinct).1

/-- A queue without repeats does not take a job that it holds. -/
theorem Queue.refusal?_of_mem {queue : Queue} (strict : queue.repeatable = []) {held job : Job}
    (mem : held ∈ queue.accepted) (type : held.type = job.type)
    (related : held.relatedId = job.relatedId) : queue.refusal? job ≠ none := by
  obtain ⟨⟨id, held⟩, kept, rfl⟩ := List.mem_map.1 mem
  have holds : queue.holds job = true :=
    List.any_eq_true.2 ⟨_, kept, by simpa using ⟨type, related⟩⟩
  unfold Queue.refusal?
  cases queue.refusals.lookup job.type <;> simp [strict, holds]

theorem pairwise_of_parts {α : Type} {R : α → α → Prop} {list : List α}
    (parts : ∀ before earlier between later behind,
      list = before ++ earlier :: (between ++ later :: behind) → R earlier later) :
    list.Pairwise R := by
  induction list with
  | nil => exact .nil
  | cons head tail ih =>
    refine .cons (fun later mem => ?_) (ih fun before earlier between later behind same => ?_)
    · obtain ⟨between, behind, rfl⟩ := List.append_of_mem mem
      exact parts [] head between later behind rfl
    · exact parts (head :: before) earlier between later behind (by rw [same]; rfl)

theorem agrees_of_sweeps {start last : Site} {rounds : List Round}
    (sweeps : Sweeps start rounds last) : start.world.Agrees last.world :=
  sweeps.carried betweenSweeps.steady_agrees withinSweep.steady_agrees Cycle.sweep_asks
    fun site request ofSweep =>
      .of_makes (site.makes request) (Request.not_seeds_of_ofSweep ofSweep)

theorem numbered_of_unused {world : World} (unused : world.store.events = []) :
    world.Numbered := by
  simp [World.Numbered, Store.Numbered, unused]

/-- A job that a later round emits for the purpose of an earlier one is a reissue. -/
theorem reissue_of_purpose {start last : Site} {before between behind : List Round}
    {earlier later : Round} (unused : start.world.store.events = [])
    (sweeps : Sweeps start (before ++ earlier :: (between ++ later :: behind)) last)
    (apart : last.world.mint.used.Nodup) (strict : last.world.queue.repeatable = [])
    {first second : Job} (emitted : first ∈ acceptances earlier.acts)
    (again : second ∈ acceptances later.acts) (purpose : first.purpose = second.purpose) :
    Reissue start.world.store earlier later first second := by
  obtain ⟨type, origin⟩ : first.type = second.type ∧ first.originEvent = second.originEvent := by
    simpa [Job.purpose] using purpose
  obtain ⟨s, t, _, pre, course, joins, rest⟩ := sweeps.at_round
  obtain ⟨s', t', _, mid, course', joins', post⟩ := rest.at_round
  have numbered : s.world.Numbered := pre.numbered (numbered_of_unused unused)
  have numbered' : s'.world.Numbered := mid.numbered (joins.numbered numbered)
  have filed : last.world.Numbered := post.numbered (joins'.numbered numbered')
  have agrees : start.world.Agrees s.world := agrees_of_sweeps pre
  have agrees' : start.world.Agrees s'.world := by
    have sweep : Sweeps s [earlier] t := .round earlier.profile course joins (.rest t)
    exact (agrees.trans (agrees_of_sweeps sweep)).trans (agrees_of_sweeps mid)
  -- Both events are on file in the end, under one id, so the jobs are for one log.
  obtain ⟨act, mem, accepted⟩ := List.mem_filterMap.1 emitted
  obtain ⟨act', mem', accepted'⟩ := List.mem_filterMap.1 again
  obtain ⟨log, waits, named⟩ := accepted_in_sweep course joins numbered
    (rest.grows.used.nodup apart) agrees mem accepted
  obtain ⟨log', waits', named'⟩ := accepted_in_sweep course' joins' numbered'
    (post.grows.used.nodup apart) agrees' mem' accepted'
  have grows : act.site.world.Grows last.world := (joins.grows_at mem).2.trans rest.grows
  have grows' : act'.site.world.Grows last.world := (joins'.grows_at mem').2.trans post.grows
  have same : log = log' := by
    rw [origin] at waits
    exact (waits.files.grow grows).unique filed apart (waits'.files.grow grows')
  -- The queue holds the first job when the second one is offered.
  have held : first ∈ act'.site.world.queue.accepted := by
    have kept : first ∈ t.world.queue.accepted := by
      rw [joins.accepted (Freedom.steady_spares Freedom.within_spares)]
      exact List.mem_append_right _ emitted
    have jobs := (mid.grows.trans (joins'.grows_at mem').1).jobs
    exact (jobs.map Prod.snd).subset kept
  have unrepeated : act'.site.world.queue.repeatable = [] :=
    List.eq_nil_of_subset_nil (strict ▸ grows'.repeatable)
  obtain ⟨site', rfl, taken⟩ := Act.accepted?_eq_some accepted'
  have renamed : first.relatedId ≠ second.relatedId := fun related =>
    Queue.refusal?_of_mem unrepeated held type related taken
  subst same
  rcases named' with steady | ⟨unnamed, renewed⟩
  · rw [type] at named
    rcases named with steady' | ⟨unnamed, -⟩
    · rw [steady] at steady'
      exact absurd (Option.some.inj steady').symm renamed
    · rw [steady] at unnamed
      cases unnamed
  · exact ⟨emitted, ⟨_, mem', accepted', log, waits', unnamed⟩, purpose, renamed, renewed⟩

/-- Each job is emitted once, unless a job whose related id the tables do not give is emitted
by one sweep and, as its event was left waiting, by a later one again. -/
theorem emitsOnce_iff {start last : Site} {rounds : List Round}
    (unused : start.world.store.events = []) (idle : start.world.queue.accepted = [])
    (sweeps : Sweeps start rounds last) (apart : last.world.mint.used.Nodup)
    (strict : last.world.queue.repeatable = []) :
    last.world.queue.EmitsOnce ↔
      rounds.Pairwise fun earlier later => ∀ first second,
        ¬ Reissue start.world.store earlier later first second := by
  rw [Queue.EmitsOnce, sweeps.accepted (Freedom.steady_spares Freedom.between_spares)
    (Freedom.steady_spares Freedom.within_spares), idle,
    List.nil_append, List.map_flatMap, List.Nodup, List.pairwise_flatMap]
  constructor
  · rintro ⟨-, once⟩
    refine once.imp fun differ first second reissue => ?_
    obtain ⟨act, mem, accepted, -⟩ := reissue.again
    exact differ _ (List.mem_map_of_mem reissue.before) _
      (List.mem_map_of_mem (List.mem_filterMap.2 ⟨act, mem, accepted⟩)) reissue.purpose
  · intro none
    constructor
    · intro round mem
      obtain ⟨before, behind, rfl⟩ := List.append_of_mem mem
      obtain ⟨site, next, _, pre, course, joins, post⟩ := sweeps.at_round
      exact purposes_of_sweep course joins (pre.numbered (numbered_of_unused unused))
        (post.grows.used.nodup apart)
    · apply pairwise_of_parts
      intro before earlier between later behind parts
      subst parts
      intro purpose mem other among same
      obtain ⟨first, emitted, rfl⟩ := List.mem_map.1 mem
      obtain ⟨second, again, rfl⟩ := List.mem_map.1 among
      have tail := (List.pairwise_append.1 none).2.1
      exact (List.pairwise_cons.1 tail).1 later (by simp) first second
        (reissue_of_purpose unused sweeps apart strict emitted again same)

namespace Sample

/-- The site with the queue told something else. -/
def told (site : Site) (order : Queue → Queue) : Site :=
  { site with world := { site.world with queue := order site.world.queue } }

/-- The closing was collected, and the queue is down for changes of supply. -/
def down : Site :=
  told ((Cycle.collect client).run.alone closed).last fun queue =>
    queue.refuse .incrementSupply (.other "queue down")

/-- The first sweep. -/
def halfway : Program.Solo (Except CycleError SweepReport) := (Cycle.sweep client).run.alone down

/-- The queue is up again. -/
def up : Site := told halfway.last fun queue => queue.accept .incrementSupply

/-- The second sweep. -/
def retried : Program.Solo (Except CycleError SweepReport) := (Cycle.sweep client).run.alone up

theorem sweeps : Sweeps closed [⟨client, halfway.acts⟩, ⟨client, retried.acts⟩] retried.last := by
  refine .pause (Freedom.joins_of_asks (collect_beside_sweeps client) closed) ?_
  refine .stir (.queue trivial (.refuse .incrementSupply (.other "queue down"))) (.alone client ?_)
  exact .stir (.queue trivial (.accept .incrementSupply)) (.alone client (.rest _))

end Sample

/-- The recording of the closing is emitted again when the change of supply was refused. -/
theorem exists_reissue :
    ∃ first second, Reissue Sample.closed.world.store ⟨Sample.client, Sample.halfway.acts⟩
      ⟨Sample.client, Sample.retried.acts⟩ first second := by
  have once := emitsOnce_iff rfl rfl Sample.sweeps (by decide +kernel) (by decide +kernel)
  have twice : ¬ Sample.retried.last.world.queue.EmitsOnce := by
    unfold Queue.EmitsOnce
    decide +kernel
  simpa using mt once.2 twice

/-- Sweeps do not emit every job once, even without repeats in the queue. -/
theorem not_forall_emitsOnce :
    ¬ ∀ start last rounds, start.world.store.events = [] → start.world.queue.accepted = [] →
      Sweeps start rounds last → last.world.mint.used.Nodup →
      last.world.queue.repeatable = [] → last.world.queue.EmitsOnce := by
  intro once
  have emitted := once _ _ _ rfl rfl Sample.sweeps (by decide +kernel) (by decide +kernel)
  revert emitted
  unfold Queue.EmitsOnce
  decide +kernel

end ChannelWatch
