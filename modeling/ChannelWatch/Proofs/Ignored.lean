import ChannelWatch.Proofs.Settled
import ChannelWatch.Proofs.Reference
import ChannelWatch.Proofs.Supply

/-!
# What the ignored mark says

A sweep marks an event as ignored when the queue took none of its jobs, be it that there are none
or that the queue has them already. It has them already also where an earlier sweep handed them in
and did not get to note that. So the mark tells about the sweep that made it and all that follows,
not about what came before; the main statement is `ignored_unanswered`.
-/

namespace ChannelWatch
set_option autoImplicit false

/-- The job reference that a disposition leaves in a row, if it leaves one. -/
def Disposition.mark? : Disposition → Option Id
  | .scheduled job => some job
  | .ignored => some Id.nil
  | .failed => none

namespace World

/-- The row of the event has the job reference. -/
def Marks (world : World) (event id : Id) : Prop :=
  ∃ row ∈ world.store.events, row.id = event ∧ row.jobRef = some id

/-- A job reference was there before, or the request leaves it. -/
theorem Marks.of_makes {before after : World} {request : Request}
    (makes : request.Makes before after) {event id : Id} (marks : after.Marks event id) :
    before.Marks event id ∨ ∃ disposition, request = .store (.disposeEvent event disposition) ∧
      disposition.mark? = some id := by
  obtain ⟨row, mem, rfl, marked⟩ := marks
  cases makes with
  | committed logs last | advanced logs last =>
    obtain ⟨more, shape, waiting⟩ :=
      Store.foldl_takeIn_appends logs (before.store.events, before.mint)
    have mem : row ∈ (logs.foldl Store.takeIn (before.store.events, before.mint)).1 := mem
    rw [shape] at mem
    rcases List.mem_append.1 mem with old | added
    · exact .inl ⟨row, old, rfl, marked⟩
    · rw [(waiting row added).2] at marked
      cases marked
  | disposed event disposition found =>
    rcases Store.mem_disposeRow found mem with old | ⟨old, among, rfl, rfl⟩
    · exact .inl ⟨row, old, rfl, marked⟩
    · cases disposition with
      | scheduled job => exact .inr ⟨.scheduled job, rfl, marked⟩
      | ignored => exact .inr ⟨.ignored, rfl, marked⟩
      | failed => exact .inl ⟨old, among, rfl, marked⟩
  | maintained u => cases u <;> exact .inl ⟨row, mem, rfl, marked⟩
  | _ => exact .inl ⟨row, mem, rfl, marked⟩

/-- The queue's ids come from the supply. -/
def Issued (world : World) : Prop := world.queue.jobs.map Prod.fst ⊆ world.mint.used

theorem Issued.of_makes {before after : World} {request : Request}
    (makes : request.Makes before after) (issued : before.Issued) : after.Issued := by
  have used := (Grows.of_makes makes).used
  by_cases offer : ∃ job, request = .offer job
  · obtain ⟨job, rfl⟩ := offer
    cases makes with
    | same => exact issued
    | accepted _ _ =>
      have jobs : (before.accept job).queue.jobs.map Prod.fst =
          before.queue.jobs.map Prod.fst ++ [before.mint.next.1] := by simp [accept]
      have supply : (before.accept job).mint.used = before.mint.used ++ [before.mint.next.1] :=
        Mint.used_next _
      rw [Issued, jobs, supply]
      exact List.append_subset.2 ⟨fun id mem => List.mem_append_left _ (issued mem),
        List.subset_append_right _ _⟩
  · rw [Issued, queue_of_makes makes fun job same => offer ⟨job, same⟩]
    exact fun id mem => used.subset (issued mem)

theorem carries_issued (freedom : Freedom) :
    freedom.Carries fun before after => before.Issued → after.Issued where
  refl _ := id
  trans start rest := rest ∘ start
  request site request _ := .of_makes (site.makes request)
  chain _ _ _ := id
  queue _ _ _ told := by cases told <;> exact id

end World

/-- A job reference was there in the beginning, or one of the acts has left it. -/
theorem Freedom.Joins.marked {freedom : Freedom}
    (spared : ∀ request, freedom.requests request → ¬ request.sweeps) {first last : Site}
    {acts : List Act} (joins : freedom.Joins first acts last) {event id : Id}
    (marks : last.world.Marks event id) :
    first.world.Marks event id ∨ ∃ before site disposition behind,
      acts = before ++ ⟨site, .store (.disposeEvent event disposition)⟩ :: behind ∧
        disposition.mark? = some id ∧
        (Act.mk site (.store (.disposeEvent event disposition))).after.world.Marks event id := by
  have other : ∀ (site : Site) {request : Request}, freedom.requests request →
      (site.perform request).2.world.Marks event id → site.world.Marks event id := by
    intro site request may marks
    rcases World.Marks.of_makes (site.makes request) marks with kept | ⟨disposition, rfl, -⟩
    · exact kept
    · exact absurd trivial (spared _ may)
  induction joins with
  | rest site => exact .inl marks
  | stir stir _ ih =>
    refine (ih marks).imp_left fun marks => ?_
    cases stir with
    | beside may => exact other _ may marks
    | elsewhere desk may => exact other ⟨_, desk⟩ may marks
    | chain | queue | cancelled | rebuilt => exact marks
  | act act _ ih =>
    rcases ih marks with here | ⟨before, site, disposition, behind, rfl, mark, there⟩
    · rcases World.Marks.of_makes (act.site.makes act.request) here with
        kept | ⟨disposition, disposes, mark⟩
      · exact .inl kept
      · obtain ⟨site, request⟩ := act
        subst disposes
        exact .inr ⟨[], site, disposition, _, rfl, mark, here⟩
    · exact .inr ⟨act :: before, site, disposition, behind, rfl, mark, there⟩

namespace Cycle

/-- When a sweep notes an event to be ignored, it has not had any of its jobs accepted. -/
theorem sweep_at_ignored {profile : Profile} {freedom : Freedom} {first last site : Site}
    {before behind : List Act} {left : Program (Except CycleError SweepReport)} {event : Id}
    (course : (sweep profile).run.Course
      (before ++ ⟨site, .store (.disposeEvent event .ignored)⟩ :: behind) left)
    (joins : freedom.Joins first
      (before ++ ⟨site, .store (.disposeEvent event .ignored)⟩ :: behind) last)
    (numbered : first.world.Numbered) (apart : last.world.mint.used.Nodup) :
    ∀ job ∈ acceptances before, job.originEvent ≠ event := by
  obtain ⟨listed, rest, rfl, sweeping, distinct, -⟩ :=
    sweep_at course joins numbered apart (by simp)
  rcases sweeping.at_act distinct rfl with other | ⟨taken, -, turn, earlier, own, turned, step⟩
  · cases other
  rcases step with ⟨last, left, course⟩ | ⟨-, other⟩ | ⟨submission, given, noted⟩
  · have kind := course.asked (settle_asks _ _ _)
      ⟨site, .store (.disposeEvent event .ignored)⟩ (by simp)
    exact absurd kind (Request.not_settles_disposeEvent _ _)
  · cases other
  · obtain ⟨rfl, ignored⟩ : event = taken.id ∧ .ignored = submission.disposition := by
      simpa using noted
    obtain ⟨asked, rfl⟩ := turned.parts
    intro job mem
    have silent := settle_ignored given ignored.symm
    have mem : job ∈ acceptances (earlier ++ ⟨asked, .isCancelled⟩ :: own) := mem
    have asking : acceptances (⟨asked, .isCancelled⟩ :: own) = acceptances own :=
      List.filterMap_cons_none rfl
    rw [acceptances_append, asking, silent, List.append_nil] at mem
    exact turned.others job ((acceptances_sublist_offers earlier).subset mem)

end Cycle

namespace Succession

variable {start last : Site} {rounds : List Round} {before behind : List Act}

/-- An event is scheduled under an id of the supply. -/
theorem mem_used_of_scheduled (run : Succession Cycle.sweep betweenSweeps start rounds last)
    (numbered : start.world.Numbered) (idle : start.world.queue.accepted = [])
    (apart : last.world.mint.used.Nodup) {site : Site} {event id : Id}
    (parts : actsOf rounds =
      before ++ ⟨site, .store (.disposeEvent event (.scheduled id))⟩ :: behind) :
    id ∈ last.world.mint.used := by
  have along : ⟨site, .store (.disposeEvent event (.scheduled id))⟩ ∈ actsOf rounds := by
    simp [parts]
  obtain ⟨job, accepted, -⟩ := run.schedules numbered apart along event id rfl
  have begun : start.world.Issued := by
    have none : start.world.queue.jobs = [] := List.map_eq_nil_iff.1 idle
    simp [World.Issued, none]
  have reaches := (World.carries_issued betweenSweeps).reaches run.joins
    (fun act _ => .of_makes (act.site.makes act.request))
  have issued := reaches _ along begun
  exact (run.joins.grows_at along).2.used.subset (issued (List.mem_map_of_mem accepted))

/-- No job is offered any more for an event that has a job reference. -/
theorem offers_unmarked (run : Succession Cycle.sweep betweenSweeps start rounds last)
    (numbered : start.world.Numbered) (apart : last.world.mint.used.Nodup)
    {act : Act} (parts : actsOf rounds = before ++ act :: behind) {event id : Id}
    (marks : act.after.world.Marks event id) : ∀ job ∈ offers behind, job.originEvent ≠ event := by
  intro job offered origin
  obtain ⟨row, mem, rfl, marked⟩ := marks
  obtain ⟨offering, among, offers⟩ := List.mem_filterMap.1 offered
  obtain ⟨site, rfl⟩ := Act.offered?_eq_some offers
  have along : ⟨site, .offer job⟩ ∈ actsOf rounds := by simp [parts, among]
  have waiting := run.offers_waiting numbered apart along
  obtain ⟨front, rest, rfl⟩ := List.append_of_mem among
  have joins := run.joins
  rw [parts] at joins
  have kept := run.keeps numbered apart (fun act mem => by simp [parts, mem]) joins.at.2.at.1
  obtain ⟨place, held⟩ := List.mem_iff_getElem?.1 mem
  obtain ⟨later, found, becomes⟩ := kept place row held
  obtain rfl := becomes.settled (by simp [marked])
  rw [waiting later (List.mem_of_getElem? found) origin.symm] at marked
  cases marked

end Succession

/-- An event that is marked as ignored got the mark from a sweep while it waited, and that sweep
and all later ones had none of its jobs accepted: what the queue holds for it was accepted in
earlier sweeps, which left it waiting. -/
theorem ignored_unanswered {start last : Site} {rounds : List Round}
    (run : Succession Cycle.sweep betweenSweeps start rounds last)
    (unused : start.world.store.events = []) (idle : start.world.queue.accepted = [])
    (apart : last.world.mint.used.Nodup) (real : Id.nil ∉ last.world.mint.used) {row : StoredEvent}
    (mem : row ∈ last.world.store.events) (ignored : row.jobRef = some Id.nil) :
    ∃ earlier round later, rounds = earlier ++ round :: later ∧
      (∃ act ∈ round.acts, act.noted? = some (row.id, .ignored) ∧
        act.site.world.Waits row.id row.log) ∧
      (∀ job ∈ acceptances (actsOf (round :: later)), job.originEvent ≠ row.id) ∧
      ((∃ job ∈ last.world.queue.accepted, job.originEvent = row.id) ↔
        ∃ job ∈ acceptances (actsOf earlier), job.originEvent = row.id) := by
  have numbered := numbered_of_unused unused
  rcases run.joins.marked Freedom.between_spares ⟨row, mem, rfl, ignored⟩ with
    ⟨old, held, -⟩ | ⟨before, site, disposition, behind, parts, mark, marks⟩
  · rw [unused] at held
    cases held
  have joins := run.joins
  rw [parts] at joins
  have grows : site.world.Grows last.world := .trans (.of_makes (site.makes _)) joins.at.2.grows
  obtain rfl : disposition = .ignored := by
    cases disposition with
    | scheduled id =>
      have drawn := run.mem_used_of_scheduled numbered idle apart parts
      rw [Option.some.inj mark] at drawn
      exact absurd drawn real
    | ignored => rfl
    | failed => cases mark
  obtain ⟨log, waits⟩ := run.at_dispose Freedom.between_spares numbered apart parts
  obtain rfl : log = row.log := (waits.files.grow grows).unique (run.joins.numbered numbered) apart
    (List.mem_map_of_mem mem)
  obtain ⟨earlier, round, later, own, rest, rfl, acts, rfl, rfl⟩ := split_actsOf parts
  obtain ⟨first, next, left, pre, course, inside, post⟩ := run.at_round
  rw [acts] at course inside
  have refused := Cycle.sweep_at_ignored course inside (pre.numbered numbered)
    (post.grows.used.nodup apart)
  have silent := run.offers_unmarked numbered apart parts marks
  have since : ∀ job ∈ acceptances (actsOf (round :: later)), job.originEvent ≠ row.id := by
    have shape : acceptances (actsOf (round :: later)) =
        acceptances own ++ acceptances (rest ++ actsOf later) := by
      rw [actsOf_cons, acts, List.append_assoc, acceptances_append]
      rfl
    rw [shape]
    intro job mem
    rcases List.mem_append.1 mem with mem | mem
    · exact refused job mem
    · exact silent job ((acceptances_sublist_offers _).subset mem)
  refine ⟨earlier, round, later, rfl,
    ⟨⟨site, .store (.disposeEvent row.id .ignored)⟩, by simp [acts], rfl, waits⟩, since, ?_⟩
  rw [run.joins.accepted Freedom.between_spares, idle, List.nil_append, actsOf_append,
    acceptances_append]
  constructor
  · rintro ⟨job, mem, origin⟩
    rcases List.mem_append.1 mem with mem | mem
    · exact ⟨job, mem, origin⟩
    · exact absurd origin (since job mem)
  · rintro ⟨job, mem, origin⟩
    exact ⟨job, List.mem_append_left _ mem, origin⟩

/-! A client knows a channel and collects its creation. The first sweep hands in a job for the
channel and finds the queue down for the change of supply. At the second one the queue has all. -/

namespace Sample

/-- The channel that is created is on file, and so is its offering. -/
def known : Site :=
  let site := ready [created 11] [(offering, Id.counted 0)]
  { site with
    world := { site.world with
      store := { site.world.store with
        channels := [⟨Id.counted 1, ⟨offering, .ofNat 20 0xa9e1, .ofNat 20 0xc1e1, 11⟩, none⟩] }
      mint := ⟨Id.counted, 2⟩ } }

def refusing : Site :=
  told ((Cycle.collect client).run.alone known).last fun queue =>
    queue.refuse .decrementSupply (.other "queue down")

def handing : Program.Solo (Except CycleError SweepReport) :=
  (Cycle.sweep client).run.alone refusing

def informed : Site := told handing.last fun queue =>
  queue.refuse .decrementSupply .alreadyProcessing

def ignoring : Program.Solo (Except CycleError SweepReport) :=
  (Cycle.sweep client).run.alone informed

theorem ignores : Succession Cycle.sweep betweenSweeps known
    [⟨client, handing.acts⟩, ⟨client, ignoring.acts⟩] ignoring.last := by
  have collecting : (Cycle.collect client).Asks betweenSweeps.steady.requests :=
    collect_beside_sweeps client
  have series : Sweeps known [⟨client, handing.acts⟩, ⟨client, ignoring.acts⟩] ignoring.last := by
    refine .pause (Freedom.joins_of_asks collecting _) ?_
    refine .stir (.queue trivial (.refuse .decrementSupply (.other "queue down"))) (.alone client ?_)
    exact .stir (.queue trivial (.refuse .decrementSupply .alreadyProcessing))
      (.alone client (.rest _))
  exact series.succession (Freedom.steady_within _)
    ((Freedom.steady_within _).trans Freedom.within_between)

/-- The event is marked as ignored though the queue accepted a job for it. -/
theorem accepted_and_ignored : ∃ row ∈ ignoring.last.world.store.events, row.jobRef = some Id.nil ∧
    ∃ job ∈ ignoring.last.world.queue.accepted, job.originEvent = row.id := by
  decide +kernel

theorem ignoring_real :
    ignoring.last.world.mint.used.Nodup ∧ Id.nil ∉ ignoring.last.world.mint.used := by
  decide +kernel

end Sample

/-- The job that the queue has of the ignored event is from an earlier sweep. -/
theorem ignored_of_accepted :
    ∃ row ∈ Sample.ignoring.last.world.store.events, row.jobRef = some Id.nil ∧
      ∃ earlier round later,
        [⟨Sample.client, Sample.handing.acts⟩, ⟨Sample.client, Sample.ignoring.acts⟩] =
          earlier ++ round :: later ∧
        ∃ job ∈ acceptances (actsOf earlier), job.originEvent = row.id := by
  obtain ⟨row, mem, ignored, accepted⟩ := Sample.accepted_and_ignored
  obtain ⟨earlier, round, later, parts, -, -, before⟩ := ignored_unanswered Sample.ignores rfl rfl
    Sample.ignoring_real.1 Sample.ignoring_real.2 mem ignored
  exact ⟨row, mem, ignored, earlier, round, later, parts, before.1 accepted⟩

/-- An event that is marked as ignored may be the origin of an accepted job. -/
theorem not_forall_ignored_unanswered :
    ¬ ∀ start last rounds, start.world.store.events = [] → start.world.queue.accepted = [] →
      Succession Cycle.sweep betweenSweeps start rounds last →
      last.world.mint.used.Nodup → Id.nil ∉ last.world.mint.used →
      ∀ row ∈ last.world.store.events, row.jobRef = some Id.nil →
        ∀ job ∈ last.world.queue.accepted, job.originEvent ≠ row.id := by
  intro unanswered
  obtain ⟨row, mem, ignored, job, accepted, origin⟩ := Sample.accepted_and_ignored
  exact unanswered _ _ _ rfl rfl Sample.ignores Sample.ignoring_real.1 Sample.ignoring_real.2 row mem
    ignored job accepted origin

end ChannelWatch
