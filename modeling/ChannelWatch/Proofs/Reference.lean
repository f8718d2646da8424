import ChannelWatch.Proofs.Succession

/-!
# References between store and queue

The store names jobs of the queue, and the jobs name events of the store. No transaction spans
the two, so a sweep may stop anywhere between them; still no name points at nothing, and what
a job says about its event is what the event's row says. The main statement is
`references_hold`.
-/

namespace ChannelWatch
set_option autoImplicit false

namespace Store

/-- A row after a disposition was there, or is what the disposition made of the event's row. -/
theorem mem_disposeRow {event : Id} {disposition : Disposition} {rows after : List StoredEvent}
    (found : disposeRow event disposition rows = some after) {row : StoredEvent}
    (mem : row ∈ after) :
    row ∈ rows ∨ ∃ old ∈ rows, old.id = event ∧ row = old.dispose disposition := by
  obtain ⟨before, old, behind, named, rfl, rfl⟩ := disposeRow_eq_some found
  rcases List.mem_append.1 mem with early | late
  · exact .inl (List.mem_append_left _ early)
  · rcases List.mem_cons.1 late with rfl | late
    · exact .inr ⟨old, by simp, named, rfl⟩
    · exact .inl (List.mem_append_right _ (List.mem_cons_of_mem _ late))

end Store

namespace World

/-- The queue accepted a job for the event under the id. -/
def Schedules (world : World) (event id : Id) : Prop :=
  ∃ job, (id, job) ∈ world.queue.jobs ∧ job.originEvent = event

/-- Every job reference but the ignored mark is the id of a job that the queue accepted for its
row. -/
def RefersToJobs (world : World) : Prop :=
  ∀ row ∈ world.store.events, ∀ id, row.jobRef = some id → id ≠ Id.nil →
    world.Schedules row.id id

/-- Every accepted job answers an event that is on file. -/
def RefersToEvents (world : World) : Prop :=
  ∀ job ∈ world.queue.accepted, ∃ row ∈ world.store.events, job.Answers row

theorem Schedules.grow {before after : World} {event id : Id} (schedules : before.Schedules event id)
    (grows : before.Grows after) : after.Schedules event id := by
  obtain ⟨job, held, origin⟩ := schedules
  exact ⟨job, grows.jobs.subset held, origin⟩

/-- References stay right if an event is scheduled only under the id of a job for it. -/
theorem RefersToJobs.of_makes {before after : World} {request : Request}
    (makes : request.Makes before after)
    (named : ∀ event id, request = .store (.disposeEvent event (.scheduled id)) →
      before.Schedules event id) (refers : before.RefersToJobs) : after.RefersToJobs := by
  have grows := Grows.of_makes makes
  have kept : ∀ row ∈ before.store.events, ∀ id, row.jobRef = some id → id ≠ Id.nil →
      after.Schedules row.id id := fun row mem id given real =>
    (refers row mem id given real).grow grows
  cases makes with
  | committed logs last | advanced logs last =>
    intro row mem id given real
    obtain ⟨more, shape, waiting⟩ :=
      Store.foldl_takeIn_appends logs (before.store.events, before.mint)
    have mem : row ∈ (logs.foldl Store.takeIn (before.store.events, before.mint)).1 := mem
    rw [shape] at mem
    rcases List.mem_append.1 mem with old | added
    · exact kept row old id given real
    · rw [(waiting row added).2] at given
      cases given
  | disposed event disposition found =>
    intro row mem id given real
    rcases Store.mem_disposeRow found mem with old | ⟨old, among, same, rfl⟩
    · exact kept row old id given real
    · cases disposition with
      | scheduled job =>
        obtain rfl : job = id := Option.some.inj given
        have held := (named event job rfl).grow grows
        rwa [← same] at held
      | ignored => exact absurd (Option.some.inj given).symm real
      | failed => exact kept old among id given real
  | maintained u => cases u <;> exact kept
  | _ => exact kept

theorem carries_refersToJobs {freedom : Freedom}
    (spared : ∀ request, freedom.requests request → ¬ request.sweeps) :
    freedom.Carries fun before after => before.RefersToJobs → after.RefersToJobs where
  refl _ := id
  trans start rest := rest ∘ start
  request site request may := by
    apply RefersToJobs.of_makes (site.makes request)
    intro event id same
    have sweeps : request.sweeps := by rw [same]; trivial
    exact absurd sweeps (spared request may)
  chain _ _ _ := id
  queue world queue _ told refers := by
    have grows := Grows.of_told told
    exact fun row mem id given real => (refers row mem id given real).grow grows

end World

/-- In a run of sweeps an event is scheduled only under the id of a job that the queue accepted
for it. -/
theorem Succession.schedules {start last : Site} {rounds : List Round}
    (run : Succession Cycle.sweep betweenSweeps start rounds last)
    (numbered : start.world.Numbered) (apart : last.world.mint.used.Nodup) {act : Act}
    (mem : act ∈ actsOf rounds) (event id : Id)
    (scheduled : act.request = .store (.disposeEvent event (.scheduled id))) :
    act.site.world.Schedules event id := by
  obtain ⟨before, behind, parts⟩ := List.append_of_mem mem
  obtain ⟨site, request⟩ := act
  subst scheduled
  obtain ⟨profile, earlier, own, rest, first, next, left, rfl, pre, course, joins, post⟩ :=
    run.at_act parts
  exact Cycle.sweep_at_scheduled course joins (pre.numbered numbered) (post.used.nodup apart)

/-- Wherever a run of sweeps has got to, every job reference names an accepted job for its row,
and every accepted job answers a row. -/
theorem references_hold {start last : Site} {rounds : List Round}
    (run : Succession Cycle.sweep betweenSweeps start rounds last)
    (unused : start.world.store.events = []) (idle : start.world.queue.accepted = [])
    (apart : last.world.mint.used.Nodup) :
    last.world.RefersToJobs ∧ last.world.RefersToEvents := by
  have numbered := numbered_of_unused unused
  constructor
  · have carries := World.carries_refersToJobs Freedom.between_spares
    have begun : start.world.RefersToJobs := by
      intro row mem
      rw [unused] at mem
      cases mem
    apply carries.joins run.joins _ begun
    intro act mem
    exact .of_makes (act.site.makes act.request) (run.schedules numbered apart mem)
  · intro job mem
    rw [run.joins.accepted Freedom.between_spares, idle, List.nil_append] at mem
    obtain ⟨act, among, accepted⟩ := List.mem_filterMap.1 mem
    obtain ⟨site, rfl, -⟩ := Act.accepted?_eq_some accepted
    have grows := (run.joins.grows_at among).2
    obtain ⟨before, behind, parts⟩ := List.append_of_mem among
    obtain ⟨event, waits, answers⟩ := run.at_offer Freedom.between_spares numbered apart parts
    obtain ⟨row, held, same⟩ := List.mem_map.1 (waits.files.grow grows)
    obtain ⟨id, log⟩ := Prod.mk.inj same
    exact ⟨row, held, answers.mark, answers.origin.trans id.symm, by rw [answers.log, log]⟩

/-- After the second sweep the closing has the id of an accepted job, and each of its jobs
answers it. -/
theorem references_of_closing :
    Sample.retried.last.world.RefersToJobs ∧ Sample.retried.last.world.RefersToEvents ∧
      (∃ row ∈ Sample.retried.last.world.store.events, ∃ id ∈ row.jobRef, id ≠ Id.nil) ∧
      Sample.retried.last.world.queue.accepted ≠ [] := by
  obtain ⟨jobs, events⟩ := references_hold Sample.succession rfl rfl (by decide +kernel)
  have scheduled : ∃ row ∈ Sample.retried.last.world.store.events,
      ∃ id ∈ row.jobRef, id ≠ Id.nil := by decide +kernel
  have accepted : Sample.retried.last.world.queue.accepted.length ≠ 0 := by decide +kernel
  exact ⟨jobs, events, scheduled, fun none => accepted (by rw [none]; rfl)⟩

end ChannelWatch
