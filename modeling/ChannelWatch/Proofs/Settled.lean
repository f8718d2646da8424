import ChannelWatch.Proofs.Succession

/-!
# Settled events

What becomes of the rows of the event table while sweeps follow one another and anything else
goes on around them. Collecting only adds rows, and a sweep disposes only of events that still
wait, though the store would let it do more. So a row with a job reference stays what it is,
and no job is offered for it any more. The main statement is `settled_final`.
-/

namespace ChannelWatch
set_option autoImplicit false

/-- What may become of a row: until it has a job reference it may get one or fail again, and from
then on it stays. -/
structure StoredEvent.Becomes (row later : StoredEvent) : Prop where
  id : later.id = row.id
  log : later.log = row.log
  settled : row.jobRef ≠ none → later = row

namespace StoredEvent.Becomes

variable {row later last : StoredEvent}

theorem refl (row : StoredEvent) : row.Becomes row := ⟨rfl, rfl, fun _ => rfl⟩

theorem trans (first : row.Becomes later) (second : later.Becomes last) : row.Becomes last where
  id := second.id.trans first.id
  log := second.log.trans first.log
  settled given := by
    have same := first.settled given
    subst same
    exact second.settled given

theorem dispose (waits : row.jobRef = none) (disposition : Disposition) :
    row.Becomes (row.dispose disposition) := by
  have sighting := row.sighting_dispose disposition
  obtain ⟨id, log⟩ := Prod.mk.inj sighting
  exact ⟨id, log, fun given => absurd waits given⟩

end StoredEvent.Becomes

namespace World

/-- Every row keeps its place in the table, and becomes what rows may become. -/
def Keeps (before after : World) : Prop :=
  ∀ (place : Nat) row, before.store.events[place]? = some row →
    ∃ later, after.store.events[place]? = some later ∧ row.Becomes later

theorem Keeps.trans {first middle last : World} (start : first.Keeps middle)
    (rest : middle.Keeps last) : first.Keeps last := by
  intro place row held
  obtain ⟨later, kept, becomes⟩ := start place row held
  obtain ⟨final, found, becomes'⟩ := rest place later kept
  exact ⟨final, found, becomes.trans becomes'⟩

/-- To put rows behind the others touches none. -/
theorem keeps_of_prefix {before after : World}
    (grown : before.store.events <+: after.store.events) : before.Keeps after := by
  intro place row held
  obtain ⟨more, same⟩ := grown
  have bound : place < before.store.events.length := (List.getElem?_eq_some_iff.1 held).1
  refine ⟨row, ?_, .refl row⟩
  rw [← same, List.getElem?_append_left bound, held]

theorem Keeps.refl (world : World) : world.Keeps world := keeps_of_prefix (List.prefix_refl _)

end World

/-- The row that is disposed of waits, and the others stay. -/
theorem Store.becomes_of_disposeRow {event : Id} {disposition : Disposition}
    {rows after : List StoredEvent} (found : disposeRow event disposition rows = some after)
    (waiting : ∀ row ∈ rows, row.id = event → row.jobRef = none) (place : Nat) {row : StoredEvent}
    (held : rows[place]? = some row) :
    ∃ later, after[place]? = some later ∧ row.Becomes later := by
  obtain ⟨before, old, behind, named, rfl, rfl⟩ := disposeRow_eq_some found
  rcases Nat.lt_trichotomy place before.length with early | rfl | late
  · rw [List.getElem?_append_left early] at held
    exact ⟨row, by rw [List.getElem?_append_left early, held], .refl row⟩
  · obtain rfl : old = row := by simpa using held
    exact ⟨_, by simp, .dispose (waiting old (by simp) named) disposition⟩
  · obtain ⟨rest, rfl⟩ := Nat.exists_eq_add_of_lt late
    have beyond : ∀ head : StoredEvent,
        (before ++ head :: behind)[before.length + rest + 1]? = behind[rest]? := by
      intro head
      rw [Nat.add_assoc, List.getElem?_append_right (Nat.le_add_right ..), Nat.add_sub_cancel_left,
        List.getElem?_cons_succ]
    rw [beyond] at held
    exact ⟨row, (beyond _).trans held, .refl row⟩

namespace World

/-- A request keeps the rows if it disposes only of an event that waits. -/
theorem Keeps.of_makes {before after : World} {request : Request}
    (makes : request.Makes before after)
    (waiting : ∀ event disposition, request = .store (.disposeEvent event disposition) →
      ∀ row ∈ before.store.events, row.id = event → row.jobRef = none) : before.Keeps after := by
  cases makes with
  | committed logs last | advanced logs last =>
    exact keeps_of_prefix (Store.prefix_foldl_takeIn logs (before.store.events, before.mint))
  | disposed event disposition found =>
    intro place row held
    exact Store.becomes_of_disposeRow found (waiting event disposition rfl) place held
  | maintained u =>
    apply keeps_of_prefix
    cases u <;> exact List.prefix_refl _
  | _ => exact keeps_of_prefix (List.prefix_refl _)

/-- Without sweeps every row stays. -/
theorem carries_keeps {freedom : Freedom}
    (spared : ∀ request, freedom.requests request → ¬ request.sweeps) : freedom.Carries Keeps where
  refl := .refl
  trans := .trans
  request site request may := by
    apply Keeps.of_makes (site.makes request)
    intro event disposition same
    have sweeps : request.sweeps := by rw [same]; trivial
    exact absurd sweeps (spared request may)
  chain _ _ _ := keeps_of_prefix (List.prefix_refl _)
  queue _ _ _ _ := keeps_of_prefix (List.prefix_refl _)

/-- While an event waits, every row with its id does. -/
theorem Waits.jobRef_eq_none {world : World} {event : Id} {log : Log} (waits : world.Waits event log)
    (numbered : world.Numbered) (apart : world.mint.used.Nodup) {row : StoredEvent}
    (mem : row ∈ world.store.events) (named : row.id = event) : row.jobRef = none := by
  obtain ⟨kept, among, same, -, waiting⟩ := waits
  have one : row = kept :=
    List.inj_on_of_nodup_map (numbered.nodup apart) mem among (named.trans same.symm)
  rwa [one]

end World

namespace Succession

variable {start middle last : Site} {rounds : List Round} {before behind : List Act}

/-- While an event waits at an act, its row has no job reference there. -/
theorem waiting_at (run : Succession Cycle.sweep betweenSweeps start rounds last)
    (numbered : start.world.Numbered) (apart : last.world.mint.used.Nodup) {act : Act}
    (mem : act ∈ actsOf rounds) {event : Id} {log : Log} (waits : act.site.world.Waits event log) :
    ∀ row ∈ act.site.world.store.events, row.id = event → row.jobRef = none := by
  intro row among named
  have grows := (run.joins.grows_at mem).2
  obtain ⟨before, behind, parts⟩ := List.append_of_mem mem
  have joins := run.joins
  rw [parts] at joins
  exact waits.jobRef_eq_none (joins.at.1.numbered numbered) (grows.used.nodup apart) among named

/-- A sweep disposes only of events that wait. -/
theorem disposes_waiting (run : Succession Cycle.sweep betweenSweeps start rounds last)
    (numbered : start.world.Numbered) (apart : last.world.mint.used.Nodup) {act : Act}
    (mem : act ∈ actsOf rounds) (event : Id) (disposition : Disposition)
    (disposes : act.request = .store (.disposeEvent event disposition)) :
    ∀ row ∈ act.site.world.store.events, row.id = event → row.jobRef = none := by
  obtain ⟨before, behind, parts⟩ := List.append_of_mem mem
  obtain ⟨site, request⟩ := act
  subst disposes
  obtain ⟨log, waits⟩ := run.at_dispose Freedom.between_spares numbered apart parts
  exact run.waiting_at numbered apart mem waits

/-- A sweep offers jobs only for events that wait. -/
theorem offers_waiting (run : Succession Cycle.sweep betweenSweeps start rounds last)
    (numbered : start.world.Numbered) (apart : last.world.mint.used.Nodup) {site : Site} {job : Job}
    (mem : ⟨site, .offer job⟩ ∈ actsOf rounds) :
    ∀ row ∈ site.world.store.events, row.id = job.originEvent → row.jobRef = none := by
  obtain ⟨before, behind, parts⟩ := List.append_of_mem mem
  obtain ⟨event, waits, answers⟩ := run.at_offer Freedom.between_spares numbered apart parts
  rw [answers.origin]
  exact run.waiting_at numbered apart mem waits

/-- Along every stretch of a run of sweeps the rows are kept. -/
theorem keeps (run : Succession Cycle.sweep betweenSweeps start rounds last)
    (numbered : start.world.Numbered) (apart : last.world.mint.used.Nodup) {stretch : List Act}
    (among : stretch ⊆ actsOf rounds) {site next : Site}
    (joins : betweenSweeps.Joins site stretch next) : site.world.Keeps next.world := by
  have carries := World.carries_keeps Freedom.between_spares
  apply carries.joins joins
  intro act mem
  apply World.Keeps.of_makes (act.site.makes act.request)
  exact run.disposes_waiting numbered apart (among mem)

end Succession

/-- From any moment of a run on, the table of events only grows at its end, no row gets another
id or log, one that has a job reference stays as it is, and no job is offered for it. -/
theorem settled_final {start middle last : Site} {rounds : List Round} {before behind : List Act}
    (run : Succession Cycle.sweep betweenSweeps start rounds last)
    (numbered : start.world.Numbered) (apart : last.world.mint.used.Nodup)
    (parts : actsOf rounds = before ++ behind) (future : betweenSweeps.Joins middle behind last) :
    middle.world.Keeps last.world ∧
      ∀ job ∈ offers behind, ∀ row ∈ middle.world.store.events,
        row.id = job.originEvent → row.jobRef = none := by
  have ahead : behind ⊆ actsOf rounds := by
    rw [parts]
    exact List.subset_append_right _ _
  refine ⟨run.keeps numbered apart ahead future, ?_⟩
  intro job offered row mem named
  obtain ⟨act, among, offered⟩ := List.mem_filterMap.1 offered
  obtain ⟨site, rfl⟩ := Act.offered?_eq_some offered
  have waiting := run.offers_waiting numbered apart (ahead among)
  obtain ⟨front, rest, rfl⟩ := List.append_of_mem among
  have upto : front ⊆ actsOf rounds := fun act mem => ahead (List.mem_append_left _ mem)
  have kept := run.keeps numbered apart upto future.at.1
  obtain ⟨place, held⟩ := List.mem_iff_getElem?.1 mem
  obtain ⟨later, found, becomes⟩ := kept place row held
  -- What the row has become by the offer waits; had it a job reference, it would be the same row.
  by_contra given
  have same := becomes.settled given
  subst same
  exact given (waiting later (List.mem_of_getElem? found) named)

/-- The closing waits after the first sweep and is offered once more by the second, which gives it
its job reference. -/
theorem settled_closing :
    Sample.halfway.last.world.Keeps Sample.retried.last.world ∧
      (∃ job ∈ offers Sample.retried.acts, ∃ row ∈ Sample.halfway.last.world.store.events,
        row.id = job.originEvent ∧ row.jobRef = none) ∧
      ∃ row ∈ Sample.retried.last.world.store.events, row.jobRef ≠ none := by
  have future : betweenSweeps.Joins Sample.halfway.last Sample.retried.acts Sample.retried.last :=
    .stir (.queue trivial (.accept .incrementSupply)) (Freedom.alone_joins _ _)
  have parts : actsOf [⟨Sample.client, Sample.halfway.acts⟩, ⟨Sample.client, Sample.retried.acts⟩] =
      Sample.halfway.acts ++ Sample.retried.acts := by simp [actsOf]
  have final := settled_final Sample.succession (numbered_of_unused rfl) (by decide +kernel) parts future
  refine ⟨final.1, ?_, by decide +kernel⟩
  have offered : ∃ job ∈ offers Sample.retried.acts,
      ∃ row ∈ Sample.halfway.last.world.store.events, row.id = job.originEvent := by
    decide +kernel
  obtain ⟨job, mem, row, among, named⟩ := offered
  exact ⟨job, mem, row, among, named, final.2 job mem row among named⟩

end ChannelWatch
