import Mathlib.Data.List.Nodup
import ChannelWatch.Proofs.Effect

/-!
# What grows and what stays

Whatever happens in a world, accepted jobs and stored events stay, in the order in which they
came, and ids are never taken back. Some things change through few requests only: the
tables through those of an operator, the accepted jobs through offers, and the state of an
event through its disposition.
-/

namespace ChannelWatch
set_option autoImplicit false

namespace Mint

/-- The ids that were drawn so far. -/
def used (mint : Mint) : List Id := (List.range mint.drawn).map mint.draw

theorem used_next (mint : Mint) : mint.next.2.used = mint.used ++ [mint.next.1] := by
  simp [used, next, List.range_succ]

end Mint

namespace StoredEvent

/-- What never changes about a row. -/
def sighting (event : StoredEvent) : Id × Log := (event.id, event.log)

theorem sighting_dispose (event : StoredEvent) (disposition : Disposition) :
    (event.dispose disposition).sighting = event.sighting := by
  cases disposition <;> rfl

end StoredEvent

namespace Store

/-- The ids of a table of events, of the supply's ids in their order. -/
def Numbered (rows : List StoredEvent × Mint) : Prop :=
  (rows.1.map StoredEvent.id).Sublist rows.2.used

theorem nodup_unscheduled {store : Store} (distinct : (store.events.map StoredEvent.id).Nodup) :
    (store.unscheduled.map StoredEvent.id).Nodup := by
  rw [unscheduled, ((List.mergeSort_perm _ _).map StoredEvent.id).nodup_iff]
  exact (List.filter_sublist.map StoredEvent.id).nodup distinct

/-- What one more log makes of a table of events: nothing, or one more row that waits. -/
theorem takeIn_cases (rows : List StoredEvent × Mint) (log : Log) :
    takeIn rows log = rows ∧ (∃ row ∈ rows.1, row.log.identity = log.identity) ∨
      takeIn rows log = (rows.1 ++ [⟨rows.2.next.1, log, none, 0⟩], rows.2.next.2) ∧
        ∀ row ∈ rows.1, row.log.identity ≠ log.identity := by
  unfold takeIn
  split
  · rename_i known
    exact .inl ⟨rfl, by simpa using known⟩
  · rename_i unknown
    exact .inr ⟨rfl, by simpa using unknown⟩

theorem foldl_takeIn_induct {P : List StoredEvent × Mint → Prop}
    (step : ∀ rows log, P rows → P (takeIn rows log)) (logs : List Log)
    (rows : List StoredEvent × Mint) (start : P rows) : P (logs.foldl takeIn rows) := by
  induction logs generalizing rows with
  | nil => exact start
  | cons log logs ih => exact ih _ (step rows log start)

/-- Logs that are taken in add rows that wait, behind the others. -/
theorem foldl_takeIn_appends (logs : List Log) (rows : List StoredEvent × Mint) :
    ∃ more, (logs.foldl takeIn rows).1 = rows.1 ++ more ∧
      ∀ row ∈ more, row.log ∈ logs ∧ row.jobRef = none := by
  induction logs generalizing rows with
  | nil => exact ⟨[], by simp, by simp⟩
  | cons log logs ih =>
    obtain ⟨more, shape, waiting⟩ := ih (takeIn rows log)
    have later : ∀ row ∈ more, row.log ∈ log :: logs ∧ row.jobRef = none := fun row mem =>
      ⟨List.mem_cons_of_mem _ (waiting row mem).1, (waiting row mem).2⟩
    rcases takeIn_cases rows log with ⟨same, -⟩ | ⟨grown, -⟩
    · exact ⟨more, by rw [List.foldl_cons, shape, same], later⟩
    · refine ⟨⟨rows.2.next.1, log, none, 0⟩ :: more, ?_, ?_⟩
      · rw [List.foldl_cons, shape, grown, List.append_assoc, List.singleton_append]
      · intro row mem
        rcases List.mem_cons.1 mem with rfl | mem
        · exact ⟨List.mem_cons_self, rfl⟩
        · exact later row mem

theorem prefix_foldl_takeIn (logs : List Log) (rows : List StoredEvent × Mint) :
    rows.1 <+: (logs.foldl takeIn rows).1 := by
  obtain ⟨more, shape, -⟩ := foldl_takeIn_appends logs rows
  exact ⟨more, shape.symm⟩

theorem draw_takeIn (rows : List StoredEvent × Mint) (log : Log) :
    (takeIn rows log).2.draw = rows.2.draw := by
  rcases takeIn_cases rows log with ⟨same, -⟩ | ⟨more, -⟩
  · rw [same]
  · rw [more]
    rfl

theorem drawn_takeIn (rows : List StoredEvent × Mint) (log : Log) :
    rows.2.drawn ≤ (takeIn rows log).2.drawn := by
  rcases takeIn_cases rows log with ⟨same, -⟩ | ⟨more, -⟩
  · simp [same]
  · rw [more]
    exact Nat.le_succ _

theorem Numbered.takeIn {rows : List StoredEvent × Mint} (numbered : Numbered rows) (log : Log) :
    Numbered (takeIn rows log) := by
  rcases takeIn_cases rows log with ⟨same, -⟩ | ⟨more, -⟩
  · rwa [same]
  · rw [more]
    simp only [Numbered, List.map_append, Mint.used_next]
    exact numbered.append (List.Sublist.refl _)

/-- What is disposed of is one row with the id, and the other rows stay where they are. -/
theorem disposeRow_eq_some {event : Id} {disposition : Disposition} {rows after : List StoredEvent}
    (found : disposeRow event disposition rows = some after) :
    ∃ before row behind, row.id = event ∧ rows = before ++ row :: behind ∧
      after = before ++ row.dispose disposition :: behind := by
  induction rows generalizing after with
  | nil => cases found
  | cons head rows ih =>
    simp only [disposeRow] at found
    split at found
    · rename_i named
      cases found
      exact ⟨[], head, rows, named, rfl, rfl⟩
    · obtain ⟨rest, later, rfl⟩ := Option.map_eq_some_iff.1 found
      obtain ⟨before, row, behind, named, rfl, rfl⟩ := ih later
      exact ⟨head :: before, row, behind, named, rfl, rfl⟩

theorem map_disposeRow {α : Type} (f : StoredEvent → α) {event : Id} {disposition : Disposition}
    (same : ∀ row : StoredEvent, f (row.dispose disposition) = f row)
    {rows after : List StoredEvent} (found : disposeRow event disposition rows = some after) :
    after.map f = rows.map f := by
  obtain ⟨before, row, behind, -, rfl, rfl⟩ := disposeRow_eq_some found
  simp [same]

/-- A row with another id is not touched. -/
theorem mem_of_disposeRow {event : Id} {disposition : Disposition} {rows after : List StoredEvent}
    (found : disposeRow event disposition rows = some after) {row : StoredEvent}
    (mem : row ∈ rows) (other : row.id ≠ event) : row ∈ after := by
  obtain ⟨before, taken, behind, named, rfl, rfl⟩ := disposeRow_eq_some found
  rcases List.mem_append.1 mem with early | late
  · exact List.mem_append_left _ early
  · rcases List.mem_cons.1 late with rfl | late
    · exact absurd named other
    · exact List.mem_append_right _ (List.mem_cons_of_mem _ late)

end Store

namespace World

/-- What stays of a world, whatever happens. -/
structure Grows (before after : World) : Prop where
  draw : after.mint.draw = before.mint.draw
  drawn : before.mint.drawn ≤ after.mint.drawn
  jobs : before.queue.jobs <+: after.queue.jobs
  events : before.store.events.map StoredEvent.sighting <+:
    after.store.events.map StoredEvent.sighting
  repeatable : before.queue.repeatable ⊆ after.queue.repeatable

theorem Grows.refl (world : World) : Grows world world :=
  ⟨rfl, Nat.le_refl _, List.prefix_refl _, List.prefix_refl _, fun _ mem => mem⟩

theorem Grows.trans {first middle last : World} (start : Grows first middle)
    (rest : Grows middle last) : Grows first last :=
  ⟨rest.draw.trans start.draw, Nat.le_trans start.drawn rest.drawn, start.jobs.trans rest.jobs,
    start.events.trans rest.events, fun _ mem => rest.repeatable (start.repeatable mem)⟩

theorem grows_commit (world : World) (logs : List Log) (last : BlockNumber) :
    Grows world (world.commit logs last) where
  draw := Store.foldl_takeIn_induct (P := fun rows => rows.2.draw = world.mint.draw)
    (fun rows log same => (Store.draw_takeIn rows log).trans same) logs _ rfl
  drawn := Store.foldl_takeIn_induct (P := fun rows => world.mint.drawn ≤ rows.2.drawn)
    (fun rows log more => Nat.le_trans more (Store.drawn_takeIn rows log)) logs _ (Nat.le_refl _)
  jobs := List.prefix_refl _
  events := (Store.prefix_foldl_takeIn logs (world.store.events, world.mint)).map _
  repeatable := fun _ mem => mem

theorem Grows.of_makes {before after : World} {request : Request}
    (makes : request.Makes before after) : Grows before after := by
  cases makes with
  | same | setting | asked | reset => exact { Grows.refl before with }
  | committed logs last | advanced logs last => exact grows_commit before logs _
  | disposed event disposition found =>
    have same := Store.map_disposeRow _ (fun row => row.sighting_dispose disposition) found
    exact { Grows.refl before with events := by simp [same] }
  | accepted job =>
    exact ⟨rfl, Nat.le_succ _, List.prefix_append _ _, List.prefix_refl _, fun _ mem => mem⟩
  | drawn => exact { Grows.refl before with drawn := Nat.le_succ _ }
  | maintained u =>
    cases u with
    | insertAccount | insertOffering | insertChannel =>
      exact { Grows.refl before with drawn := Nat.le_succ _ }
    | _ => exact { Grows.refl before with }

/-- Only an offer changes the queue. -/
theorem queue_of_makes {before after : World} {request : Request}
    (makes : request.Makes before after) (quiet : ∀ job, request ≠ .offer job) :
    after.queue = before.queue := by
  cases makes with
  | accepted job => exact absurd rfl (quiet job)
  | _ => rfl

/-- No request changes whether lookups fail. -/
theorem failsLookups_of_makes {before after : World} {request : Request}
    (makes : request.Makes before after) :
    after.queue.failsLookups = before.queue.failsLookups := by
  cases makes <;> rfl

theorem Grows.of_told {world : World} {queue : Queue} (told : world.queue.Told queue) :
    Grows world { world with queue } := by
  cases told with
  | allowRepeats type =>
    exact { Grows.refl world with repeatable := fun _ mem => List.mem_cons_of_mem _ mem }
  | _ => exact { Grows.refl world with }

theorem carries_grows (freedom : Freedom) : freedom.Carries Grows where
  refl := .refl
  trans := .trans
  request site request _ := .of_makes (site.makes request)
  chain world _ _ := { Grows.refl world with }
  queue _ _ _ told := .of_told told

/-- The ids of the stored events are ids of the supply, in their order. -/
def Numbered (world : World) : Prop := Store.Numbered (world.store.events, world.mint)

theorem Numbered.of_makes {before after : World} {request : Request}
    (makes : request.Makes before after) (numbered : before.Numbered) : after.Numbered := by
  have more : (before.store.events.map StoredEvent.id).Sublist before.mint.next.2.used := by
    rw [Mint.used_next]
    exact numbered.trans (List.sublist_append_left _ _)
  cases makes with
  | same | setting | asked | reset => exact numbered
  | committed logs last | advanced logs last =>
    exact Store.foldl_takeIn_induct (P := Store.Numbered) (fun rows log holds => holds.takeIn log)
      logs (before.store.events, before.mint) numbered
  | disposed event disposition found =>
    have same := Store.map_disposeRow StoredEvent.id
      (fun row => congrArg Prod.fst (row.sighting_dispose disposition)) found
    simpa only [Numbered, Store.Numbered, same] using numbered
  | accepted job => exact more
  | drawn => exact more
  | maintained u =>
    cases u with
    | insertAccount | insertOffering | insertChannel => exact more
    | _ => exact numbered

theorem carries_numbered (freedom : Freedom) :
    freedom.Carries fun before after => before.Numbered → after.Numbered where
  refl _ := id
  trans start rest := rest ∘ start
  request site request _ := .of_makes (site.makes request)
  chain _ _ _ := id
  queue _ _ _ _ := id

theorem Grows.used {before after : World} (grows : Grows before after) :
    before.mint.used.Sublist after.mint.used := by
  rw [Mint.used, Mint.used, grows.draw]
  exact (List.range_sublist.2 grows.drawn).map _

/-- The event is on file with the log. -/
def Files (world : World) (event : Id) (log : Log) : Prop :=
  (event, log) ∈ world.store.events.map StoredEvent.sighting

theorem Files.grow {before after : World} {event : Id} {log : Log}
    (files : before.Files event log) (grows : Grows before after) : after.Files event log :=
  grows.events.subset files

/-- An id is that of one log. -/
theorem Files.unique {world : World} (numbered : world.Numbered) (apart : world.mint.used.Nodup)
    {event : Id} {log other : Log} (files : world.Files event log)
    (again : world.Files event other) : log = other := by
  have ids : ((world.store.events.map StoredEvent.sighting).map Prod.fst).Nodup := by
    rw [List.map_map]
    exact numbered.nodup apart
  exact congrArg Prod.snd (List.inj_on_of_nodup_map ids files again rfl)

/-- The event waits for a sweep. -/
def Waits (world : World) (event : Id) (log : Log) : Prop :=
  ∃ row ∈ world.store.events, row.id = event ∧ row.log = log ∧ row.jobRef = none

theorem Waits.files {world : World} {event : Id} {log : Log} (waits : world.Waits event log) :
    world.Files event log := by
  obtain ⟨row, mem, rfl, rfl, -⟩ := waits
  exact List.mem_map_of_mem mem

theorem waits_of_mem_unscheduled {world : World} {event : StoredEvent}
    (mem : event ∈ world.store.unscheduled) : world.Waits event.id event.log := by
  obtain ⟨kept, waiting⟩ := List.mem_filter.1 (List.mem_mergeSort.1 mem)
  exact ⟨event, kept, rfl, rfl, by simpa [StoredEvent.isScheduled] using waiting⟩

/-- The events of a snapshot have different ids. -/
theorem Numbered.nodup_unscheduled {world : World} (numbered : world.Numbered)
    (apart : world.mint.used.Nodup) : (world.store.unscheduled.map StoredEvent.id).Nodup :=
  Store.nodup_unscheduled (List.Sublist.nodup numbered apart)

/-- An event waits until it is disposed of. -/
theorem Waits.of_makes {before after : World} {request : Request} {event : Id} {log : Log}
    (makes : request.Makes before after)
    (spared : ∀ disposition, request ≠ .store (.disposeEvent event disposition))
    (waits : before.Waits event log) : after.Waits event log := by
  obtain ⟨row, mem, same, content, waiting⟩ := waits
  cases makes with
  | committed logs last | advanced logs last =>
    have kept := Store.prefix_foldl_takeIn logs (before.store.events, before.mint)
    exact ⟨row, kept.subset mem, same, content, waiting⟩
  | disposed other disposition found =>
    have apart : row.id ≠ other := by
      rintro rfl
      exact spared disposition (by rw [same])
    exact ⟨row, Store.mem_of_disposeRow found mem apart, same, content, waiting⟩
  | maintained u => cases u <;> exact ⟨row, mem, same, content, waiting⟩
  | _ => exact ⟨row, mem, same, content, waiting⟩

/-- Two worlds know the same accounts, offerings and channels. -/
structure Agrees (before after : World) : Prop where
  accounts : after.store.accounts = before.store.accounts
  offerings : after.store.offerings = before.store.offerings
  channels : after.store.channels = before.store.channels

theorem Agrees.refl (world : World) : Agrees world world := ⟨rfl, rfl, rfl⟩

theorem Agrees.trans {first middle last : World} (start : Agrees first middle)
    (rest : Agrees middle last) : Agrees first last :=
  ⟨rest.accounts.trans start.accounts, rest.offerings.trans start.offerings,
    rest.channels.trans start.channels⟩

end World

namespace Request

/-- Only a sweep makes such requests. -/
def sweeps : Request → Prop
  | .offer _ | .countClosing _ | .store (.disposeEvent _ _) => True
  | _ => False

/-- The request puts something into the tables of accounts, offerings and channels. -/
def seeds : Request → Prop
  | .upkeep (.insertAccount _ _) | .upkeep (.insertOffering _) | .upkeep (.insertChannel _ _) => True
  | _ => False

/-- The request stores logs. -/
def commits : Request → Prop
  | .advance _ _ | .store (.commitWindow _ _) => True
  | _ => False

end Request

namespace World

theorem Agrees.of_makes {before after : World} {request : Request}
    (makes : request.Makes before after) (barren : ¬ request.seeds) : Agrees before after := by
  cases makes with
  | maintained u =>
    cases u with
    | insertAccount | insertOffering | insertChannel => exact absurd trivial barren
    | _ => exact ⟨rfl, rfl, rfl⟩
  | _ => exact ⟨rfl, rfl, rfl⟩

theorem carries_agrees {freedom : Freedom}
    (barren : ∀ request, freedom.requests request → ¬ request.seeds) :
    freedom.Carries Agrees where
  refl := .refl
  trans := .trans
  request site request may := .of_makes (site.makes request) (barren request may)
  chain _ _ _ := ⟨rfl, rfl, rfl⟩
  queue _ _ _ _ := ⟨rfl, rfl, rfl⟩

/-- Without sweeps the accepted jobs stay the same. -/
theorem carries_accepted {freedom : Freedom}
    (spared : ∀ request, freedom.requests request → ¬ request.sweeps) :
    freedom.Carries fun before after => after.queue.accepted = before.queue.accepted where
  refl _ := rfl
  trans start rest := rest.trans start
  request site request may := by
    rw [queue_of_makes (site.makes request) fun job same => spared request may (by rw [same]; trivial)]
  chain _ _ _ := rfl
  queue _ _ _ told := by cases told <;> rfl

theorem carries_waits {freedom : Freedom} (event : Id) (log : Log)
    (spared : ∀ request, freedom.requests request → ¬ request.sweeps) :
    freedom.Carries fun before after => before.Waits event log → after.Waits event log where
  refl _ := id
  trans start rest := rest ∘ start
  request site request may := .of_makes (site.makes request) fun disposition same =>
    spared request may (by rw [same]; trivial)
  chain _ _ _ := id
  queue _ _ _ _ := id

end World

namespace Freedom.Joins

variable {freedom : Freedom} {first last : Site} {acts : List Act}

theorem grows (joins : freedom.Joins first acts last) : first.world.Grows last.world :=
  (World.carries_grows freedom).joins joins fun act _ => .of_makes (act.site.makes act.request)

/-- The world of an act lies between the first and the last one. -/
theorem grows_at (joins : freedom.Joins first acts last) {act : Act} (mem : act ∈ acts) :
    first.world.Grows act.site.world ∧ act.site.world.Grows last.world := by
  obtain ⟨before, behind, rfl⟩ := List.append_of_mem mem
  obtain ⟨start, rest⟩ := joins.at
  exact ⟨start.grows, .trans (.of_makes (act.site.makes act.request)) rest.grows⟩

theorem numbered (joins : freedom.Joins first acts last) (numbered : first.world.Numbered) :
    last.world.Numbered :=
  (World.carries_numbered freedom).joins joins
    (fun act _ => .of_makes (act.site.makes act.request)) numbered

/-- An event waits as long as no act disposes of it. -/
theorem waits (joins : freedom.Joins first acts last)
    (spared : ∀ request, freedom.requests request → ¬ request.sweeps) {event : Id} {log : Log}
    (kept : ∀ act ∈ acts, ∀ disposition,
      act.request ≠ .store (.disposeEvent event disposition))
    (waits : first.world.Waits event log) : last.world.Waits event log :=
  (World.carries_waits event log spared).joins joins
    (fun act mem => .of_makes (act.site.makes act.request) (kept act mem)) waits

end Freedom.Joins

namespace Series

variable {α : Type} {cycle : Profile → Cycle α} {between within : Freedom} {first last : Site}
  {rounds : List Round}

theorem grows (series : Series cycle between within first rounds last) :
    first.world.Grows last.world := by
  induction series with
  | rest site => exact .refl _
  | stir stir _ ih => exact .trans ((World.carries_grows between).stir stir) ih
  | round profile course joins _ ih => exact joins.grows.trans ih

theorem numbered (series : Series cycle between within first rounds last)
    (numbered : first.world.Numbered) : last.world.Numbered := by
  induction series with
  | rest site => exact numbered
  | stir stir _ ih => exact ih ((World.carries_numbered between).stir stir numbered)
  | round profile course joins _ ih => exact ih (joins.numbered numbered)

end Series

end ChannelWatch
