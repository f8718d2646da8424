import ChannelWatch.Proofs.Pass
import ChannelWatch.Proofs.Cancellation
import ChannelWatch.Proofs.Succession

/-!
# What a sweep accounts for

A sweep works through the rows of its snapshot from the first one on, and records once how the
handling of each has ended; nothing else in the store changes by it. `Accounts` says what that
comes to, however the sweep ends, and what its report counts. The main statement is
`sweep_accounts`.
-/

namespace ChannelWatch
set_option autoImplicit false

/-- A row of a snapshot, and how its handling ended. -/
structure Ending where
  row : StoredEvent
  disposition : Disposition

namespace Ending

/-- What is recorded of it. -/
def record (ending : Ending) : Id × Disposition := (ending.row.id, ending.disposition)

/-- The row as it is left. -/
def later (ending : Ending) : StoredEvent := ending.row.dispose ending.disposition

/-- The row got the id of a job. -/
def answered (ending : Ending) : Bool := ending.later.isScheduled && !ending.later.isIgnored

/-- The row got the ignored mark. -/
def dropped (ending : Ending) : Bool := ending.later.isIgnored

/-- The row got one more failure and no job reference. -/
def putOff (ending : Ending) : Bool :=
  decide (ending.later = { ending.row with failures := ending.row.failures + 1 })

/-- The row waited, and what it got is not mistaken for the ignored mark. -/
structure Sound (ending : Ending) : Prop where
  waits : ending.row.jobRef = none
  real : ending.disposition ≠ .scheduled Id.nil

theorem Sound.record {ending : Ending} (sound : ending.Sound) (report : SweepReport) :
    report.record ending.disposition =
      ⟨report.scheduled + ending.answered.toNat, report.ignored + ending.dropped.toNat,
        report.failed + ending.putOff.toNat⟩ := by
  obtain ⟨row, disposition⟩ := ending
  obtain ⟨waits, real⟩ := sound
  have waits : row.jobRef = none := waits
  cases disposition with
  | scheduled id =>
    have real : id ≠ Id.nil := fun same => real (congrArg Disposition.scheduled same)
    have differs : ¬ ({ row with jobRef := some id } : StoredEvent) =
        { row with failures := row.failures + 1 } := by
      intro same
      have refs : some id = row.jobRef := congrArg StoredEvent.jobRef same
      rw [waits] at refs
      cases refs
    simp [SweepReport.record, answered, dropped, putOff, later, StoredEvent.dispose,
      StoredEvent.isScheduled, StoredEvent.isIgnored, real, differs]
  | ignored =>
    have differs : ¬ ({ row with jobRef := some Id.nil } : StoredEvent) =
        { row with failures := row.failures + 1 } := by
      intro same
      have refs : some Id.nil = row.jobRef := congrArg StoredEvent.jobRef same
      rw [waits] at refs
      cases refs
    simp [SweepReport.record, answered, dropped, putOff, later, StoredEvent.dispose,
      StoredEvent.isScheduled, StoredEvent.isIgnored, differs]
  | failed =>
    simp [SweepReport.record, answered, dropped, putOff, later, StoredEvent.dispose,
      StoredEvent.isScheduled, StoredEvent.isIgnored, show row.jobRef = none from waits]

end Ending

/-- The report that counts some endings more. -/
def SweepReport.recordAll (report : SweepReport) (ends : List Ending) : SweepReport :=
  (ends.map Ending.disposition).foldl SweepReport.record report

/-- A report counts the rows by what they got. -/
theorem SweepReport.recordAll_eq {ends : List Ending} (sound : ∀ ending ∈ ends, ending.Sound)
    (report : SweepReport) :
    report.recordAll ends =
      ⟨report.scheduled + ends.countP Ending.answered, report.ignored + ends.countP Ending.dropped,
        report.failed + ends.countP Ending.putOff⟩ := by
  induction ends generalizing report with
  | nil => rfl
  | cons ending ends ih =>
    have first := (sound ending List.mem_cons_self).record report
    have rest := ih (fun other mem => sound other (List.mem_cons_of_mem _ mem))
      (report.record ending.disposition)
    have step : report.recordAll (ending :: ends) =
        (report.record ending.disposition).recordAll ends := rfl
    have counted : ∀ p : Ending → Bool,
        (ending :: ends).countP p = (p ending).toNat + ends.countP p := by
      intro p
      rw [List.countP_cons, Nat.add_comm]
      cases p ending <;> rfl
    rw [step, rest, first, counted, counted, counted]
    simp only [Nat.add_assoc]

theorem SweepReport.swept_recordAll (ends : List Ending) (report : SweepReport) :
    (report.recordAll ends).swept = report.swept + ends.length := by
  induction ends generalizing report with
  | nil => rfl
  | cons ending ends ih =>
    have step : report.recordAll (ending :: ends) =
        (report.record ending.disposition).recordAll ends := rfl
    have one : (report.record ending.disposition).swept = report.swept + 1 := by
      cases ending.disposition <;> simp only [record, swept] <;> omega
    rw [step, ih, one, List.length_cons]
    omega

/-- Acts have recorded the endings of the first ones of some events, once each and in order, and
have concerned no other event than those and the next one. -/
structure Records (events : List StoredEvent) (acts : List Act) (ends : List Ending)
    (behind : List StoredEvent) : Prop where
  split : events = ends.map Ending.row ++ behind
  recorded : disposals acts = ends.map Ending.record
  concerned : ∀ id ∈ concerns acts, ∃ row ∈ ends.map Ending.row ++ behind.take 1, row.id = id

namespace Records

variable {event : StoredEvent} {events behind : List StoredEvent} {own rest acts : List Act}
  {ends : List Ending}

theorem idle (silent : disposals acts = [])
    (about : ∀ id ∈ concerns acts, ∃ row ∈ events.take 1, row.id = id) :
    Records events acts [] events := ⟨rfl, silent, about⟩

/-- One more event in front. -/
theorem cons {disposition : Disposition} (records : Records events rest ends behind)
    (asked noted : Site) (silent : disposals own = []) (about : ∀ id ∈ concerns own, id = event.id)
    (granted : (noted.world.transact (.disposeEvent event.id disposition)).1 = .ok ()) :
    Records (event :: events)
      (⟨asked, .isCancelled⟩ :: own ++ ⟨noted, .store (.disposeEvent event.id disposition)⟩ :: rest)
      (⟨event, disposition⟩ :: ends) behind where
  split := by rw [records.split]; rfl
  recorded := by
    rw [disposals_pass silent asked granted]
    exact congrArg (List.cons _) records.recorded
  concerned id mem := by
    have asking : concerns (⟨asked, .isCancelled⟩ :: own) = concerns own := rfl
    have note : concerns (⟨noted, .store (.disposeEvent event.id disposition)⟩ :: rest) =
        event.id :: concerns rest := rfl
    rw [concerns_append, asking, note, List.mem_append, List.mem_cons] at mem
    rcases mem with here | rfl | later
    · exact ⟨event, List.mem_cons_self, (about id here).symm⟩
    · exact ⟨event, List.mem_cons_self, rfl⟩
    · obtain ⟨row, among, named⟩ := records.concerned id later
      exact ⟨row, List.mem_cons_of_mem _ among, named⟩

end Records

/-- What a sweep leaves when it ends, that counts endings on from a report: it reports them all and
none is left unless the watch is cancelled, or it ran out of time and put the last one off, or it
failed at the next event. -/
structure Closes (report : SweepReport) (acts : List Act)
    (left : Program (Except CycleError SweepReport)) (ends : List Ending)
    (behind : List StoredEvent) : Prop where
  ended : ∀ total, left = .done (.ok total) → total = report.recordAll ends ∧
    (behind = [] ∨ ∃ site, ⟨site, .isCancelled⟩ ∈ acts ∧ site.desk.cancelled = true)
  timedOut : left = .done (.error .timedOut) → ∃ earlier row, ends = earlier ++ [⟨row, .failed⟩]
  stopped : ∀ e, left = .done (.error e) → e ≠ .timedOut → behind ≠ []

namespace Closes

variable {event : StoredEvent} {events behind : List StoredEvent} {report : SweepReport}
  {own rest acts : List Act} {left : Program (Except CycleError SweepReport)} {ends : List Ending}

theorem cons {disposition : Disposition} (front : List Act)
    (closes : Closes (report.record disposition) rest left ends behind) :
    Closes report (front ++ rest) left (⟨event, disposition⟩ :: ends) behind where
  ended total done := by
    obtain ⟨counted, finished⟩ := closes.ended total done
    refine ⟨counted, finished.imp_right ?_⟩
    rintro ⟨site, mem, cancelled⟩
    exact ⟨site, List.mem_append_right _ mem, cancelled⟩
  timedOut late := by
    obtain ⟨earlier, row, rfl⟩ := closes.timedOut late
    exact ⟨_ :: earlier, row, rfl⟩
  stopped := closes.stopped

theorem of_unended (unended : ∀ result, left ≠ .done result) : Closes report acts left ends behind :=
  ⟨fun _ same => absurd same (unended _), fun same => absurd same (unended _),
    fun _ same => absurd same (unended _)⟩

theorem of_stopped (rest : behind ≠ [])
    (ends : left.Pending (· ≠ .isCancelled) ∨ ∃ e, left = .done (.error e) ∧ e ≠ .timedOut) :
    Closes report acts left [] behind := by
  rcases ends with pending | ⟨e, rfl, untimely⟩
  · cases left with
    | done result => cases pending
    | ask guard request next => exact .of_unended fun _ same => by cases same
  · refine ⟨fun _ same => ?_, fun same => ?_, fun _ _ _ => rest⟩
    · cases same
    · cases same
      exact absurd rfl untimely

theorem of_ok (finished : behind = [] ∨ ∃ site, ⟨site, .isCancelled⟩ ∈ acts ∧ site.desk.cancelled = true) :
    Closes report acts (.done (.ok report)) [] behind where
  ended total same := by
    cases same
    exact ⟨rfl, finished⟩
  timedOut same := by cases same
  stopped e same := by cases same

end Closes

namespace Cycle

variable {profile : Profile} {events : List StoredEvent} {batch : SweepBatch} {report : SweepReport}
  {acts : List Act} {left : Program (Except CycleError SweepReport)}

/-- A sweep that stops at an event has recorded nothing for it, and has concerned no other one. -/
theorem stopped_idle {event : StoredEvent} {own note : List Act}
    {first : Program (Except CycleError Submission)} (asked : Site)
    (run : (settle profile event batch).run.Course own first)
    (refused : note = [] ∨ ∃ noted disposition e,
      note = [⟨noted, .store (.disposeEvent event.id disposition)⟩] ∧
        (noted.world.transact (.disposeEvent event.id disposition)).1 = .error e) :
    disposals (⟨asked, .isCancelled⟩ :: (own ++ note)) = [] ∧
      ∀ id ∈ concerns (⟨asked, .isCancelled⟩ :: (own ++ note)),
        ∃ row ∈ (event :: events).take 1, row.id = id := by
  have silent : disposals (⟨asked, .isCancelled⟩ :: (own ++ note)) = disposals note := by
    show disposals (own ++ note) = _
    rw [disposals_append, settle_disposals run, List.nil_append]
  have about : concerns (⟨asked, .isCancelled⟩ :: (own ++ note)) = concerns own ++ concerns note :=
    concerns_append own note
  rw [silent, about]
  constructor
  · rcases refused with rfl | ⟨noted, disposition, e, rfl, refused⟩
    · rfl
    · simp [disposals, Act.disposal?_of_refused refused]
  · intro id mem
    refine ⟨event, List.mem_cons_self, ?_⟩
    rcases List.mem_append.1 mem with early | late
    · exact (settle_concerns run id early).symm
    · rcases refused with rfl | ⟨noted, disposition, e, rfl, -⟩
      · cases late
      · exact (List.mem_singleton.1 late).symm

/-- A sweep records the endings of its first events and closes. -/
theorem sweepThrough_records
    (course : (sweepThrough profile events batch report).run.Course acts left) :
    ∃ ends behind, Records events acts ends behind ∧ Closes report acts left ends behind := by
  induction events generalizing batch report acts with
  | nil =>
    obtain ⟨rfl, rfl⟩ := Program.course_done_iff.1 course
    exact ⟨[], [], .idle rfl (by simp [concerns]), .of_ok (.inl rfl)⟩
  | cons event events ih =>
    cases sweepThrough_pass course with
    | waiting =>
      exact ⟨[], _, .idle rfl (by simp [concerns]), .of_unended sweepThrough_cons_ne_done⟩
    | halted asked cancelled =>
      exact ⟨[], _, .idle rfl (by simp [concerns, Act.concerns?]),
        .of_ok (.inr ⟨asked, List.mem_cons_self, cancelled⟩)⟩
    | stopped asked begun run refused ends =>
      obtain ⟨silent, about⟩ := stopped_idle asked run refused
      exact ⟨[], _, .idle silent about, .of_stopped (List.cons_ne_nil _ _) ends⟩
    | expired asked noted free run granted =>
      have none : Records events [] [] events := .idle rfl (by simp [concerns])
      refine ⟨_, events,
        none.cons asked noted (settle_disposals run) (settle_concerns run) granted, ?_, ?_, ?_⟩
      · exact fun total same => by cases same
      · exact fun _ => ⟨[], event, rfl⟩
      · intro e same untimely
        cases same
        exact absurd rfl untimely
    | held asked noted awaits granted rest =>
      obtain ⟨ends, behind, records, closes⟩ := ih rest
      have silent : disposals [] = [] := rfl
      exact ⟨_, behind, records.cons asked noted silent (by simp [concerns]) granted,
        closes.cons [_, _]⟩
    | settled asked noted free given granted rest =>
      obtain ⟨ends, behind, records, closes⟩ := ih rest
      refine ⟨_, behind,
        records.cons asked noted (settle_disposals given) (settle_concerns given) granted, ?_⟩
      rw [List.append_cons]
      exact closes.cons _

end Cycle

namespace StoredEvent

/-- The row after an ending was recorded, its own or another one's. -/
def revise (row : StoredEvent) (entry : Id × Disposition) : StoredEvent :=
  if row.id = entry.1 then row.dispose entry.2 else row

theorem revise_of_ne {row : StoredEvent} {entry : Id × Disposition} (other : row.id ≠ entry.1) :
    row.revise entry = row := if_neg other

/-- The row after several endings were recorded. -/
def reviseAll (entries : List (Id × Disposition)) (row : StoredEvent) : StoredEvent :=
  entries.foldl revise row

theorem reviseAll_of_ne {entries : List (Id × Disposition)} {row : StoredEvent}
    (others : ∀ entry ∈ entries, row.id ≠ entry.1) : row.reviseAll entries = row := by
  induction entries with
  | nil => rfl
  | cons entry entries ih =>
    have first := revise_of_ne (others entry List.mem_cons_self)
    rw [reviseAll, List.foldl_cons, first]
    exact ih fun other mem => others other (List.mem_cons_of_mem _ mem)

/-- A row that is named once gets the ending that is recorded for it. -/
theorem reviseAll_of_mem {entries : List (Id × Disposition)} (once : (entries.map Prod.fst).Nodup)
    {row : StoredEvent} {disposition : Disposition} (mem : (row.id, disposition) ∈ entries) :
    row.reviseAll entries = row.dispose disposition := by
  obtain ⟨before, behind, rfl⟩ := List.append_of_mem mem
  rw [List.map_append, List.map_cons, List.nodup_append] at once
  obtain ⟨-, last, apart⟩ := once
  have early : row.reviseAll before = row := reviseAll_of_ne fun entry among same =>
    apart entry.1 (List.mem_map_of_mem among) row.id List.mem_cons_self same.symm
  have late : (row.dispose disposition).reviseAll behind = row.dispose disposition := by
    apply reviseAll_of_ne
    intro entry among same
    have named : (row.dispose disposition).id = row.id :=
      congrArg Prod.fst (row.sighting_dispose disposition)
    exact (List.nodup_cons.1 last).1 (List.mem_map.2 ⟨entry, among, same.symm.trans named⟩)
  have here : row.revise (row.id, disposition) = row.dispose disposition := if_pos rfl
  rw [reviseAll, List.foldl_append, List.foldl_cons]
  rw [reviseAll] at early
  rw [early, here]
  exact late

end StoredEvent

namespace Store

/-- The store after an ending was recorded. -/
def revise (store : Store) (entry : Id × Disposition) : Store :=
  { store with events := store.events.map (·.revise entry) }

/-- Where no two rows have one id, to dispose of a row is to revise the table. -/
theorem disposeRow_eq_map {rows after : List StoredEvent} (distinct : (rows.map StoredEvent.id).Nodup)
    {event : Id} {disposition : Disposition}
    (found : disposeRow event disposition rows = some after) :
    after = rows.map (·.revise (event, disposition)) := by
  obtain ⟨before, row, behind, rfl, rfl, rfl⟩ := disposeRow_eq_some found
  rw [List.map_append, List.map_cons, List.nodup_append] at distinct
  obtain ⟨-, last, apart⟩ := distinct
  have early : ∀ other ∈ before, other.revise (row.id, disposition) = other := fun other mem =>
    StoredEvent.revise_of_ne (apart other.id (List.mem_map_of_mem mem) row.id List.mem_cons_self)
  have late : ∀ other ∈ behind, other.revise (row.id, disposition) = other := fun other mem =>
    StoredEvent.revise_of_ne fun same =>
      (List.nodup_cons.1 last).1 (List.mem_map.2 ⟨other, mem, same⟩)
  have here : row.revise (row.id, disposition) = row.dispose disposition := if_pos rfl
  rw [List.map_append, List.map_cons, here, List.map_congr_left early, List.map_congr_left late,
    List.map_id', List.map_id']

end Store

/-- What is recorded is a revision of the table of events, and a refusal changes nothing. -/
theorem World.disposed (world : World)
    (distinct : (world.store.events.map StoredEvent.id).Nodup) (event : Id)
    (disposition : Disposition) :
    (world.transact (.disposeEvent event disposition)).1 = .ok () ∧
        (world.transact (.disposeEvent event disposition)).2.store =
          world.store.revise (event, disposition) ∨
      (∃ e, (world.transact (.disposeEvent event disposition)).1 = .error e) ∧
        (world.transact (.disposeEvent event disposition)).2.store = world.store := by
  rw [World.transact_eq]
  cases on : world.store.available with
  | false => exact .inr (by simp [Store.transact, on])
  | true =>
    cases found : Store.disposeRow event disposition world.store.events with
    | none => exact .inr (by simp [Store.transact, Store.grant, on, found])
    | some events =>
      have revised := Store.disposeRow_eq_map distinct found
      exact .inl (by simp [Store.transact, Store.grant, on, found, Store.revise, revised])

/-- A request of a sweep changes the table of events by the ending that it records, and nothing else
in the store. -/
theorem Act.store_after {act : Act} (ofSweep : act.request.ofSweep)
    (distinct : (act.site.world.store.events.map StoredEvent.id).Nodup) :
    act.after.world.store = act.disposal?.elim act.site.world.store act.site.world.store.revise := by
  obtain ⟨site, request⟩ := act
  by_cases disposes : ∃ event disposition, request = .store (.disposeEvent event disposition)
  · obtain ⟨event, disposition, rfl⟩ := disposes
    rcases site.world.disposed distinct event disposition with ⟨granted, revised⟩ | ⟨⟨e, refused⟩, same⟩
    · rw [disposal?_of_granted granted]
      exact revised
    · rw [disposal?_of_refused refused]
      exact same
  · have silent : (Act.mk site request).disposal? = none := by
      cases recorded : (Act.mk site request).disposal? with
      | none => rfl
      | some entry =>
        obtain ⟨_, same, -⟩ := disposal?_eq_some recorded
        cases same
        exact absurd ⟨_, _, rfl⟩ disposes
    rw [silent]
    have made := site.makes request
    show (site.perform request).2.world.store = site.world.store
    generalize (site.perform request).2.world = after at made ⊢
    cases made with
    | disposed event disposition => exact absurd ⟨_, _, rfl⟩ disposes
    | setting | committed | advanced | maintained => exact (ofSweep.elim id id).elim
    | _ => rfl

namespace World

/-- What may happen around a sweep only puts rows behind the others. -/
theorem carries_prefix {freedom : Freedom}
    (spared : ∀ request, freedom.requests request → ¬ request.sweeps) :
    freedom.Carries fun before after => before.store.events <+: after.store.events where
  refl _ := List.prefix_refl _
  trans := List.IsPrefix.trans
  request site request may := by
    have made := site.makes request
    generalize (site.perform request).2.world = after at made ⊢
    cases made with
    | committed logs last | advanced logs last =>
      exact Store.prefix_foldl_takeIn logs (site.world.store.events, site.world.mint)
    | disposed event disposition => exact absurd trivial (spared _ may)
    | maintained u => cases u <;> exact List.prefix_refl _
    | _ => exact List.prefix_refl _
  chain _ _ _ := List.prefix_refl _
  queue _ _ _ _ := List.prefix_refl _

/-- Where no two rows have one id, none had before. -/
theorem Grows.distinct {before after : World} (grows : before.Grows after)
    (distinct : (after.store.events.map StoredEvent.id).Nodup) :
    (before.store.events.map StoredEvent.id).Nodup := by
  have ids : ∀ rows : List StoredEvent,
      (rows.map StoredEvent.sighting).map Prod.fst = rows.map StoredEvent.id := fun rows =>
    List.map_map
  have known := grows.events.map Prod.fst
  rw [ids, ids] at known
  exact known.sublist.nodup distinct

end World

/-- At the end of a stretch of a sweep every row is in its place, with what was recorded for it. -/
theorem Freedom.Joins.revised {freedom : Freedom}
    (spared : ∀ request, freedom.requests request → ¬ request.sweeps) {first last : Site}
    {acts : List Act} (joins : freedom.Joins first acts last)
    (ofSweep : ∀ act ∈ acts, act.request.ofSweep)
    (distinct : (last.world.store.events.map StoredEvent.id).Nodup) :
    first.world.store.events.map (StoredEvent.reviseAll (disposals acts)) <+:
      last.world.store.events := by
  induction joins with
  | rest site =>
    have same : site.world.store.events.map (StoredEvent.reviseAll (disposals [])) =
        site.world.store.events := List.map_id _
    simpa only [same] using List.prefix_refl site.world.store.events
  | stir stir _ ih =>
    exact (((World.carries_prefix spared).stir stir).map _).trans (ih ofSweep distinct)
  | @act last acts act joins ih =>
    have here : (act.site.world.store.events.map StoredEvent.id).Nodup :=
      (World.Grows.trans (.of_makes (act.site.makes act.request)) joins.grows).distinct distinct
    have after := Act.store_after (ofSweep act List.mem_cons_self) here
    have rest := ih (fun later mem => ofSweep later (List.mem_cons_of_mem _ mem)) distinct
    rw [after] at rest
    cases recorded : act.disposal? with
    | none =>
      rw [recorded] at rest
      rwa [disposals, List.filterMap_cons_none recorded]
    | some entry =>
      rw [recorded] at rest
      have more : disposals (act :: acts) = entry :: disposals acts :=
        List.filterMap_cons_some recorded
      have once : act.site.world.store.events.map (StoredEvent.reviseAll (entry :: disposals acts)) =
          (act.site.world.store.revise entry).events.map (StoredEvent.reviseAll (disposals acts)) :=
        by
          rw [Store.revise, List.map_map]
          rfl
      rw [more, once]
      exact rest

/-- The rows of a table that wait, by their blocks, and within one block as they stand in the
table. -/
structure Lined (table line : List StoredEvent) : Prop where
  ascending : line.Pairwise fun row later => row.log.block ≤ later.log.block
  stable : ∀ block, (line.filter fun row => row.log.block = block) =
    table.filter fun row => !row.isScheduled && row.log.block = block

theorem Lined.mem_iff {table line : List StoredEvent} (lined : Lined table line)
    {row : StoredEvent} : row ∈ line ↔ row ∈ table ∧ row.jobRef = none := by
  have same := lined.stable row.log.block
  have here : row ∈ line ↔ row ∈ line.filter fun other => other.log.block = row.log.block := by simp
  rw [here, same]
  simp [StoredEvent.isScheduled]

theorem Store.lined_unscheduled (store : Store) : Lined store.events store.unscheduled := by
  have trans : ∀ a b c : StoredEvent, decide (a.log.block ≤ b.log.block) = true →
      decide (b.log.block ≤ c.log.block) = true → decide (a.log.block ≤ c.log.block) = true := by
    intro a b c first second
    simp only [decide_eq_true_iff] at first second ⊢
    exact UInt64.le_trans first second
  have total : ∀ a b : StoredEvent,
      (decide (a.log.block ≤ b.log.block) || decide (b.log.block ≤ a.log.block)) = true := by
    intro a b
    simpa using UInt64.le_total a.log.block b.log.block
  constructor
  · exact (List.pairwise_mergeSort trans total _).imp of_decide_eq_true
  · intro block
    let waiting := store.events.filter fun row => !row.isScheduled
    have narrowed : (store.events.filter fun row => !row.isScheduled && row.log.block = block) =
        waiting.filter fun row => row.log.block = block := by
      simp only [waiting, List.filter_filter, Bool.and_comm]
    have sorted : store.unscheduled.Perm waiting := List.mergeSort_perm _ _
    -- Rows of one block are in order already, so sorting keeps them as they stand.
    have kept : (waiting.filter fun row => row.log.block = block).Sublist store.unscheduled := by
      refine List.sublist_mergeSort trans total ?_ List.filter_sublist
      refine List.pairwise_of_forall_mem_list fun row mem later mem' => ?_
      have same : row.log.block = block := by simpa using (List.mem_filter.1 mem).2
      have same' : later.log.block = block := by simpa using (List.mem_filter.1 mem').2
      rw [same, same']
      exact decide_eq_true (UInt64.le_refl _)
    have among := kept.filter fun row => row.log.block = block
    rw [List.filter_filter] at among
    simp only [Bool.and_self] at among
    rw [narrowed]
    exact (among.eq_of_length (sorted.filter _).length_eq.symm).symm

/-- What a sweep that got a snapshot comes to: `ends` are the rows of the snapshot whose endings it
recorded, `waiting` are those that it left. -/
structure Accounts (listed last : Site) (acts : List Act)
    (left : Program (Except CycleError SweepReport)) (ends : List Ending)
    (waiting : List StoredEvent) : Prop where
  snapshot : Lined listed.world.store.events (ends.map Ending.row ++ waiting)
  recorded : disposals acts = ends.map Ending.record
  settled : ∀ (place : Nat), ∀ ending ∈ ends,
    listed.world.store.events[place]? = some ending.row →
      last.world.store.events[place]? = some ending.later
  kept : ∀ (place : Nat) row, listed.world.store.events[place]? = some row →
    (∀ ending ∈ ends, ending.row ≠ row) → last.world.store.events[place]? = some row
  concerned : ∀ id ∈ concerns acts, ∃ row ∈ ends.map Ending.row ++ waiting.take 1, row.id = id
  reported : ∀ report, left = .done (.ok report) →
    report = ⟨ends.countP Ending.answered, ends.countP Ending.dropped, ends.countP Ending.putOff⟩ ∧
      report.swept = ends.length ∧ (last.desk.cancelled = false → waiting = [])
  timedOut : left = .done (.error .timedOut) → ∃ earlier row, ends = earlier ++ [⟨row, .failed⟩]
  stopped : ∀ e, left = .done (.error e) → e ≠ .timedOut → waiting ≠ []

theorem getElem?_of_map_front {α β : Type} {f : α → β} {rows : List α} {table : List β}
    (revised : rows.map f <+: table) {place : Nat} {row : α} (held : rows[place]? = some row) :
    table[place]? = some (f row) := by
  obtain ⟨more, rfl⟩ := revised
  have bound : place < (rows.map f).length := by
    rw [List.length_map]
    exact (List.getElem?_eq_some_iff.1 held).1
  rw [List.getElem?_append_left bound, List.getElem?_map, held]
  rfl

section revised
variable {rows table : List StoredEvent} {ends : List Ending} {place : Nat}

/-- A row whose ending was recorded is left as that says. -/
theorem Ending.later_of_revised (once : ((ends.map Ending.record).map Prod.fst).Nodup)
    (revised : rows.map (StoredEvent.reviseAll (ends.map Ending.record)) <+: table)
    {ending : Ending} (mem : ending ∈ ends) (held : rows[place]? = some ending.row) :
    table[place]? = some ending.later := by
  have named : (ending.row.id, ending.disposition) ∈ ends.map Ending.record :=
    List.mem_map_of_mem mem
  rw [getElem?_of_map_front revised held, StoredEvent.reviseAll_of_mem once named]
  rfl

/-- A row whose ending was not recorded is left as it was. -/
theorem StoredEvent.kept_of_revised (distinct : (rows.map StoredEvent.id).Nodup)
    (known : ∀ ending ∈ ends, ending.row ∈ rows)
    (revised : rows.map (StoredEvent.reviseAll (ends.map Ending.record)) <+: table)
    {row : StoredEvent} (held : rows[place]? = some row)
    (others : ∀ ending ∈ ends, ending.row ≠ row) : table[place]? = some row := by
  rw [getElem?_of_map_front revised held, StoredEvent.reviseAll_of_ne]
  intro entry mem same
  obtain ⟨ending, among, rfl⟩ := List.mem_map.1 mem
  exact others ending among
    (List.inj_on_of_nodup_map distinct (known ending among) (List.mem_of_getElem? held) same.symm)

end revised

namespace Records

variable {events behind : List StoredEvent} {acts : List Act} {ends : List Ending}

theorem named_once (records : Records events acts ends behind)
    (distinct : (events.map StoredEvent.id).Nodup) :
    ((ends.map Ending.record).map Prod.fst).Nodup := by
  rw [records.split, List.map_append, List.map_map] at distinct
  rw [List.map_map]
  exact (List.nodup_append.1 distinct).1

/-- The rows whose endings were recorded were in the table, and waited. -/
theorem waited {table : List StoredEvent} (records : Records events acts ends behind)
    (lined : Lined table events) :
    ∀ ending ∈ ends, ending.row ∈ table ∧ ending.row.jobRef = none := by
  intro ending mem
  apply lined.mem_iff.1
  rw [records.split]
  exact List.mem_append_left _ (List.mem_map_of_mem mem)

end Records

/-- The ids that sweeps record as job references come from the supply. -/
theorem Sweeping.real {profile : Profile} {events : List StoredEvent} {batch : SweepBatch}
    {acts : List Act} (sweeping : Sweeping profile events batch acts)
    (distinct : (events.map StoredEvent.id).Nodup) {freedom : Freedom} {first last : Site}
    (joins : freedom.Joins first acts last) (real : Id.nil ∉ last.world.mint.used) {event id : Id}
    (recorded : (event, .scheduled id) ∈ disposals acts) : id ≠ Id.nil := by
  rintro rfl
  obtain ⟨act, mem, here⟩ := List.mem_filterMap.1 recorded
  obtain ⟨site, rfl, -⟩ := Act.disposal?_eq_some here
  obtain ⟨before, behind, rfl⟩ := List.append_of_mem mem
  obtain ⟨offered, job, among, taken, minted, -⟩ := sweeping.at_scheduled distinct rfl
  obtain ⟨earlier, later, rfl⟩ := List.append_of_mem among
  have drawn : (Act.mk offered (.offer job)).after.world.mint.used =
      offered.world.mint.used ++ [offered.world.mint.next.1] := by
    simp [Act.after, Site.perform, Queue.add_eq_of_taken taken, Mint.used_next]
  have used : Id.nil ∈ (Act.mk offered (.offer job)).after.world.mint.used := by
    simp [drawn, minted]
  rw [List.append_assoc] at joins
  exact real (joins.at.2.grows.used.subset used)

/-- A cancellation that a sweep was told of lasts. -/
theorem Freedom.Joins.cancelled_of_asked {first last : Site} {acts : List Act}
    (joins : withinSweep.Joins first acts last) {site : Site} (mem : ⟨site, .isCancelled⟩ ∈ acts)
    (cancelled : site.desk.cancelled = true) : last.desk.cancelled = true := by
  have wide : withinSweep.Within Freedom.anything :=
    ⟨fun _ _ => trivial, fun _ _ _ => trivial, fun _ => trivial, id⟩
  obtain ⟨before, behind, rfl⟩ := List.append_of_mem mem
  exact (joins.at.2.widen wide).cancelled cancelled

/-- Each request of a sweep changes nothing in the store but the row whose ending it records. From
its snapshot on, the rows that wait, by their blocks and within one block as they stand in the
table, get one ending each up to some row, and no others; where the sweep ends without an error and
is not cancelled they all get one, where it runs out of time the last one is put off, and after any
other error the row at hand is untouched. A report counts the endings by what they leave. -/
theorem sweep_accounts {profile : Profile} {first last : Site} {acts : List Act}
    {left : Program (Except CycleError SweepReport)}
    (course : (Cycle.sweep profile).run.Course acts left)
    (joins : withinSweep.Joins first acts last)
    (distinct : (last.world.store.events.map StoredEvent.id).Nodup)
    (real : Id.nil ∉ last.world.mint.used) :
    (∀ act ∈ acts, act.after.world.store =
        act.disposal?.elim act.site.world.store act.site.world.store.revise) ∧
      (((acts = [] ∨ ∃ site e, acts = [⟨site, .store .unscheduledEvents⟩] ∧
            (site.world.transact .unscheduledEvents).1 = .error e) ∧
          ∀ report, left ≠ .done (.ok report)) ∨
        ∃ listed behind ends waiting, acts = ⟨listed, .store .unscheduledEvents⟩ :: behind ∧
          Accounts listed last acts left ends waiting) := by
  have ofSweep := course.asked (Cycle.sweep_asks profile)
  have effect : ∀ act ∈ acts, act.after.world.store =
      act.disposal?.elim act.site.world.store act.site.world.store.revise := fun act mem =>
    Act.store_after (ofSweep act mem) ((joins.grows_at mem).2.distinct distinct)
  refine ⟨effect, ?_⟩
  rcases Cycle.sweep_listed course with ⟨unlisted, ends⟩ | ⟨listed, behind, rfl, granted, sweeping⟩
  · refine .inl ⟨unlisted, fun report same => ?_⟩
    rw [same] at ends
    rcases ends with pending | ⟨e, other⟩
    · exact pending
    · cases other
  obtain ⟨ends, waiting, records, closes⟩ := Cycle.sweepThrough_records sweeping
  refine .inr ⟨listed, behind, ends, waiting, rfl, ?_⟩
  obtain ⟨-, inside⟩ := joins.of_cons
  have untouched : (Act.mk listed (.store .unscheduledEvents)).after.world.store =
      listed.world.store := effect _ List.mem_cons_self
  have rows : (listed.world.store.events.map StoredEvent.id).Nodup :=
    untouched ▸ inside.grows.distinct distinct
  have snapshot := listed.world.store.lined_unscheduled
  have apart := Store.nodup_unscheduled rows
  have revised := inside.revised Freedom.within_spares
    (fun act mem => ofSweep act (List.mem_cons_of_mem _ mem)) distinct
  rw [untouched, records.recorded] at revised
  have waited := records.waited snapshot
  have sound : ∀ ending ∈ ends, ending.Sound := by
    intro ending mem
    refine ⟨(waited ending mem).2, fun marked => ?_⟩
    have noted : (ending.row.id, ending.disposition) ∈ disposals behind := by
      rw [records.recorded]
      exact List.mem_map_of_mem mem
    rw [marked] at noted
    exact (Cycle.sweepThrough_course sweeping).real apart inside real noted rfl
  constructor
  case snapshot => rw [← records.split]; exact snapshot
  case recorded => exact records.recorded
  case settled =>
    exact fun _ ending mem => Ending.later_of_revised (records.named_once apart) revised mem
  case kept =>
    exact fun _ row => StoredEvent.kept_of_revised rows (fun ending mem => (waited ending mem).1)
      revised
  case concerned => exact records.concerned
  case reported =>
    intro report done
    obtain ⟨rfl, finished⟩ := closes.ended report done
    refine ⟨?_, ?_, fun working => finished.resolve_right ?_⟩
    · rw [SweepReport.recordAll_eq sound]
      simp [SweepReport.zero]
    · rw [SweepReport.swept_recordAll]
      exact Nat.zero_add _
    · rintro ⟨site, mem, cancelled⟩
      rw [inside.cancelled_of_asked mem cancelled] at working
      cases working
  case timedOut => exact closes.timedOut
  case stopped => exact closes.stopped

/-- While the queue is down for changes of supply the closing is put off, and the report counts it. -/
theorem accounts_of_halfway :
    ∃ listed ending, ending.putOff = true ∧
      Accounts listed Sample.halfway.last Sample.halfway.acts (.done (.ok ⟨0, 0, 1⟩)) [ending] [] := by
  have ended : Sample.halfway.value = .ok ⟨0, 0, 1⟩ := by decide +kernel
  have course : (Cycle.sweep Sample.client).run.Course Sample.halfway.acts (.done (.ok ⟨0, 0, 1⟩)) :=
    ended ▸ Program.alone_course _ _
  have accounts := (sweep_accounts course (Freedom.alone_joins _ Sample.down) (by decide +kernel)
    (by decide +kernel)).2
  rcases accounts with ⟨-, unlisted⟩ | ⟨listed, behind, ends, waiting, -, accounts⟩
  · exact absurd rfl (unlisted _)
  obtain ⟨counted, swept, complete⟩ := accounts.reported _ rfl
  obtain rfl := complete (by decide +kernel)
  obtain ⟨ending, rfl⟩ := List.length_eq_one_iff.1 swept.symm
  refine ⟨listed, ending, ?_, accounts⟩
  have one : 1 = [ending].countP Ending.putOff := congrArg SweepReport.failed counted
  simpa using one

end ChannelWatch
