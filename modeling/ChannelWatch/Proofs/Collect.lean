import ChannelWatch.Log.Draft
import ChannelWatch.Proofs.Growth
import ChannelWatch.Proofs.Watched

/-!
# What collecting stores

Collect cycles one after the other, finished or not, while the chain grows and others work
on the same tables. What the table of events holds in the end is said without queries: the
watched logs of the windows that were committed, each once. The main statement is
`collected_iff`.
-/

namespace ChannelWatch
set_option autoImplicit false

namespace Store

/-- The identities of the logs in a table of events. -/
def identities (rows : List StoredEvent) : List Identity := rows.map fun row => row.log.identity

theorem mem_identities_takeIn {rows : List StoredEvent × Mint} {log : Log} {identity : Identity} :
    identity ∈ identities (takeIn rows log).1 ↔
      identity ∈ identities rows.1 ∨ log.identity = identity := by
  rcases takeIn_cases rows log with ⟨same, row, mem, known⟩ | ⟨more, -⟩
  · rw [same]
    refine ⟨.inl, fun either => either.elim id ?_⟩
    rintro rfl
    exact List.mem_map.2 ⟨row, mem, known⟩
  · rw [more]
    simp [identities, eq_comm]

theorem nodup_identities_takeIn {rows : List StoredEvent × Mint} (log : Log)
    (once : (identities rows.1).Nodup) : (identities (takeIn rows log).1).Nodup := by
  rcases takeIn_cases rows log with ⟨same, -⟩ | ⟨more, unknown⟩
  · rwa [same]
  · rw [more, identities, List.map_append]
    refine List.nodup_append.2 ⟨once, by simp, ?_⟩
    intro known mem other single
    obtain ⟨row, held, rfl⟩ := List.mem_map.1 mem
    rw [List.map_singleton, List.mem_singleton] at single
    rw [single]
    exact unknown row held

theorem mem_identities_foldl {rows : List StoredEvent × Mint} {logs : List Log}
    {identity : Identity} :
    identity ∈ identities (logs.foldl takeIn rows).1 ↔
      identity ∈ identities rows.1 ∨ ∃ log ∈ logs, log.identity = identity := by
  induction logs generalizing rows with
  | nil => simp
  | cons log logs ih =>
    rw [List.foldl_cons, ih, mem_identities_takeIn, or_assoc]
    simp

theorem nodup_identities_foldl (logs : List Log) (rows : List StoredEvent × Mint)
    (once : (identities rows.1).Nodup) : (identities (logs.foldl takeIn rows).1).Nodup :=
  foldl_takeIn_induct (P := fun rows => (identities rows.1).Nodup)
    (fun _ log once => nodup_identities_takeIn log once) logs rows once

end Store

namespace World

/-- The identities of the stored events. -/
def identities (world : World) : List Identity := Store.identities world.store.events

theorem sightings_of_makes {before after : World} {request : Request}
    (makes : request.Makes before after) (quiet : ¬ request.commits) :
    after.store.events.map StoredEvent.sighting = before.store.events.map StoredEvent.sighting := by
  cases makes with
  | committed | advanced => exact absurd trivial quiet
  | disposed event disposition found =>
    exact Store.map_disposeRow _ (fun row => row.sighting_dispose disposition) found
  | maintained u => cases u <;> rfl
  | _ => rfl

theorem identities_of_sightings {before after : World}
    (sightings : after.store.events.map StoredEvent.sighting =
      before.store.events.map StoredEvent.sighting) : after.identities = before.identities := by
  have same := congrArg (List.map fun sighting => sighting.2.identity) sightings
  rwa [List.map_map, List.map_map] at same

theorem identities_of_makes {before after : World} {request : Request}
    (makes : request.Makes before after) (quiet : ¬ request.commits) :
    after.identities = before.identities :=
  identities_of_sightings (sightings_of_makes makes quiet)

theorem carries_identities {freedom : Freedom}
    (quiet : ∀ request, freedom.requests request → ¬ request.commits) :
    freedom.Carries fun before after => after.identities = before.identities where
  refl _ := rfl
  trans start rest := rest.trans start
  request site request may := identities_of_makes (site.makes request) (quiet request may)
  chain _ _ _ := rfl
  queue _ _ _ _ := rfl

end World

/-- A commit is carried out as a whole, or refused without a trace; it is a conflict only if the
checkpoint is no number or would move back. -/
theorem World.transact_commit_cases (world : World) (logs : List Log) (last : BlockNumber) :
    (∃ stored checkpoint,
        world.transact (.commitWindow logs last) = (.ok stored, world.commit logs last) ∧
        world.store.checkpoint = .ok checkpoint ∧ checkpoint ≤ last) ∨
      ∃ e, world.transact (.commitWindow logs last) = (.error e, world) ∧
        ∀ checkpoint, world.store.checkpoint = .ok checkpoint → checkpoint ≤ last →
          ∀ text, e ≠ .conflict text := by
  rw [World.transact_eq]
  cases on : world.store.available with
  | false =>
    refine .inr ⟨.unavailable Store.offText, by simp only [Store.transact, on]; rfl, ?_⟩
    rintro checkpoint - - text ⟨⟩
  | true =>
    simp only [Store.transact, on, if_true, Store.grant, Store.commitWindow]
    cases read : world.store.checkpoint with
    | error e => exact .inr ⟨e, rfl, fun checkpoint ok => by cases ok⟩
    | ok checkpoint =>
      by_cases behind : last < checkpoint
      · simp only [if_pos behind]
        refine .inr ⟨_, rfl, fun read ok ahead => ?_⟩
        cases ok
        exact absurd behind (UInt64.not_lt.2 ahead)
      · simp only [if_neg behind]
        refine .inl ⟨(world.commit logs last).store.events.length - world.store.events.length,
          checkpoint, ?_, rfl, UInt64.not_lt.1 behind⟩
        simp only [World.commit, on]

theorem Site.advance_cases (site : Site) (logs : List Log) (window : Window) :
    (∃ stored checkpoint,
        site.advance logs window = (.ok stored,
          ⟨site.world.commit logs window.last,
            { site.desk with cached := some window.last }⟩) ∧
        site.world.store.checkpoint = .ok checkpoint ∧ checkpoint ≤ window.last) ∨
      ∃ e, site.advance logs window = (.error e, site) ∧
        ∀ checkpoint, site.world.store.checkpoint = .ok checkpoint → checkpoint ≤ window.last →
          ∀ text, e ≠ .conflict text := by
  unfold Site.advance
  rcases site.world.transact_commit_cases logs window.last with
    ⟨stored, checkpoint, done, read⟩ | ⟨e, refused, why⟩
  · exact .inl ⟨stored, checkpoint, by rw [done], read⟩
  · exact .inr ⟨e, by rw [refused], why⟩

/-- But for the count of closings, a request changes nothing at a desk except what it remembers as
the checkpoint. -/
theorem Site.desk_perform (site : Site) (request : Request) :
    (∃ rateAfter, request = .countClosing rateAfter) ∨
      ∃ cached, (site.perform request).2.desk = { site.desk with cached } := by
  cases request with
  | countClosing rateAfter => exact .inl ⟨rateAfter, rfl⟩
  | checkpoint =>
    show _ ∨ ∃ cached, site.checkpoint.2.desk = _
    rcases site.checkpoint_cases with same | ⟨block, -, remembered⟩
    · exact .inr ⟨_, by rw [same]⟩
    · exact .inr ⟨_, by rw [remembered]⟩
  | advance logs window =>
    show _ ∨ ∃ cached, (site.advance logs window).2.desk = _
    rcases site.advance_cases logs window with ⟨_, _, done, -⟩ | ⟨e, refused, -⟩
    · exact .inr ⟨_, by rw [done]⟩
    · exact .inr ⟨_, by rw [refused]⟩
  | _ => exact .inr ⟨_, rfl⟩

/-- No request cancels a watch. -/
theorem Site.perform_cancelled (site : Site) (request : Request) :
    (site.perform request).2.desk.cancelled = site.desk.cancelled := by
  rcases site.desk_perform request with ⟨rateAfter, rfl⟩ | ⟨cached, same⟩
  · rfl
  · rw [same]

namespace Cycle

variable {acts : List Act} {locals : List Address} {query : Query} {profile : Profile}

/-- The logs of one query are those on the chain that it selects and that are kept. -/
theorem fetch_gives {found : List Log} (given : (fetch locals query).Gives acts found)
    {logs : List Log} (same : ∀ act ∈ acts, act.site.world.chain.logs = logs) :
    found = (logs.filter query.selects).filter (keeps query locals) := by
  unfold fetch at given
  split at given
  · rename_i nothing
    have none : logs.filter query.selects = [] :=
      List.filter_eq_nil_iff.2 fun log _ => by simp [Query.selects_of_matchesNothing nothing log]
    rw [none]
    exact (gives_pure_iff.1 given).2
  · obtain ⟨_, first, rest, rfl, -, given⟩ := gives_bind_iff.1 given
    obtain ⟨answer, second, last, rfl, asked, given⟩ := gives_bind_iff.1 given
    obtain ⟨rfl, rfl⟩ := gives_pure_iff.1 given
    obtain ⟨site, rfl, answered⟩ := gives_request_iff.1 (gives_demand_iff.1 asked)
    have answered : site.world.chain.answer query = .ok answer := answered
    have content : site.world.chain.logs = logs := same ⟨site, .logs query⟩ (by simp)
    rw [Chain.answer, content] at answered
    split at answered
    · cases answered
    · rw [Except.ok.inj answered]

theorem fetchAll_gives {queries : List Query} {found : List Log}
    (given : (fetchAll locals queries).Gives acts found) {logs : List Log}
    (same : ∀ act ∈ acts, act.site.world.chain.logs = logs) :
    found = queries.flatMap fun query =>
      (logs.filter query.selects).filter (keeps query locals) := by
  induction queries generalizing acts found with
  | nil => exact (gives_pure_iff.1 given).2
  | cons query queries ih =>
    obtain ⟨first, before, rest, rfl, fetched, more⟩ := gives_bind_iff.1 given
    obtain ⟨others, behind, last, rfl, later, done⟩ := gives_bind_iff.1 more
    obtain ⟨rfl, rfl⟩ := gives_pure_iff.1 done
    rw [fetch_gives fetched fun act mem => same act (by simp [mem]),
      ih later fun act mem => same act (by simp [mem]), List.flatMap_cons]

end Cycle

/-- The request is one of a collect cycle before its commit. -/
def Request.gathers : Request → Prop
  | .store (.getSetting _) | .checkpoint | .latestBlock | .sendQuery _ | .logs _ => True
  | _ => False

theorem Request.not_commits_of_gathers {request : Request} (gathers : request.gathers) :
    ¬ request.commits := by
  cases request with
  | store t => cases t <;> first | exact id | cases gathers
  | advance => cases gathers
  | _ => exact id

/-- The request is one of a collect cycle. -/
def Request.collects : Request → Prop
  | .store .addressesInUse | .advance _ _ => True
  | request => request.gathers

theorem Request.collects_of_gathers {request : Request} (gathers : request.gathers) :
    request.collects := by
  cases request with
  | store t => cases t <;> first | exact gathers | trivial
  | _ => first | exact gathers | trivial

namespace Cycle

variable {acts : List Act} {locals : List Address} {profile : Profile}

theorem scanLimits_asks (guard : Guard) : (scanLimits guard).Asks Request.gathers := by
  have setting : ∀ key interpret, (setting guard key interpret).Asks Request.gathers := by
    intro key interpret
    apply asks_bind (asks_transact _ trivial)
    intro text
    cases interpret key text <;> trivial
  exact asks_bind (setting _ _) fun _ => asks_bind (setting _ _) fun _ =>
    asks_bind (setting _ _) fun _ => asks_pure _

/-- Fetching logs only sends queries and waits for their logs. -/
theorem fetchAll_asks {kind : Request → Prop} (sends : ∀ query, kind (.sendQuery query))
    (fetches : ∀ query, kind (.logs query)) (locals : List Address) (queries : List Query) :
    (fetchAll locals queries).Asks kind := by
  induction queries with
  | nil => exact asks_pure _
  | cons query queries ih =>
    refine asks_bind ?_ fun _ => asks_bind ih fun _ => asks_pure _
    unfold fetch
    split
    · exact asks_pure _
    · exact asks_bind (asks_request _ (sends query)) fun _ =>
        asks_bind (asks_demand _ (asks_request _ (fetches query))) fun _ => asks_pure _

/-- A scan that finds blocks to scan reads the addresses in use once, and hands on the logs that
are selected and kept for them. -/
theorem scan_gives {window : Window} {found : List Log}
    (given : (scan profile).Gives acts (window, found)) (ahead : window.isEmpty = false) :
    ∃ before site behind, acts = before ++ ⟨site, .store .addressesInUse⟩ :: behind ∧
      (∀ act ∈ before ++ behind, act.request.gathers) ∧
      ∀ logs, (∀ act ∈ acts, act.site.world.chain.logs = logs) →
        found = (watchQueries profile.role profile.contracts site.world.store.addressesInUse
          window).flatMap fun query =>
            (logs.filter query.selects).filter (keeps query site.world.store.addressesInUse) := by
  obtain ⟨limits, first, _, rfl, limited, given₁⟩ := gives_bind_iff.1 given
  obtain ⟨checkpoint, second, _, rfl, read, given₂⟩ := gives_bind_iff.1 given₁
  obtain ⟨locals, third, _, rfl, listed, given₃⟩ := gives_bind_iff.1 given₂
  obtain ⟨head, fourth, rest, rfl, latest, given₄⟩ := gives_bind_iff.1 given₃
  obtain ⟨site, rfl, granted⟩ := gives_transact_iff.1 listed
  have locals_eq : locals = site.world.store.addressesInUse := by
    rw [World.transact_eq] at granted
    cases on : site.world.store.available with
    | false => simp [Store.transact, on] at granted
    | true =>
      simp only [Store.transact, on, if_true] at granted
      exact (Except.ok.inj granted).symm
  have limitsKind := limited.asked (scanLimits_asks _)
  have readKind : ∀ act ∈ second, act.request.gathers :=
    read.asked (asks_demand _ (asks_request _ trivial))
  have latestKind : ∀ act ∈ fourth, act.request.gathers :=
    latest.asked (asks_demand _ (asks_request _ trivial))
  simp only at given₄
  split at given₄
  · obtain ⟨-, same⟩ := gives_pure_iff.1 given₄
    obtain ⟨rfl, -⟩ := Prod.mk.inj same
    rename_i empty
    rw [ahead] at empty
    cases empty
  · obtain ⟨logs, fifth, last, rfl, fetched, done⟩ := gives_bind_iff.1 given₄
    obtain ⟨rfl, same⟩ := gives_pure_iff.1 done
    obtain ⟨rfl, rfl⟩ := Prod.mk.inj same
    have fetchedKind : ∀ act ∈ fifth, act.request.gathers :=
      fetched.asked (fetchAll_asks (fun _ => trivial) (fun _ => trivial) _ _)
    refine ⟨first ++ second, site, fourth ++ fifth, by simp, ?_, fun logs same => ?_⟩
    · intro act mem
      simp only [List.mem_append] at mem
      rcases mem with (mem | mem) | (mem | mem)
      · exact limitsKind act mem
      · exact readKind act mem
      · exact latestKind act mem
      · exact fetchedKind act mem
    · rw [fetchAll_gives fetched fun act mem => same act (by simp [mem]), locals_eq]

theorem scan_asks (profile : Profile) :
    (scan profile).Asks fun request => request.gathers ∨ request = .store .addressesInUse := by
  apply asks_bind ((scanLimits_asks _).mono fun _ => .inl)
  intro limits
  apply asks_bind (asks_demand _ (asks_request _ (.inl trivial)))
  intro checkpoint
  apply asks_bind (asks_transact _ (.inr rfl))
  intro locals
  apply asks_bind (asks_demand _ (asks_request _ (.inl trivial)))
  intro head
  simp only
  split
  · exact asks_pure _
  · exact asks_bind (fetchAll_asks (fun _ => .inl trivial) (fun _ => .inl trivial) _ _)
      fun _ => asks_pure _

theorem scan_quiet {left : Program (Except CycleError (Window × List Log))}
    (course : (scan profile).run.Course acts left) : ∀ act ∈ acts, ¬ act.request.commits := by
  intro act mem
  rcases course.asked (scan_asks profile) act mem with gathers | lists
  · exact Request.not_commits_of_gathers gathers
  · rw [lists]
    exact id

/-- A collect cycle commits once it has scanned, or not at all. -/
theorem collect_course {left : Program (Except CycleError Collected)}
    (course : (collect profile).run.Course acts left) :
    (∀ act ∈ acts, ¬ act.request.commits) ∨ ∃ before site found window,
      acts = before ++ [⟨site, .advance found window⟩] ∧
      (scan profile).Gives before (window, found) ∧ window.isEmpty = false := by
  rcases course_bind course with ⟨first, run⟩ | ⟨scanned, before, behind, rfl, given, rest⟩
  · exact .inl (scan_quiet run)
  · obtain ⟨window, found⟩ := scanned
    have silent := scan_quiet given
    simp only at rest
    split at rest
    · rw [(Program.course_done_iff.1 rest).1, List.append_nil]
      exact .inl silent
    · rename_i ahead
      rw [Bool.not_eq_true] at ahead
      rcases course_bind rest with ⟨first, run⟩ | ⟨stored, commit, last, rfl, done, tail⟩
      · obtain ⟨_, asked⟩ := course_demand run
        rcases course_request asked with rfl | ⟨site, rfl⟩
        · rw [List.append_nil]
          exact .inl silent
        · exact .inr ⟨before, site, found, window, rfl, given, ahead⟩
      · obtain ⟨site, rfl, -⟩ := gives_request_iff.1 (gives_demand_iff.1 done)
        rw [(Program.course_done_iff.1 tail).1]
        exact .inr ⟨before, site, found, window, rfl, given, ahead⟩

/-- A collect cycle gathers, reads the addresses in use and commits. -/
theorem collect_asks (profile : Profile) : (collect profile).Asks Request.collects := by
  have scanned : (scan profile).Asks Request.collects := by
    apply (scan_asks profile).mono
    rintro request (gathers | rfl)
    · exact Request.collects_of_gathers gathers
    · trivial
  apply asks_bind scanned
  intro found
  simp only
  split
  · exact asks_pure _
  · exact asks_bind (asks_demand _ (asks_request _ trivial)) fun _ => asks_pure _

end Cycle

/-- Around collect cycles anything may happen but that somebody else stores logs. -/
def betweenCollects : Freedom where
  requests request := ¬ request.commits
  chains _ _ := True
  orders := True
  rebuilding := True

/-- While a collect cycle works, the logs on the chain stay as well. -/
def withinCollect : Freedom where
  requests request := ¬ request.commits
  chains before after := after.logs = before.logs
  orders := True
  rebuilding := False

/-- Collect cycles one after the other, of watches that may be built again in between. -/
abbrev Collects : Site → List Round → Site → Prop :=
  Series Cycle.collect betweenCollects withinCollect

/-- The round stored the window, for these local addresses and with these logs on the chain. -/
structure Round.Commits (round : Round) (window : Window) (locals : List Address)
    (logs : List Log) : Prop where
  stored : ∃ site found stored, ⟨site, .advance found window⟩ ∈ round.acts ∧
    (site.advance found window).1 = .ok stored ∧ site.world.chain.logs = logs
  locals : ∃ site, ⟨site, .store .addressesInUse⟩ ∈ round.acts ∧
    site.world.store.addressesInUse = locals

/-- The round stored a log with this identity: one of its window that concerns the watch and was
not taken back. -/
def Round.Finds (round : Round) (identity : Identity) : Prop :=
  ∃ window locals logs, round.Commits window locals logs ∧ ∃ log ∈ logs,
    log.identity = identity ∧ window.contains log.block = true ∧ log.removed = false ∧
      Watched round.profile.role round.profile.contracts locals log

theorem World.chain_logs_of_makes {before after : World} {request : Request}
    (makes : request.Makes before after) : after.chain.logs = before.chain.logs := by
  cases makes <;> rfl

theorem carries_chain_logs :
    withinCollect.Carries fun before after => after.chain.logs = before.chain.logs where
  refl _ := rfl
  trans start rest := rest.trans start
  request site request _ := World.chain_logs_of_makes (site.makes request)
  chain _ _ same := same
  queue _ _ _ _ := rfl

/-- A round that scanned and committed stored one window, with the addresses that it had read. -/
theorem commits_iff {profile : Profile} {before first behind : List Act} {site listed : Site}
    {found : List Log} {window : Window} (quiet : ∀ act ∈ before, ¬ act.request.commits)
    (parts : before = first ++ ⟨listed, .store .addressesInUse⟩ :: behind)
    (gathers : ∀ act ∈ first ++ behind, act.request.gathers) {other : Window}
    {locals : List Address} {logs : List Log} :
    (Round.mk profile (before ++ [⟨site, .advance found window⟩])).Commits other locals logs ↔
      (∃ stored, (site.advance found window).1 = .ok stored) ∧ other = window ∧
        locals = listed.world.store.addressesInUse ∧ logs = site.world.chain.logs := by
  constructor
  · rintro ⟨⟨site', found', stored, mem, ok, content⟩, lister, mem', read⟩
    have committed : Act.mk site' (.advance found' other) = ⟨site, .advance found window⟩ := by
      rcases List.mem_append.1 mem with mem | mem
      · exact absurd trivial (quiet _ mem)
      · exact List.mem_singleton.1 mem
    cases committed
    have lists : Act.mk lister (.store .addressesInUse) = ⟨listed, .store .addressesInUse⟩ := by
      rcases List.mem_append.1 mem' with mem' | mem'
      · rw [parts, List.mem_append, List.mem_cons] at mem'
        rcases mem' with early | here | late
        · exact absurd (gathers _ (List.mem_append_left _ early)) id
        · exact here
        · exact absurd (gathers _ (List.mem_append_right _ late)) id
      · cases List.mem_singleton.1 mem'
    cases lists
    exact ⟨⟨stored, ok⟩, rfl, read.symm, content.symm⟩
  · rintro ⟨⟨stored, ok⟩, rfl, rfl, rfl⟩
    exact ⟨⟨site, found, stored, by simp, ok, rfl⟩, listed, by simp [parts], rfl⟩

/-- What a round does to the stored identities. -/
theorem identities_of_collect {profile : Profile} {acts : List Act}
    {left : Program (Except CycleError Collected)} {first last : Site}
    (course : (Cycle.collect profile).run.Course acts left)
    (joins : withinCollect.Joins first acts last) :
    (first.world.identities.Nodup → last.world.identities.Nodup) ∧ ∀ identity,
      identity ∈ last.world.identities ↔
        identity ∈ first.world.identities ∨ (Round.mk profile acts).Finds identity := by
  have carries : withinCollect.Carries fun before after => after.identities = before.identities :=
    World.carries_identities fun _ may => may
  rcases Cycle.collect_course course with quiet | ⟨before, site, found, window, rfl, given, ahead⟩
  · have same := carries.joins joins fun act mem =>
      World.identities_of_makes (act.site.makes act.request) (quiet act mem)
    rw [same]
    refine ⟨id, fun identity => (or_iff_left ?_).symm⟩
    rintro ⟨window, locals, logs, ⟨⟨site, found, stored, mem, -⟩, -⟩, -⟩
    exact quiet _ mem trivial
  · obtain ⟨start, rest⟩ := joins.at
    have quiet := Cycle.scan_quiet given
    have unchanged : site.world.identities = first.world.identities :=
      carries.joins start fun act mem =>
        World.identities_of_makes (act.site.makes act.request) (quiet act mem)
    have kept : last.world.identities = (site.advance found window).2.world.identities :=
      carries.joins rest (by simp)
    obtain ⟨early, listed, late, parts, gathers, selected⟩ := Cycle.scan_gives given ahead
    rw [kept, ← unchanged]
    rcases site.advance_cases found window with ⟨stored, -, done, -⟩ | ⟨e, refused, -⟩
    · have ok : (site.advance found window).1 = .ok stored := by rw [done]
      have world : (site.advance found window).2.world = site.world.commit found window.last := by
        rw [done]
      have along : ∀ act ∈ before, act.after.world.chain.logs = act.site.world.chain.logs :=
        fun act _ => World.chain_logs_of_makes (act.site.makes act.request)
      have content : ∀ act ∈ before, act.site.world.chain.logs = site.world.chain.logs :=
        fun act mem => (carries_chain_logs.reaches start along act mem).trans
          (carries_chain_logs.joins start along).symm
      have found_iff : ∀ log, log ∈ found ↔ log ∈ site.world.chain.logs ∧
          window.contains log.block = true ∧ log.removed = false ∧
          Watched profile.role profile.contracts listed.world.store.addressesInUse log := by
        intro log
        rw [selected _ content, ← watched_iff]
        simp only [List.mem_flatMap, List.mem_filter]
        constructor
        · rintro ⟨query, mem, ⟨present, selects⟩, keeps⟩
          exact ⟨present, query, mem, selects, keeps⟩
        · rintro ⟨present, query, mem, selects, keeps⟩
          exact ⟨query, mem, ⟨present, selects⟩, keeps⟩
      rw [world]
      refine ⟨Store.nodup_identities_foldl found (site.world.store.events, site.world.mint),
        fun identity => ?_⟩
      refine Store.mem_identities_foldl.trans (or_congr_right ?_)
      constructor
      · rintro ⟨log, mem, same⟩
        obtain ⟨present, inside⟩ := (found_iff log).1 mem
        exact ⟨window, _, _, (commits_iff quiet parts gathers).2 ⟨⟨stored, ok⟩, rfl, rfl, rfl⟩,
          log, present, same, inside⟩
      · rintro ⟨other, locals, logs, commits, log, present, same, inside⟩
        obtain ⟨-, rfl, rfl, rfl⟩ := (commits_iff quiet parts gathers).1 commits
        exact ⟨log, (found_iff log).2 ⟨present, inside⟩, same⟩
    · have world : (site.advance found window).2.world = site.world := by rw [refused]
      rw [world]
      refine ⟨id, fun identity => (or_iff_left ?_).symm⟩
      rintro ⟨other, locals, logs, commits, -⟩
      obtain ⟨⟨stored, ok⟩, -⟩ := (commits_iff quiet parts gathers).1 commits
      rw [refused] at ok
      cases ok

/-- What collecting stores: each log that concerns the watch in a window that was committed, once
and nothing else. -/
theorem collected_iff {start last : Site} {rounds : List Round}
    (collects : Collects start rounds last) (unused : start.world.store.events = []) :
    last.world.identities.Nodup ∧ ∀ identity,
      identity ∈ last.world.identities ↔ ∃ round ∈ rounds, round.Finds identity := by
  have grown : (start.world.identities.Nodup → last.world.identities.Nodup) ∧ ∀ identity,
      identity ∈ last.world.identities ↔
        identity ∈ start.world.identities ∨ ∃ round ∈ rounds, round.Finds identity := by
    clear unused
    induction collects with
    | rest site => exact ⟨id, by simp⟩
    | stir stir _ ih =>
      have carries : betweenCollects.Carries fun before after =>
          after.identities = before.identities := World.carries_identities fun _ may => may
      rwa [carries.stir stir] at ih
    | round profile course joins _ ih =>
      obtain ⟨once, here⟩ := identities_of_collect course joins
      refine ⟨ih.1 ∘ once, fun identity => ?_⟩
      rw [ih.2, here, or_assoc]
      simp
  have empty : start.world.identities = [] := by
    rw [World.identities, unused]
    rfl
  rw [empty] at grown
  exact ⟨grown.1 List.nodup_nil, fun identity => by simpa using grown.2 identity⟩

/-! A client that has one offering on file and one cooperative closing to collect. -/

namespace Sample

def contracts : Contracts := ⟨.ofNat 20 0x5e1, .ofNat 20 0x70c1⟩

def client : Profile := ⟨.client, contracts, 10⟩

def offering : Hash := .ofNat 32 0xf0f

def closing : Log :=
  Draft.emit ⟨contracts.service, 10, some (.ofNat 32 7), false⟩ .cooperativeClose
    [(Address.toTopic (.ofNat 20 0xa9e1)), (Address.toTopic (.ofNat 20 0xc1e1)), offering]
    [Draft.word 5, Draft.word 1]

/-- The chain ends in block 30, and every block counts at once. -/
def ready (logs : List Log) (offerings : List (Hash × Id)) : Site where
  world :=
    { store := { Store.empty with
        settings := [(Settings.minConfirmationsKey, "0"), (Settings.freshBlocksKey, "0")]
        offerings }
      chain := { Chain.ending 30 with logs }
      queue := .empty
      mint := ⟨Id.counted, offerings.length⟩ }
  desk := .fresh

def closed : Site := ready [closing] [(offering, Id.counted 0)]

end Sample

/-- The closing is on file after one cycle; its block lies in the window and it concerns every
client. -/
theorem collected_closing :
    ∃ round ∈ [Round.mk Sample.client ((Cycle.collect Sample.client).run.alone Sample.closed).acts],
      round.Finds Sample.closing.identity :=
  ((collected_iff (.alone Sample.client (.rest _)) rfl).2 _).1 (by decide +kernel)

end ChannelWatch
