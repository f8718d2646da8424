import ChannelWatch.Proofs.Checkpoint
import ChannelWatch.Proofs.Straight

/-!
# What a failed collect cycle leaves behind

All that a collect cycle does before its commit only reads, and a commit is carried out as a
whole or refused without a trace. So a cycle that does not end with a commit leaves the events,
the settings and the checkpoint that its watch reports untouched (`Site.Untouched`), wherever
it was cut off. The main statement is `collect_untouched`.
-/

namespace ChannelWatch
set_option autoImplicit false

/-- The request may change events or settings. -/
def Request.writes : Request → Prop
  | .advance _ _ | .store (.commitWindow _ _) | .store (.setSetting _ _)
  | .store (.disposeEvent _ _) => True
  | _ => False

/-- The request asks the chain for logs. -/
def Request.queries : Request → Prop
  | .sendQuery _ | .logs _ => True
  | _ => False

namespace Site

/-- The checkpoint that the watch reports once the store can be reached. -/
def reported (site : Site) : Except CycleError BlockNumber :=
  (checkpoint { site with
    world := { site.world with store := { site.world.store with available := true } } }).1

/-- What is remembered is reported, and else what the settings say. -/
theorem reported_eq (site : Site) :
    site.reported = match site.desk.cached with
      | some block => .ok block
      | none => Settings.orZero Settings.checkpointKey
          (site.world.store.setting? Settings.checkpointKey) := by
  unfold reported checkpoint
  cases site.desk.cached with
  | some block => rfl
  | none =>
    rw [World.transact_eq]
    simp only [Store.transact, if_true, Store.grant, Store.setting?]
    generalize Settings.orZero Settings.checkpointKey
      (site.world.store.settings.lookup Settings.checkpointKey) = told
    cases told <;> rfl

/-- A checkpoint that is told now is the one that is reported. -/
theorem reported_of_told {site : Site} {block : BlockNumber}
    (told : site.checkpoint.1 = .ok block) : site.reported = .ok block := by
  cases on : site.world.store.available with
  | true =>
    have same : { site.world with store := { site.world.store with available := true } } =
        site.world := by rw [← on]
    rw [reported, same]
    exact told
  | false =>
    rw [reported_eq]
    unfold checkpoint at told
    cases cached : site.desk.cached with
    | some known =>
      rw [cached] at told
      exact told
    | none =>
      rw [cached, World.transact_eq] at told
      simp [Store.transact, on] at told

/-- The stored events and the settings are the same at two sites, and the watch reports the same
checkpoint. -/
structure Untouched (before after : Site) : Prop where
  events : after.world.store.events = before.world.store.events
  settings : after.world.store.settings = before.world.store.settings
  reported : after.reported = before.reported

theorem Untouched.refl (site : Site) : site.Untouched site := ⟨rfl, rfl, rfl⟩

theorem Untouched.trans {first middle last : Site} (start : first.Untouched middle)
    (rest : middle.Untouched last) : first.Untouched last :=
  ⟨rest.events.trans start.events, rest.settings.trans start.settings,
    rest.reported.trans start.reported⟩

theorem Untouched.of_same {before after : Site}
    (events : after.world.store.events = before.world.store.events)
    (settings : after.world.store.settings = before.world.store.settings)
    (cached : after.desk.cached = before.desk.cached) : before.Untouched after :=
  ⟨events, settings, by rw [reported_eq, reported_eq, cached, Store.setting?, settings]; rfl⟩

end Site

namespace World

theorem events_of_makes {before after : World} {request : Request}
    (makes : request.Makes before after) (quiet : ¬ request.writes) :
    after.store.events = before.store.events := by
  cases makes with
  | committed | advanced | disposed => exact absurd trivial quiet
  | maintained u => cases u <;> rfl
  | _ => rfl

theorem settings_of_makes {before after : World} {request : Request}
    (makes : request.Makes before after) (quiet : ¬ request.writes) :
    after.store.settings = before.store.settings := by
  cases makes with
  | setting | committed | advanced => exact absurd trivial quiet
  | maintained u => cases u <;> rfl
  | _ => rfl

end World

namespace Site

/-- To remember the checkpoint that was told changes nothing about what is reported. -/
theorem untouched_perform (site : Site) {request : Request} (quiet : ¬ request.writes) :
    site.Untouched (site.perform request).2 := by
  have events := World.events_of_makes (site.makes request) quiet
  have settings := World.settings_of_makes (site.makes request) quiet
  by_cases asks : request = .checkpoint
  · subst asks
    refine ⟨events, settings, ?_⟩
    show site.checkpoint.2.reported = site.reported
    rcases site.checkpoint_cases with same | ⟨block, told, remembered⟩
    · rw [same]
    · rw [remembered, reported_of_told told, reported_eq]
  · have still : ¬ request.commits := by
      intro commits
      cases request with
      | store t => cases t <;> first | exact quiet trivial | cases commits
      | advance => exact quiet trivial
      | _ => cases commits
    exact .of_same events settings (site.cached_perform asks still)

/-- A commit that is refused leaves the site as it was. -/
theorem advance_of_refused {site : Site} {logs : List Log} {window : Window} {e : StoreError}
    (refused : (site.advance logs window).1 = .error e) : (site.advance logs window).2 = site := by
  rcases site.advance_cases logs window with ⟨stored, -, done, -⟩ | ⟨_, same, -⟩
  · rw [done] at refused
    cases refused
  · rw [same]

end Site

/-- Nothing around a cycle writes, and its watch is not built again. -/
structure Freedom.Idle (freedom : Freedom) : Prop where
  requests : ∀ request, freedom.requests request → ¬ request.writes
  rebuilding : ¬ freedom.rebuilding

namespace Site.Untouched

variable {freedom : Freedom}

theorem stir (idle : freedom.Idle) {site next : Site} (stir : freedom.Stir site next) :
    site.Untouched next := by
  cases stir with
  | beside may => exact site.untouched_perform (idle.requests _ may)
  | @elsewhere desk request may =>
    have makes := Site.makes ⟨site.world, desk⟩ request
    exact .of_same (World.events_of_makes makes (idle.requests _ may))
      (World.settings_of_makes makes (idle.requests _ may)) rfl
  | chain | queue | cancelled => exact .of_same rfl rfl rfl
  | rebuilt may => exact absurd may idle.rebuilding

/-- Where neither the acts nor anything around them touches anything, it stays. -/
theorem joins (idle : freedom.Idle) {first last : Site} {acts : List Act}
    (joins : freedom.Joins first acts last)
    (along : ∀ act ∈ acts, act.site.Untouched act.after) : first.Untouched last := by
  induction joins with
  | rest site => exact .refl site
  | stir stir _ ih => exact (Untouched.stir idle stir).trans (ih along)
  | act act _ ih =>
    exact (along act (by simp)).trans (ih fun later mem => along later (by simp [mem]))

end Site.Untouched

namespace Cycle

variable {profile : Profile} {acts : List Act}

theorem scan_spares {left : Program (Except CycleError (Window × List Log))}
    (course : (scan profile).run.Course acts left) : ∀ act ∈ acts, ¬ act.request.writes := by
  intro act mem
  rcases course.asked (scan_asks profile) act mem with gathers | lists
  · cases asked : act.request with
    | store t =>
      rw [asked] at gathers
      cases t <;> first | exact id | cases gathers
    | advance =>
      rw [asked] at gathers
      cases gathers
    | _ => exact id
  · rw [lists]
    exact id

/-- A collect cycle writes nothing, or its last act is its commit, and it ends well if that does. -/
theorem collect_ends {left : Program (Except CycleError Collected)}
    (course : (collect profile).run.Course acts left) :
    (∀ act ∈ acts, ¬ act.request.writes) ∨ ∃ before site found window,
      acts = before ++ [⟨site, .advance found window⟩] ∧
      (∀ act ∈ before, ¬ act.request.writes) ∧
      ∀ stored, (site.advance found window).1 = .ok stored →
        left = .done (.ok (.committed window found.length stored)) := by
  rcases course_bind course with ⟨first, run⟩ | ⟨⟨window, found⟩, before, behind, rfl, given, rest⟩
  · exact .inl (scan_spares run)
  have silent := scan_spares given
  simp only at rest
  split at rest
  · rw [(Program.course_done_iff.1 rest).1, List.append_nil]
    exact .inl silent
  · cases rest with
    | rest =>
      rw [List.append_nil]
      exact .inl silent
    | @reply _ _ _ behind _ site tail =>
      have answered : (site.perform (.advance found window)).1 =
          (site.advance found window).1 := rfl
      rw [answered] at tail
      refine .inr ⟨before, site, found, window, ?_, silent, fun stored ok => ?_⟩
      · cases reply : (site.advance found window).1 with
        | ok stored =>
          rw [reply] at tail
          rw [(Program.course_done_iff.1 tail).1]
        | error e =>
          rw [reply] at tail
          rw [(Program.course_done_iff.1 tail).1]
      · rw [ok] at tail
        exact (Program.course_done_iff.1 tail).2
    | expire timed => cases timed
    | cancel cancellable => cases cancellable

/-- What the acts of a survey and the last block come to. -/
inductive Surveyed (limits : ScanLimits) (checkpoint head : BlockNumber) : List Act → Prop where
  | seen {own : List Act} {locals : List Address} {looker : Site}
      (read : survey.Gives own (limits, checkpoint, locals))
      (latest : looker.world.chain.latestBlock = .ok head) :
      Surveyed limits checkpoint head (own ++ [⟨looker, .latestBlock⟩])

/-- A collect cycle that finds no block to scan is done with its survey. -/
theorem collect_nothing (profile : Profile) {limits : ScanLimits} {checkpoint head : BlockNumber}
    (surveyed : Surveyed limits checkpoint head acts)
    (empty : (Window.next checkpoint head limits).isEmpty = true) :
    (collect profile).Gives acts (.nothing (Window.next checkpoint head limits)) := by
  obtain @⟨own, locals, looker, read, latest⟩ := surveyed
  have asked : (demand CycleError.latestBlock (request .working .latestBlock)).Gives
      [⟨looker, .latestBlock⟩] head :=
    gives_demand_iff.2 (gives_request_iff.2 ⟨looker, rfl, latest⟩)
  have found : (scan profile).Gives (own ++ [⟨looker, .latestBlock⟩])
      (Window.next checkpoint head limits, []) := by
    rw [scan_eq]
    refine gives_bind_iff.2 ⟨_, own, _, rfl, read, ?_⟩
    refine gives_bind_iff.2 ⟨head, _, [], by simp, asked, ?_⟩
    simp only [if_pos empty]
    exact gives_pure_iff.2 ⟨rfl, rfl⟩
  refine gives_bind_iff.2 ⟨_, _, [], by simp, found, ?_⟩
  simp only [if_pos empty]
  exact gives_pure_iff.2 ⟨rfl, rfl⟩

/-- A survey and the last block take no logs from the chain and write nothing. -/
theorem Surveyed.quiet {limits : ScanLimits} {checkpoint head : BlockNumber}
    (surveyed : Surveyed limits checkpoint head acts) :
    ∀ act ∈ acts, ¬ act.request.queries ∧ ¬ act.request.writes := by
  cases surveyed with
  | seen read latest =>
    intro act mem
    rcases List.mem_append.1 mem with mem | mem
    · obtain ⟨guard, -, surveys⟩ := read.asked survey_straight.asks act mem
      cases asked : act.request with
      | store t =>
        rw [asked] at surveys
        cases t <;> first | exact ⟨id, id⟩ | cases surveys
      | sendQuery | logs | advance =>
        rw [asked] at surveys
        cases surveys
      | _ => exact ⟨id, id⟩
    · rw [List.mem_singleton.1 mem]
      exact ⟨id, id⟩

end Cycle

/-- A collect cycle that does not end with a commit, in an error however that came about or still
under way, touches nothing by any of its acts; if nothing around it writes either, it leaves
everything as it was. With no block to scan it is done at once and asks for no logs. -/
theorem collect_untouched {profile : Profile} {freedom : Freedom} {first last : Site}
    {acts : List Act} {left : Program (Except CycleError Collected)}
    (course : (Cycle.collect profile).run.Course acts left)
    (joins : freedom.Joins first acts last) :
    ((∀ window fetched stored, left ≠ .done (.ok (.committed window fetched stored))) →
      (∀ act ∈ acts, act.site.Untouched act.after) ∧ (freedom.Idle → first.Untouched last)) ∧
    ∀ before behind limits checkpoint head, acts = before ++ behind →
      Cycle.Surveyed limits checkpoint head before →
      (Window.next checkpoint head limits).isEmpty = true →
        behind = [] ∧ left = .done (.ok (.nothing (Window.next checkpoint head limits))) ∧
          ∀ act ∈ acts, ¬ act.request.queries ∧ ¬ act.request.writes := by
  refine ⟨fun kept => ?_, ?_⟩
  · have along : ∀ act ∈ acts, act.site.Untouched act.after := by
      rcases Cycle.collect_ends course with quiet | ⟨before, site, found, window, rfl, quiet, ends⟩
      · exact fun act mem => act.site.untouched_perform (quiet act mem)
      intro act mem
      rcases List.mem_append.1 mem with mem | mem
      · exact act.site.untouched_perform (quiet act mem)
      · rw [List.mem_singleton.1 mem]
        show site.Untouched (site.advance found window).2
        cases reply : (site.advance found window).1 with
        | ok stored => exact absurd (ends stored reply) (kept _ _ _)
        | error e =>
          rw [Site.advance_of_refused reply]
          exact .refl site
    exact ⟨along, fun idle => .joins idle joins along⟩
  · rintro before behind limits checkpoint head rfl surveyed empty
    obtain ⟨rfl, rfl⟩ :=
      (Cycle.collect_nothing profile surveyed empty).ends (Cycle.collect_straight profile) course
    rw [List.append_nil]
    exact ⟨rfl, rfl, surveyed.quiet⟩

namespace Sample

/-- Nothing writes around a cycle. -/
def reading : Freedom := ⟨fun request => ¬ request.writes, fun _ _ => True, True, False⟩

/-- The store holds a checkpoint behind the end of the chain. -/
def farther : Site :=
  { closed with
    world := { closed.world with
      store := { closed.world.store with
        settings := (Settings.checkpointKey, "40") :: closed.world.store.settings } } }

/-- A collect cycle of a watch that remembers an older checkpoint. -/
def outpaced : Program.Solo (Except CycleError Collected) :=
  (Cycle.collect client).run.alone { farther with desk := { Desk.fresh with cached := some 0 } }

/-- The survey of a watch that has to read the checkpoint. -/
def surveyed : Program.Solo (Except CycleError (ScanLimits × BlockNumber × List Address)) :=
  Cycle.survey.run.alone farther

end Sample

/-- The closing is fetched, but the commit meets the later checkpoint. A watch that has read that
one finds nothing to scan. -/
theorem untouched_outpaced :
    (Sample.outpaced.value = .error (.store (.conflict (Store.rewind 40 30))) ∧
      Site.Untouched { Sample.farther with desk := { Desk.fresh with cached := some 0 } }
        Sample.outpaced.last) ∧
    ∀ act ∈ Sample.surveyed.acts ++ [⟨Sample.surveyed.last, .latestBlock⟩],
      ¬ act.request.queries ∧ ¬ act.request.writes := by
  constructor
  · have failed : Sample.outpaced.value = .error (.store (.conflict (Store.rewind 40 30))) := by
      decide +kernel
    have joins : Sample.reading.Joins _ Sample.outpaced.acts Sample.outpaced.last :=
      Freedom.alone_joins _ _
    have uncommitted : ∀ window fetched stored,
        Program.done Sample.outpaced.value ≠ .done (.ok (.committed window fetched stored)) := by
      rw [failed]
      rintro window fetched stored ⟨⟩
    have kept := (collect_untouched (Program.alone_course _ _) joins).1 uncommitted
    exact ⟨failed, kept.2 ⟨fun _ may => may, id⟩⟩
  · have value : Sample.surveyed.value = .ok (⟨0, 0, 0⟩, 40, []) := by decide +kernel
    have read : Cycle.survey.Gives Sample.surveyed.acts (⟨0, 0, 0⟩, 40, []) := by
      rw [Cycle.Gives, ← value]
      exact Program.alone_course _ _
    have latest : Sample.surveyed.last.world.chain.latestBlock = .ok 30 := by decide +kernel
    have empty : (Window.next 40 30 ⟨0, 0, 0⟩).isEmpty = true := by decide
    have course := Cycle.collect_nothing Sample.client (.seen read latest) empty
    have joins : Sample.reading.Joins Sample.farther
        (Sample.surveyed.acts ++ [⟨Sample.surveyed.last, .latestBlock⟩]) _ :=
      (Freedom.alone_joins _ _).append (.act ⟨Sample.surveyed.last, .latestBlock⟩ (.rest _))
    exact ((collect_untouched course joins).2 _ [] _ _ _ (by simp) (.seen read latest) empty).2.2

end ChannelWatch
