import ChannelWatch.Proofs.Emission

/-!
# Runs, act by act

A `Succession` is a run of cycles of which each begins when the one before it has stopped,
seen as one row of acts: a moment of the run is a place in that row, in the middle of a cycle
or between two. `Succession.at_act` finds the cycle that an act belongs to, and what the
shape of sweeps says about their acts is then said of the acts of a run. Cycles that overlap
are `Abreast`: their acts are mixed, and each act has the number of its cycle.
-/

namespace ChannelWatch
set_option autoImplicit false

/-- One freedom allows nothing that the other does not. -/
structure Freedom.Within (narrow wide : Freedom) : Prop where
  requests : ∀ request, narrow.requests request → wide.requests request
  chains : ∀ before after, narrow.chains before after → wide.chains before after
  orders : narrow.orders → wide.orders
  rebuilding : narrow.rebuilding → wide.rebuilding

namespace Freedom

variable {narrow wide : Freedom}

theorem Stir.widen (within : narrow.Within wide) {site next : Site} (stir : narrow.Stir site next) :
    wide.Stir site next := by
  cases stir with
  | beside may => exact .beside (within.requests _ may)
  | elsewhere desk may => exact .elsewhere desk (within.requests _ may)
  | chain may => exact .chain (within.chains _ _ may)
  | queue may told => exact .queue (within.orders may) told
  | cancelled => exact .cancelled
  | rebuilt may cancelled => exact .rebuilt (within.rebuilding may) cancelled

theorem Joins.widen (within : narrow.Within wide) {first last : Site} {acts : List Act}
    (joins : narrow.Joins first acts last) : wide.Joins first acts last := by
  induction joins with
  | rest site => exact .rest site
  | stir stir _ ih => exact .stir (stir.widen within) ih
  | act act _ ih => exact .act act ih

theorem steady_within (freedom : Freedom) : freedom.steady.Within freedom :=
  ⟨fun _ may => may.1, fun _ _ may => may, id, id⟩

/-- Within a sweep no more is allowed than between two. -/
theorem within_between : withinSweep.Within betweenSweeps :=
  ⟨fun _ may => may, fun _ _ may => may, id, False.elim⟩

theorem Within.trans {narrow middle wide : Freedom} (first : narrow.Within middle)
    (second : middle.Within wide) : narrow.Within wide where
  requests request may := second.requests request (first.requests request may)
  chains before after may := second.chains before after (first.chains before after may)
  orders may := second.orders (first.orders may)
  rebuilding may := second.rebuilding (first.rebuilding may)

end Freedom

/-- The acts of cycles that do not overlap, in their order. -/
def actsOf (rounds : List Round) : List Act := rounds.flatMap Round.acts

@[simp] theorem actsOf_append (before behind : List Round) :
    actsOf (before ++ behind) = actsOf before ++ actsOf behind := List.flatMap_append

@[simp] theorem actsOf_cons (round : Round) (rounds : List Round) :
    actsOf (round :: rounds) = round.acts ++ actsOf rounds := List.flatMap_cons

/-- Cycles of watches, each begun when the one before it has stopped, wherever it was. -/
structure Succession {α : Type} (cycle : Profile → Cycle α) (freedom : Freedom) (first : Site)
    (rounds : List Round) (last : Site) : Prop where
  courses : ∀ round ∈ rounds, ∃ left, (cycle round.profile).run.Course round.acts left
  joins : freedom.Joins first (actsOf rounds) last

/-- An act of several rounds is an act of one of them. -/
theorem split_actsOf {rounds : List Round} {before behind : List Act} {act : Act}
    (parts : actsOf rounds = before ++ act :: behind) :
    ∃ earlier round later own rest, rounds = earlier ++ round :: later ∧
      round.acts = own ++ act :: rest ∧ before = actsOf earlier ++ own ∧
      behind = rest ++ actsOf later := by
  induction rounds generalizing before with
  | nil => simp [actsOf] at parts
  | cons round rounds ih =>
    rw [actsOf_cons] at parts
    rcases List.append_eq_append_iff.1 parts with ⟨late, rfl, tail⟩ | ⟨late, own, tail⟩
    · obtain ⟨earlier, taken, later, own, rest, rfl, acts, rfl, rfl⟩ := ih tail
      exact ⟨round :: earlier, taken, later, own, rest, rfl, acts, by simp, rfl⟩
    · cases late with
      | nil =>
        have behind' : actsOf rounds = [] ++ act :: behind := tail.symm
        obtain ⟨earlier, taken, later, own', rest, rfl, acts, front, rfl⟩ := ih behind'
        refine ⟨round :: earlier, taken, later, own', rest, rfl, acts, ?_, rfl⟩
        simp [actsOf_cons, own, ← front]
      | cons head late =>
        obtain ⟨rfl, rfl⟩ := List.cons.inj tail
        exact ⟨[], round, rounds, before, late, rfl, own, by simp [actsOf], rfl⟩

namespace Succession

variable {α : Type} {cycle : Profile → Cycle α} {freedom : Freedom} {first last : Site}
  {rounds : List Round}

/-- A round between the ones before it and the ones behind it. -/
theorem at_round {earlier later : List Round} {round : Round}
    (run : Succession cycle freedom first (earlier ++ round :: later) last) :
    ∃ site next left, freedom.Joins first (actsOf earlier) site ∧
      (cycle round.profile).run.Course round.acts left ∧ freedom.Joins site round.acts next ∧
      freedom.Joins next (actsOf later) last := by
  obtain ⟨left, course⟩ := run.courses round (by simp)
  have joins := run.joins
  rw [actsOf_append, actsOf_cons] at joins
  obtain ⟨site, start, tail⟩ := joins.of_append
  obtain ⟨next, inside, tail⟩ := tail.of_append
  exact ⟨site, next, left, start, course, inside, tail⟩

/-- The round of an act, and the run before, within and behind it. -/
theorem at_act (run : Succession cycle freedom first rounds last) {before behind : List Act}
    {act : Act} (parts : actsOf rounds = before ++ act :: behind) :
    ∃ profile earlier own rest site next left, before = earlier ++ own ∧
      freedom.Joins first earlier site ∧
      (cycle profile).run.Course (own ++ act :: rest) left ∧
      freedom.Joins site (own ++ act :: rest) next ∧ next.world.Grows last.world := by
  obtain ⟨earlier, round, later, own, rest, rfl, acts, rfl, rfl⟩ := split_actsOf parts
  obtain ⟨site, next, left, start, course, inside, tail⟩ := run.at_round
  rw [acts] at course inside
  exact ⟨round.profile, actsOf earlier, own, rest, site, next, left, rfl, start, course, inside,
    tail.grows⟩

/-- Every act of a run is of a kind that its cycle asks for. -/
theorem asked {kind : Request → Prop} (run : Succession cycle freedom first rounds last)
    (asks : ∀ profile, (cycle profile).Asks kind) : ∀ act ∈ actsOf rounds, kind act.request := by
  intro act mem
  obtain ⟨round, among, mem⟩ := List.mem_flatMap.1 mem
  obtain ⟨left, course⟩ := run.courses round among
  exact course.asked (asks round.profile) act mem

end Succession

/-- The acts of one of several cycles that overlap. -/
def actsBy (number : Nat) (acts : List (Nat × Act)) : List Act :=
  (acts.filter fun entry => entry.1 = number).map Prod.snd

@[simp] theorem actsBy_nil (number : Nat) : actsBy number [] = [] := rfl

@[simp] theorem actsBy_append (number : Nat) (before behind : List (Nat × Act)) :
    actsBy number (before ++ behind) = actsBy number before ++ actsBy number behind := by
  simp [actsBy]

@[simp] theorem actsBy_cons (number : Nat) (entry : Nat × Act) (acts : List (Nat × Act)) :
    actsBy number (entry :: acts) =
      if entry.1 = number then entry.2 :: actsBy number acts else actsBy number acts := by
  by_cases own : entry.1 = number <;> simp [actsBy, own]

@[simp] theorem actsBy_map (number owner : Nat) (acts : List Act) :
    actsBy number (acts.map fun act => (owner, act)) = if owner = number then acts else [] := by
  by_cases own : owner = number <;>
    simp [actsBy, List.filter_map, List.map_map, Function.comp_def, own]

/-- Cycles of one watch that may overlap, each left wherever it was. -/
structure Abreast {α : Type} (cycle : Profile → Cycle α) (freedom : Freedom) (first : Site)
    (acts : List (Nat × Act)) (last : Site) : Prop where
  courses : ∀ number, ∃ profile left, (cycle profile).run.Course (actsBy number acts) left
  joins : freedom.Joins first (acts.map Prod.snd) last

namespace Abreast

variable {α : Type} {cycle : Profile → Cycle α} {freedom : Freedom} {first last : Site}
  {acts : List (Nat × Act)}

/-- An act among those of its own cycle. -/
theorem at_act (run : Abreast cycle freedom first acts last) {before behind : List (Nat × Act)}
    {number : Nat} {act : Act} (parts : acts = before ++ (number, act) :: behind) :
    ∃ profile left, (cycle profile).run.Course
      (actsBy number before ++ act :: actsBy number behind) left := by
  obtain ⟨profile, left, course⟩ := run.courses number
  have own : actsBy number acts = actsBy number before ++ act :: actsBy number behind := by
    simp [parts]
  exact ⟨profile, left, own ▸ course⟩

/-- Every act of a run is of a kind that its cycle asks for. -/
theorem asked {kind : Request → Prop} (run : Abreast cycle freedom first acts last)
    (asks : ∀ profile, (cycle profile).Asks kind) :
    ∀ act ∈ acts.map Prod.snd, kind act.request := by
  intro act mem
  obtain ⟨⟨number, act⟩, among, rfl⟩ := List.mem_map.1 mem
  obtain ⟨before, behind, parts⟩ := List.append_of_mem among
  obtain ⟨profile, left, course⟩ := run.at_act parts
  exact course.asked (asks profile) act (by simp)

end Abreast

section Sweeps

variable {freedom : Freedom} {first last : Site} {rounds : List Round} {before behind : List Act}

/-- When a job is offered, it answers an event that waits. -/
theorem Succession.at_offer (run : Succession Cycle.sweep freedom first rounds last)
    (spared : ∀ request, freedom.requests request → ¬ request.sweeps)
    (numbered : first.world.Numbered) (apart : last.world.mint.used.Nodup) {site : Site} {job : Job}
    (parts : actsOf rounds = before ++ ⟨site, .offer job⟩ :: behind) :
    ∃ event, site.world.Waits event.id event.log ∧ job.Answers event := by
  obtain ⟨profile, earlier, own, rest, start, next, left, rfl, pre, course, joins, post⟩ :=
    run.at_act parts
  obtain ⟨event, turn, _, made, own, jobs, waits, -, -, given, offered⟩ :=
    Cycle.sweep_at_offer spared course joins (pre.numbered numbered) (post.used.nodup apart)
  exact ⟨event, waits, (Cycle.produce_made given).answers job (offered.subset (by simp))⟩

/-- When an event is disposed of, it waits. -/
theorem Succession.at_dispose (run : Succession Cycle.sweep freedom first rounds last)
    (spared : ∀ request, freedom.requests request → ¬ request.sweeps)
    (numbered : first.world.Numbered) (apart : last.world.mint.used.Nodup) {site : Site}
    {event : Id} {disposition : Disposition}
    (parts : actsOf rounds = before ++ ⟨site, .store (.disposeEvent event disposition)⟩ :: behind) :
    ∃ log, site.world.Waits event log := by
  obtain ⟨profile, earlier, own, rest, start, next, left, rfl, pre, course, joins, post⟩ :=
    run.at_act parts
  exact Cycle.sweep_at_dispose spared course joins (pre.numbered numbered) (post.used.nodup apart)

end Sweeps

/-- Cycles one after the other, with pauses, are a run without overlaps. -/
theorem Series.succession {α : Type} {cycle : Profile → Cycle α} {between within wide : Freedom}
    (around : between.Within wide) (amid : within.Within wide) {first last : Site}
    {rounds : List Round} (series : Series cycle between within first rounds last) :
    Succession cycle wide first rounds last := by
  induction series with
  | rest site => exact ⟨by simp, .rest site⟩
  | stir stir _ ih => exact ⟨ih.courses, .stir (stir.widen around) ih.joins⟩
  | round profile course joins _ ih =>
    refine ⟨fun round mem => ?_, ?_⟩
    · rcases List.mem_cons.1 mem with rfl | mem
      · exact ⟨_, course⟩
      · exact ih.courses round mem
    · rw [actsOf_cons]
      exact (joins.widen amid).append ih.joins

/-- The sweeps of the closing are a run. -/
theorem Sample.succession : Succession Cycle.sweep betweenSweeps Sample.closed
    [⟨Sample.client, Sample.halfway.acts⟩, ⟨Sample.client, Sample.retried.acts⟩]
    Sample.retried.last :=
  Sample.sweeps.succession (Freedom.steady_within _)
    ((Freedom.steady_within _).trans Freedom.within_between)

end ChannelWatch
