import ChannelWatch.Proofs.Course

/-!
# Rounds of a watch

A watch is not alone: between two acts of one of its cycles, other cycles make requests, the
chain grows, and an operator looks after tables and queue. `Freedom` says how much of that
may happen and `Freedom.Stir` is one such event. A `Round` is what one cycle did, as far as
it got, and a `Series` is one round after the other from a first site to a last one.
-/

namespace ChannelWatch
set_option autoImplicit false

/-- One way in which a queue is told how to behave. -/
inductive Queue.Told (queue : Queue) : Queue → Prop where
  | refuse (type : JobType) (error : QueueError) : Told queue (queue.refuse type error)
  | accept (type : JobType) : Told queue (queue.accept type)
  | allowRepeats (type : JobType) : Told queue (queue.allowRepeats type)
  | failLookups (on : Bool) : Told queue (queue.failLookups on)
  | delayReplies (delay : Nat) : Told queue (queue.delayReplies delay)

/-- How much may happen around a cycle. -/
structure Freedom where
  /-- The requests that others make. -/
  requests : Request → Prop
  /-- How the chain changes. -/
  chains : Chain → Chain → Prop
  /-- The queue is told how to behave. -/
  orders : Prop
  /-- A watch is built again, with nothing remembered. -/
  rebuilding : Prop

/-- One thing that happens around a cycle at a site. -/
inductive Freedom.Stir (freedom : Freedom) (site : Site) : Site → Prop where
  /-- Another cycle of the same watch makes a request. -/
  | beside {request : Request} (may : freedom.requests request) :
      Stir freedom site (site.perform request).2
  /-- A request is made at another desk. -/
  | elsewhere (desk : Desk) {request : Request} (may : freedom.requests request) :
      Stir freedom site { site with world := (Site.perform ⟨site.world, desk⟩ request).2.world }
  | chain {chain : Chain} (may : freedom.chains site.world.chain chain) :
      Stir freedom site { site with world := { site.world with chain } }
  | queue {queue : Queue} (may : freedom.orders) (told : site.world.queue.Told queue) :
      Stir freedom site { site with world := { site.world with queue } }
  | cancelled : Stir freedom site { site with desk := { site.desk with cancelled := true } }
  | rebuilt (may : freedom.rebuilding) (cancelled : Bool) :
      Stir freedom site { site with desk := { Desk.fresh with cancelled } }

/-- From one site to another, acts are done in order while other things happen. -/
inductive Freedom.Joins (freedom : Freedom) : Site → List Act → Site → Prop where
  | rest (site : Site) : Joins freedom site [] site
  | stir {site next last : Site} {acts : List Act} (stir : freedom.Stir site next)
      (joins : Joins freedom next acts last) : Joins freedom site acts last
  | act {last : Site} {acts : List Act} (act : Act) (joins : Joins freedom act.after acts last) :
      Joins freedom act.site (act :: acts) last

namespace Freedom

variable {freedom : Freedom}

theorem Joins.append {first middle last : Site} {before behind : List Act}
    (start : freedom.Joins first before middle) (rest : freedom.Joins middle behind last) :
    freedom.Joins first (before ++ behind) last := by
  induction start with
  | rest => exact rest
  | stir stir _ ih => exact .stir stir (ih rest)
  | act act _ ih => exact .act act (ih rest)

theorem Joins.of_append {first last : Site} {before behind : List Act}
    (joins : freedom.Joins first (before ++ behind) last) :
    ∃ middle, freedom.Joins first before middle ∧ freedom.Joins middle behind last := by
  generalize all : before ++ behind = acts at joins
  induction joins generalizing before with
  | rest site =>
    obtain ⟨rfl, rfl⟩ := List.append_eq_nil_iff.1 all
    exact ⟨site, .rest site, .rest site⟩
  | stir stir _ ih =>
    obtain ⟨middle, start, rest⟩ := ih all
    exact ⟨middle, .stir stir start, rest⟩
  | act act joins ih =>
    cases before with
    | nil =>
      have all : behind = act :: _ := all
      subst all
      exact ⟨act.site, .rest _, .act act joins⟩
    | cons head before =>
      obtain ⟨rfl, tail⟩ := List.cons.inj all
      obtain ⟨middle, start, rest⟩ := ih tail
      exact ⟨middle, .act head start, rest⟩

/-- Some act is the next one; until then other things happen. -/
theorem Joins.of_cons {first last : Site} {act : Act} {acts : List Act}
    (joins : freedom.Joins first (act :: acts) last) :
    freedom.Joins first [] act.site ∧ freedom.Joins act.after acts last := by
  generalize all : act :: acts = list at joins
  induction joins with
  | rest => cases all
  | stir stir _ ih => exact ⟨.stir stir (ih all).1, (ih all).2⟩
  | act head joins _ =>
    obtain ⟨rfl, rfl⟩ := List.cons.inj all
    exact ⟨.rest _, joins⟩

/-- The sites on both sides of an act. -/
theorem Joins.at {first last : Site} {before behind : List Act} {act : Act}
    (joins : freedom.Joins first (before ++ act :: behind) last) :
    freedom.Joins first before act.site ∧ freedom.Joins act.after behind last := by
  obtain ⟨middle, start, rest⟩ := joins.of_append
  obtain ⟨pause, rest⟩ := rest.of_cons
  exact ⟨by simpa using start.append pause, rest⟩

theorem alone_joins {α : Type} (program : Program α) (site : Site) :
    freedom.Joins site (program.alone site).acts (program.alone site).last := by
  induction program generalizing site with
  | done value => exact .rest _
  | ask guard request next ih => exact .act ⟨site, request⟩ (ih _ _)

/-- What a cycle may ask for may happen beside another one. -/
theorem joins_of_asks {α : Type} {program : Program α} (asks : program.Asks freedom.requests)
    (site : Site) : freedom.Joins site [] (program.alone site).last := by
  induction program generalizing site with
  | done value => exact .rest _
  | ask guard request next ih => exact .stir (.beside asks.1) (ih _ (asks.2 _) _)

/-- A relation between worlds that holds along everything a freedom allows. -/
structure Carries (freedom : Freedom) (R : World → World → Prop) : Prop where
  refl (world : World) : R world world
  trans {first middle last : World} : R first middle → R middle last → R first last
  request (site : Site) (request : Request) :
    freedom.requests request → R site.world (site.perform request).2.world
  chain (world : World) (chain : Chain) :
    freedom.chains world.chain chain → R world { world with chain }
  queue (world : World) (queue : Queue) :
    freedom.orders → world.queue.Told queue → R world { world with queue }

namespace Carries

variable {R : World → World → Prop}

theorem stir (carries : freedom.Carries R) {site next : Site} (stir : freedom.Stir site next) :
    R site.world next.world := by
  cases stir with
  | beside may => exact carries.request site _ may
  | elsewhere desk may => exact carries.request ⟨site.world, desk⟩ _ may
  | chain may => exact carries.chain _ _ may
  | queue may told => exact carries.queue _ _ may told
  | cancelled => exact carries.refl _
  | rebuilt may cancelled => exact carries.refl _

/-- What holds along the surroundings and along the acts holds from end to end. -/
theorem joins (carries : freedom.Carries R) {first last : Site} {acts : List Act}
    (joins : freedom.Joins first acts last)
    (along : ∀ act ∈ acts, R act.site.world act.after.world) : R first.world last.world := by
  induction joins with
  | rest site => exact carries.refl _
  | stir stir _ ih => exact carries.trans (carries.stir stir) (ih along)
  | act act _ ih =>
    exact carries.trans (along act (by simp)) (ih fun later mem => along later (by simp [mem]))

/-- What holds along the surroundings and along the acts reaches every act. -/
theorem reaches (carries : freedom.Carries R) {first last : Site} {acts : List Act}
    (joins : freedom.Joins first acts last)
    (along : ∀ act ∈ acts, R act.site.world act.after.world) :
    ∀ act ∈ acts, R first.world act.site.world := by
  intro act mem
  obtain ⟨before, behind, rfl⟩ := List.append_of_mem mem
  exact carries.joins joins.at.1 fun earlier mem => along earlier (by simp [mem])

/-- What holds along the surroundings and along the acts holds from every act on. -/
theorem onward (carries : freedom.Carries R) {first last : Site} {acts : List Act}
    (joins : freedom.Joins first acts last)
    (along : ∀ act ∈ acts, R act.site.world act.after.world) :
    ∀ act ∈ acts, R act.site.world last.world := by
  intro act mem
  obtain ⟨before, behind, rfl⟩ := List.append_of_mem mem
  exact carries.trans (along act mem)
    (carries.joins joins.at.2 fun later mem => along later (by simp [mem]))

end Carries

end Freedom

/-- What a cycle of a watch did. -/
structure Round where
  profile : Profile
  acts : List Act

/-- Cycles of watches one after the other. Between two of them as much happens as `between`
allows, and within one as much as `within` allows; each may be left unfinished. -/
inductive Series {α : Type} (cycle : Profile → Cycle α) (between within : Freedom) :
    Site → List Round → Site → Prop where
  | rest (site : Site) : Series cycle between within site [] site
  | stir {site next last : Site} {rounds : List Round} (stir : between.Stir site next)
      (series : Series cycle between within next rounds last) :
      Series cycle between within site rounds last
  | round {site next last : Site} {rounds : List Round} (profile : Profile) {acts : List Act}
      {left : Program (Except CycleError α)} (course : (cycle profile).run.Course acts left)
      (joins : within.Joins site acts next) (series : Series cycle between within next rounds last) :
      Series cycle between within site (⟨profile, acts⟩ :: rounds) last

namespace Series

variable {α : Type} {cycle : Profile → Cycle α} {between within : Freedom}

theorem of_append {first last : Site} {before behind : List Round}
    (series : Series cycle between within first (before ++ behind) last) :
    ∃ middle, Series cycle between within first before middle ∧
      Series cycle between within middle behind last := by
  generalize all : before ++ behind = rounds at series
  induction series generalizing before with
  | rest site =>
    obtain ⟨rfl, rfl⟩ := List.append_eq_nil_iff.1 all
    exact ⟨site, .rest site, .rest site⟩
  | stir stir _ ih =>
    obtain ⟨middle, start, rest⟩ := ih all
    exact ⟨middle, .stir stir start, rest⟩
  | round profile course joins series ih =>
    cases before with
    | nil =>
      have all : behind = _ := all
      subst all
      exact ⟨_, .rest _, .round profile course joins series⟩
    | cons head before =>
      obtain ⟨rfl, tail⟩ := List.cons.inj all
      obtain ⟨middle, start, rest⟩ := ih tail
      exact ⟨middle, .round profile course joins start, rest⟩

theorem append {first middle last : Site} {before behind : List Round}
    (start : Series cycle between within first before middle)
    (rest : Series cycle between within middle behind last) :
    Series cycle between within first (before ++ behind) last := by
  induction start with
  | rest => exact rest
  | stir stir _ ih => exact .stir stir (ih rest)
  | round profile course joins _ ih => exact .round profile course joins (ih rest)

theorem pause {first middle last : Site} {rounds : List Round}
    (pause : between.Joins first [] middle) (rest : Series cycle between within middle rounds last) :
    Series cycle between within first rounds last := by
  generalize none : [] = acts at pause
  induction pause with
  | rest => exact rest
  | stir stir _ ih => exact .stir stir (ih rest none)
  | act => cases none

/-- A cycle that nothing disturbs is a round. -/
theorem alone (profile : Profile) {site last : Site} {rounds : List Round}
    (rest : Series cycle between within ((cycle profile).run.alone site).last rounds last) :
    Series cycle between within site
      (⟨profile, ((cycle profile).run.alone site).acts⟩ :: rounds) last :=
  .round profile (Program.alone_course _ _) (Freedom.alone_joins _ _) rest

theorem of_cons {first last : Site} {round : Round} {rounds : List Round}
    (series : Series cycle between within first (round :: rounds) last) :
    ∃ site next left, Series cycle between within first [] site ∧
      (cycle round.profile).run.Course round.acts left ∧ within.Joins site round.acts next ∧
      Series cycle between within next rounds last := by
  generalize all : round :: rounds = list at series
  induction series with
  | rest => cases all
  | stir stir _ ih =>
    obtain ⟨site, next, left, pause, course, joins, rest⟩ := ih all
    exact ⟨site, next, left, .stir stir pause, course, joins, rest⟩
  | round profile course joins series _ =>
    obtain ⟨rfl, rfl⟩ := List.cons.inj all
    exact ⟨_, _, _, .rest _, course, joins, series⟩

/-- A round between the ones before it and the ones behind it. -/
theorem at_round {first last : Site} {before behind : List Round} {round : Round}
    (series : Series cycle between within first (before ++ round :: behind) last) :
    ∃ site next left, Series cycle between within first before site ∧
      (cycle round.profile).run.Course round.acts left ∧ within.Joins site round.acts next ∧
      Series cycle between within next behind last := by
  obtain ⟨middle, start, rest⟩ := series.of_append
  obtain ⟨site, next, left, pause, course, joins, rest⟩ := rest.of_cons
  exact ⟨site, next, left, by simpa using start.append pause, course, joins, rest⟩

/-- What holds along the surroundings and along the acts holds from end to end. -/
theorem carried {R : World → World → Prop} (around : between.Carries R) (amid : within.Carries R)
    {kind : Request → Prop} (asks : ∀ profile, (cycle profile).Asks kind)
    (along : ∀ site request, kind request → R site.world (Site.perform site request).2.world)
    {first last : Site} {rounds : List Round}
    (series : Series cycle between within first rounds last) : R first.world last.world := by
  induction series with
  | rest site => exact around.refl _
  | stir stir _ ih => exact around.trans (around.stir stir) ih
  | round profile course joins _ ih =>
    have acts := fun act mem => along act.site act.request (course.asked (asks profile) act mem)
    exact around.trans (amid.joins joins acts) ih

end Series

end ChannelWatch
