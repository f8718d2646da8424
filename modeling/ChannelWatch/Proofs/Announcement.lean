import ChannelWatch.Proofs.Succession
import ChannelWatch.Proofs.Supply

/-!
# The ids of announced offerings

A client that does not know an offering draws an id for it each time it announces the offering,
be it published or announced again. The draw belongs to the job that is offered next, so no two
accepted announcements of an unknown offering share an id. The main statement is
`announcements_agree_iff`.
-/

namespace ChannelWatch
set_option autoImplicit false

/-- The id under which an act has the queue accept an announcement of an offering that the store
does not hold. -/
def Act.announces? (offering : Hash) (act : Act) : Option Id :=
  if act.site.world.store.offering? offering = none then
    act.accepted?.bind fun job => job.announced? offering
  else none

/-- The ids under which acts have the queue accept announcements of an offering that the store
does not hold, in order. -/
def announcements (offering : Hash) (acts : List Act) : List Id :=
  acts.filterMap (Act.announces? offering)

theorem Act.announces?_eq_some {offering : Hash} {act : Act} {id : Id}
    (announces : act.announces? offering = some id) :
    ∃ site job, act = ⟨site, .offer job⟩ ∧ site.world.store.offering? offering = none ∧
      job.announced? offering = some id := by
  unfold announces? at announces
  split at announces
  · rename_i unknown
    obtain ⟨job, accepted, announced⟩ := Option.bind_eq_some_iff.1 announces
    obtain ⟨site, rfl, -⟩ := Act.accepted?_eq_some accepted
    exact ⟨site, job, rfl, unknown, announced⟩
  · cases announces

theorem Job.announced?_eq_some {job : Job} {offering : Hash} {id : Id}
    (announced : job.announced? offering = some id) :
    job.type.announcesOffering = true ∧
      (job.payload?.bind fun payload => payload.log.topic 2) = some offering ∧
      id = job.relatedId := by
  unfold announced? at announced
  split at announced
  · rename_i named
    exact ⟨named.1, named.2, (Option.some.inj announced).symm⟩
  · cases announced

namespace World

theorem unknown_of_makes {before after : World} {request : Request}
    (makes : request.Makes before after) {offering : Hash}
    (unknown : after.store.offering? offering = none) : before.store.offering? offering = none := by
  cases makes with
  | maintained u =>
    cases u with
    | insertOffering other =>
      have unknown : (Table.put before.store.offerings other before.mint.next.1).lookup offering =
        none := unknown
      rw [Table.lookup_put] at unknown
      split at unknown
      · cases unknown
      · exact unknown
    | _ => exact unknown
  | _ => exact unknown

/-- What the store does not hold it did not hold before. -/
theorem carries_unknown (freedom : Freedom) (offering : Hash) :
    freedom.Carries fun before after =>
      after.store.offering? offering = none → before.store.offering? offering = none where
  refl _ := id
  trans start rest := start ∘ rest
  request site request _ := unknown_of_makes (site.makes request)
  chain _ _ _ := id
  queue _ _ _ _ := id

end World

namespace Cycle

variable {profile : Profile} {event : StoredEvent} {batch jobs : List Job} {acts : List Act}
  {job : Job} {offering : Hash} {id : Id}

theorem gives_freshId_iff {acts : List Act} {id : Id} :
    freshId.Gives acts id ↔
      ∃ site, acts = [⟨site, .freshId⟩] ∧ site.world.mint.next.1 = id :=
  gives_request_iff

/-- An announcement is the only job of its event. Its id is that of the store, or the draw that
comes last. -/
theorem produce_announces (given : (produce profile event batch).Gives acts jobs)
    (called : job ∈ jobs) (announced : job.announced? offering = some id) :
    jobs = [job] ∧
      ((∃ looked, ⟨looked, .store (.offeringByHash offering)⟩ ∈ acts ∧
          looked.world.store.offering? offering ≠ none) ∨
        ∃ front drawn, acts = front ++ [⟨drawn, .freshId⟩] ∧ drawn.world.mint.next.1 = id) := by
  have made := produce_made given
  obtain ⟨announces, named, rfl⟩ := Job.announced?_eq_some announced
  have topic : event.log.topic 2 = some offering := by
    obtain ⟨payload, held, log⟩ := Option.map_eq_some_iff.1 (made.answers job called).log
    rwa [held, Option.bind_some, log] at named
  obtain ⟨client, known⟩ :=
    announcing_of_mem_calledFor (made.types.subset (List.mem_map_of_mem called)) announces
  unfold produce at given
  rcases known with known | known
  · rw [known, client] at given
    simp only [clientOffered, topic] at given
    obtain ⟨deleted, looked, _, rfl, -, given⟩ := gives_bind_iff.1 given
    split at given
    · obtain ⟨rfl, rfl⟩ := gives_pure_iff.1 given
      cases called
    · obtain ⟨id, drawing, _, rfl, drawn, given⟩ := gives_bind_iff.1 given
      obtain ⟨rfl, rfl⟩ := gives_pure_iff.1 given
      obtain ⟨site, rfl, minted⟩ := gives_freshId_iff.1 drawn
      obtain rfl := List.mem_singleton.1 called
      exact ⟨rfl, .inr ⟨looked, site, by simp, minted⟩⟩
  · rw [known, client] at given
    simp only [clientPoppedUp, topic] at given
    obtain ⟨found, before, _, rfl, search, given⟩ := gives_bind_iff.1 given
    obtain ⟨looked, rfl, read⟩ := gives_offeringByHash search
    cases found with
    | some id =>
      obtain ⟨rfl, rfl⟩ := gives_pure_iff.1 given
      obtain rfl := List.mem_singleton.1 called
      exact ⟨rfl, .inl ⟨looked, by simp, read ▸ Option.some_ne_none id⟩⟩
    | none =>
      obtain ⟨id, drawing, _, rfl, drawn, given⟩ := gives_bind_iff.1 given
      obtain ⟨rfl, rfl⟩ := gives_pure_iff.1 given
      obtain ⟨site, rfl, minted⟩ := gives_freshId_iff.1 drawn
      obtain rfl := List.mem_singleton.1 called
      exact ⟨rfl, .inr ⟨[⟨looked, .store (.offeringByHash offering)⟩], site, by simp, minted⟩⟩

end Cycle

section

variable {freedom : Freedom} {start last : Site} {rounds : List Round} {before behind : List Act}

/-- The id of an announced offering that the store does not hold was drawn before, and nothing was
offered since. -/
theorem Succession.draws (run : Succession Cycle.sweep freedom start rounds last)
    (spared : ∀ request, freedom.requests request → ¬ request.sweeps)
    (numbered : start.world.Numbered) (apart : last.world.mint.used.Nodup) {act : Act}
    (parts : actsOf rounds = before ++ act :: behind) {offering : Hash} {id : Id}
    (announces : act.announces? offering = some id) :
    ∃ front drawn rest, before = front ++ ⟨drawn, .freshId⟩ :: rest ∧ offers rest = [] ∧
      drawn.world.mint.next.1 = id := by
  obtain ⟨site, job, rfl, unknown, announced⟩ := Act.announces?_eq_some announces
  obtain ⟨profile, earlier, own, rest, first, next, left, rfl, pre, course, joins, post⟩ :=
    run.at_act parts
  obtain ⟨event, turn, others, made, submitted, jobs, -, taken, -, given, offered⟩ :=
    Cycle.sweep_at_offer spared course joins (pre.numbered numbered) (post.used.nodup apart)
  obtain ⟨rfl, stored | ⟨front, drawn, rfl, minted⟩⟩ :=
    Cycle.produce_announces given (offered.subset (by simp)) announced
  · obtain ⟨looked, mem, held⟩ := stored
    obtain ⟨asked, rfl⟩ := taken.parts
    refine absurd ?_ held
    have carries := World.carries_unknown freedom offering
    exact carries.onward joins.at.1
      (fun act _ => World.unknown_of_makes (act.site.makes act.request))
      ⟨looked, .store (.offeringByHash offering)⟩ (by simp [mem]) unknown
  · obtain ⟨asked, rfl⟩ := taken.parts
    have nothing : offers submitted = [] := by
      have short := offered.length_le
      rw [List.length_append, List.length_singleton] at short
      exact List.eq_nil_of_length_eq_zero (by simpa using short)
    exact ⟨earlier ++ others ++ ⟨asked, .isCancelled⟩ :: front, drawn, submitted, by simp, nothing,
      minted⟩

/-- Of two announcements of an unknown offering, the later one has an id of its own. -/
theorem Succession.announces_apart (run : Succession Cycle.sweep freedom start rounds last)
    (spared : ∀ request, freedom.requests request → ¬ request.sweeps)
    (numbered : start.world.Numbered) (apart : last.world.mint.used.Nodup)
    {between : List Act} {first second : Act}
    (parts : actsOf rounds = before ++ first :: (between ++ second :: behind)) {offering : Hash}
    {id other : Id} (announces : first.announces? offering = some id)
    (again : second.announces? offering = some other) : id ≠ other := by
  obtain ⟨front, drawn, rest, rfl, -, minted⟩ := run.draws spared numbered apart parts announces
  have later : actsOf rounds =
      (front ++ ⟨drawn, .freshId⟩ :: rest ++ first :: between) ++ second :: behind := by
    simp [parts]
  obtain ⟨front', drawn', rest', shape, silent, minted'⟩ :=
    run.draws spared numbered apart later again
  -- The second draw comes after the first offer, as nothing was offered since that draw.
  obtain ⟨offered, job, rfl, -⟩ := Act.announces?_eq_some announces
  have ahead : ∃ more,
      front' = front ++ ⟨drawn, .freshId⟩ :: rest ++ ⟨offered, .offer job⟩ :: more := by
    rcases List.append_eq_append_iff.1 shape with ⟨late, rfl, tail⟩ | ⟨late, -, tail⟩
    · cases late with
      | nil => cases tail
      | cons head late =>
        obtain ⟨rfl, -⟩ := List.cons.inj tail
        exact ⟨late, rfl⟩
    · cases late with
      | nil => cases tail
      | cons head late =>
        obtain ⟨-, rfl⟩ := List.cons.inj tail
        simp [offers, Act.offered?] at silent
  obtain ⟨more, rfl⟩ := ahead
  have joins := run.joins
  rw [later, shape] at joins
  have rejoined : freedom.Joins start (front ++ ⟨drawn, .freshId⟩ ::
      (rest ++ ⟨offered, .offer job⟩ :: more ++ ⟨drawn', .freshId⟩ ::
        (rest' ++ second :: behind))) last := by simpa using joins
  have tail := rejoined.at.2.at
  have used : (drawn.world.mint.used ++ [id]).Sublist drawn'.world.mint.used := by
    rw [← minted, ← Mint.used_next]
    exact tail.1.grows.used
  have distinct : (drawn'.world.mint.used ++ [other]).Nodup := by
    rw [← minted', ← Mint.used_next]
    exact tail.2.grows.used.nodup apart
  rintro rfl
  exact (List.nodup_append.1 distinct).2.2 id (used.subset (by simp)) id (by simp) rfl

end

/-- No two announcements of an offering that the store does not hold are accepted under one id, so
they agree only where there is no second one. -/
theorem announcements_agree_iff {start last : Site} {rounds : List Round}
    (run : Succession Cycle.sweep betweenSweeps start rounds last)
    (unused : start.world.store.events = []) (apart : last.world.mint.used.Nodup)
    (offering : Hash) :
    (announcements offering (actsOf rounds)).Nodup ∧
      ((∀ id ∈ announcements offering (actsOf rounds),
          ∀ other ∈ announcements offering (actsOf rounds), id = other) ↔
        (announcements offering (actsOf rounds)).length ≤ 1) := by
  have distinct : (announcements offering (actsOf rounds)).Nodup := by
    apply List.pairwise_filterMap.2
    apply pairwise_of_parts
    intro before first between second behind parts id announces other again
    exact run.announces_apart Freedom.between_spares (numbered_of_unused unused) apart parts
      announces again
  refine ⟨distinct, ?_⟩
  generalize announcements offering (actsOf rounds) = ids at distinct
  rcases ids with _ | ⟨first, _ | ⟨second, ids⟩⟩
  · simp
  · simp
  · have differ : first ≠ second := fun same => (List.nodup_cons.1 distinct).1 (by simp [same])
    refine ⟨fun agree => absurd (agree first (by simp) second (by simp)) differ, fun short => ?_⟩
    simp at short

/-! The offering pops up and is announced. Before its announcement has put it on file, the
publication is collected as well. -/

namespace Sample

def published (block : BlockNumber) : Log :=
  Draft.offeringCreated ⟨contracts.service, block, some (.ofNat 32 10), false⟩ (.ofNat 20 0xa9e1)
    offering

/-- The chain has grown by the publication. -/
def belated : Site :=
  { announcing.last with
    world := { announcing.last.world with
      chain := { Chain.ending 40 with logs := [poppedUp, published 31] } } }

def republishing : Program.Solo (Except CycleError SweepReport) :=
  (Cycle.sweep client).run.alone ((Cycle.collect client).run.alone belated).last

theorem republishes : Succession Cycle.sweep betweenSweeps (ready [poppedUp] [])
    [⟨client, announcing.acts⟩, ⟨client, republishing.acts⟩] republishing.last := by
  have collecting : (Cycle.collect client).Asks betweenSweeps.steady.requests :=
    collect_beside_sweeps client
  have series : Sweeps (ready [poppedUp] [])
      [⟨client, announcing.acts⟩, ⟨client, republishing.acts⟩] republishing.last := by
    refine .pause (Freedom.joins_of_asks collecting _) (.alone client ?_)
    exact .stir (.chain trivial) (.pause (Freedom.joins_of_asks collecting belated)
      (.alone client (.rest _)))
  exact series.succession (Freedom.steady_within _)
    ((Freedom.steady_within _).trans Freedom.within_between)

/-- Both announcements are accepted. -/
theorem length_republished : (announcements offering
    (actsOf [⟨client, announcing.acts⟩, ⟨client, republishing.acts⟩])).length = 2 := by
  decide +kernel

end Sample

/-- The offering that popped up is published under another id. -/
theorem announcements_differ :
    ¬ ∀ id ∈ announcements Sample.offering
        (actsOf [⟨Sample.client, Sample.announcing.acts⟩, ⟨Sample.client, Sample.republishing.acts⟩]),
      ∀ other ∈ announcements Sample.offering
        (actsOf [⟨Sample.client, Sample.announcing.acts⟩, ⟨Sample.client, Sample.republishing.acts⟩]),
        id = other := by
  intro agree
  have short := (announcements_agree_iff Sample.republishes rfl (by decide +kernel)
    Sample.offering).2.1 agree
  rw [Sample.length_republished] at short
  simp at short

/-- Announcements of one offering that the store does not hold are not always accepted under one
id. -/
theorem not_forall_announcements_agree :
    ¬ ∀ start last rounds, start.world.store.events = [] →
      Succession Cycle.sweep betweenSweeps start rounds last → last.world.mint.used.Nodup →
      ∀ offering, ∀ id ∈ announcements offering (actsOf rounds),
        ∀ other ∈ announcements offering (actsOf rounds), id = other := by
  intro agree
  have same := agree _ _ _ rfl Sample.republishes (by decide +kernel) Sample.offering
  have differ : ¬ ∀ id ∈ announcements Sample.offering
        (actsOf [⟨Sample.client, Sample.announcing.acts⟩, ⟨Sample.client, Sample.republishing.acts⟩]),
      ∀ other ∈ announcements Sample.offering
        (actsOf [⟨Sample.client, Sample.announcing.acts⟩, ⟨Sample.client, Sample.republishing.acts⟩]),
        id = other := by decide +kernel
  exact differ same

end ChannelWatch
