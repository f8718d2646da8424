import Mathlib.Data.List.Chain
import Mathlib.Data.List.Forall2
import ChannelWatch.Proofs.Checkpoint

/-!
# Building a watch again

What a collect cycle answers and stores does not depend on whether its watch remembers the
checkpoint, as long as it remembers the right one and the store can be asked for it. Two sites
that differ in what is remembered stay alike (`Site.Like.joins`), so that a watch which was
built again between two cycles goes on like the old one (`World.Repeats`). The main statement is
`checkpoint_agrees`.
-/

namespace ChannelWatch
set_option autoImplicit false

namespace Site

/-- What a request makes of the world does not depend on the desk. -/
theorem perform_world {site other : Site} (same : other.world = site.world) (request : Request) :
    (other.perform request).2.world = (site.perform request).2.world := by
  obtain ⟨world, desk⟩ := site
  obtain ⟨_, desk'⟩ := other
  subst same
  cases request with
  | checkpoint =>
    show (Site.checkpoint _).2.world = (Site.checkpoint _).2.world
    rw [checkpoint_world, checkpoint_world]
  | advance logs window =>
    show (Site.advance _ logs window).2.world = (Site.advance _ logs window).2.world
    rw [advance_world, advance_world]
  | _ => rfl

/-- Two watches in the same world that differ only in what they remember, and what they remember
is right. -/
structure Like (site other : Site) : Prop where
  world : other.world = site.world
  cancelled : other.desk.cancelled = site.desk.cancelled
  current : site.Current
  otherCurrent : other.Current

namespace Like

variable {site other : Site}

theorem symm (like : site.Like other) : other.Like site :=
  ⟨like.world.symm, like.cancelled.symm, like.otherCurrent, like.current⟩

theorem perform (like : site.Like other) {request : Request}
    (own : request.collects ∨ ¬ request.marks) :
    (site.perform request).2.Like (other.perform request).2 where
  world := perform_world like.world request
  cancelled := by rw [perform_cancelled, perform_cancelled, like.cancelled]
  current := like.current.perform own
  otherCurrent := like.otherCurrent.perform own

/-- A collect cycle is answered the same, if the store is on when it asks for the checkpoint. -/
theorem reply (like : site.Like other) {request : Request} (collects : request.collects)
    (ready : request = .checkpoint → site.world.store.available = true) :
    (other.perform request).1 = (site.perform request).1 := by
  have world := like.world
  cases request with
  | checkpoint =>
    show other.checkpoint.1 = site.checkpoint.1
    rw [like.current.told (ready rfl), like.otherCurrent.told (world ▸ ready rfl), world]
  | advance logs window =>
    show (other.advance logs window).1 = (site.advance logs window).1
    rw [Site.advance_reply, Site.advance_reply, world]
  | store t =>
    show (other.world.transact t).1 = (site.world.transact t).1
    rw [world]
  | latestBlock => exact congrArg (fun world => world.chain.latestBlock) world
  | logs query => exact congrArg (fun world => world.chain.answer query) world
  | sendQuery => rfl
  | _ => cases collects

/-- Whatever happens around one of them can happen around the other. -/
theorem stir (like : site.Like other) {next : Site} (stir : besideCollects.Stir site next) :
    ∃ next', besideCollects.Stir other next' ∧ next.Like next' := by
  have world := like.world
  -- Both watches stay current by themselves, so only the worlds are left to compare.
  have goOn : ∀ {next'}, besideCollects.Stir other next' → next'.world = next.world →
      next'.desk.cancelled = next.desk.cancelled →
      ∃ next', besideCollects.Stir other next' ∧ next.Like next' := fun stir' same cancelled =>
    ⟨_, stir', same, cancelled, like.current.stir stir, like.otherCurrent.stir stir'⟩
  cases stir with
  | beside may =>
    refine goOn (.beside may) (perform_world world _) ?_
    rw [perform_cancelled, perform_cancelled, like.cancelled]
  | elsewhere desk may =>
    exact goOn (.elsewhere desk may) (by simp only [world]) like.cancelled
  | @chain chain may =>
    have may' : besideCollects.chains other.world.chain chain := may
    exact goOn (.chain may') (by simp only [world]) like.cancelled
  | @queue queue may told =>
    have told' : other.world.queue.Told queue := world ▸ told
    exact goOn (.queue may told') (by simp only [world]) like.cancelled
  | cancelled => exact goOn .cancelled world rfl
  | rebuilt may => cases may

end Like

end Site

/-- The same request in the same world, with the same answer. -/
inductive Act.Alike : Act → Act → Prop where
  | intro {site other : Site} {request : Request} (world : other.world = site.world)
      (reply : (other.perform request).1 = (site.perform request).1) :
      Alike ⟨site, request⟩ ⟨other, request⟩

theorem Act.Alike.symm {act other : Act} (alike : act.Alike other) : other.Alike act := by
  obtain ⟨world, reply⟩ := alike
  exact ⟨world.symm, reply.symm⟩

/-- A program that gets the same answers goes on in the same way. -/
theorem Program.Course.alike {α : Type} {program left : Program α} {acts others : List Act}
    (course : program.Course acts left) (alike : List.Forall₂ Act.Alike acts others) :
    program.Course others left := by
  induction course generalizing others with
  | rest program =>
    cases alike
    exact .rest program
  | reply site _ ih =>
    cases alike with
    | cons head tail =>
      obtain ⟨-, reply⟩ := head
      exact .reply _ (reply ▸ ih tail)
  | expire timed _ ih => exact .expire timed (ih alike)
  | cancel cancellable _ ih => exact .cancel cancellable (ih alike)

/-- What a collect cycle does at one of two sites, it can do at the other. -/
theorem Site.Like.joins {first other last : Site} {acts : List Act} (like : first.Like other)
    (joins : besideCollects.Joins first acts last)
    (collects : ∀ act ∈ acts, act.request.collects)
    (ready : ∀ act ∈ acts, act.request = .checkpoint → act.site.world.store.available = true) :
    ∃ others next, besideCollects.Joins other others next ∧ List.Forall₂ Act.Alike acts others ∧
      last.Like next := by
  induction joins generalizing other with
  | rest => exact ⟨[], other, .rest other, .nil, like⟩
  | stir stir _ ih =>
    obtain ⟨between, stir', like⟩ := like.stir stir
    obtain ⟨others, next, joins, alike, like⟩ := ih like collects ready
    exact ⟨others, next, .stir stir' joins, alike, like⟩
  | act act _ ih =>
    obtain ⟨site, request⟩ := act
    have own := collects ⟨site, request⟩ (by simp)
    have reply := like.reply own (ready ⟨site, request⟩ (by simp))
    obtain ⟨others, next, joins, alike, later⟩ := ih (like.perform (.inl own))
      (fun act mem => collects act (by simp [mem])) fun act mem => ready act (by simp [mem])
    exact ⟨⟨other, request⟩ :: others, next, .act ⟨other, request⟩ joins,
      .cons ⟨like.world, reply⟩ alike, later⟩

/-- A cycle of the same profile did the same and has come just as far. -/
structure Round.Alike (round other : Round) : Prop where
  profile : other.profile = round.profile
  acts : List.Forall₂ Act.Alike round.acts other.acts
  answer : ∀ left, (Cycle.collect round.profile).run.Course round.acts left ↔
    (Cycle.collect other.profile).run.Course other.acts left

theorem Round.alike_of_acts (profile : Profile) {acts others : List Act}
    (alike : List.Forall₂ Act.Alike acts others) : Round.Alike ⟨profile, acts⟩ ⟨profile, others⟩ where
  profile := rfl
  acts := alike
  answer left := by
    have back : List.Forall₂ Act.Alike others acts := (alike.imp fun _ _ => Act.Alike.symm).flip
    exact ⟨fun course => course.alike alike, fun course => course.alike back⟩

/-- Acts that are alike are those of rounds that are alike. -/
theorem exists_rounds_alike {rounds : List Round} {others : List Act}
    (alike : List.Forall₂ Act.Alike (actsOf rounds) others)
    (courses : ∀ round ∈ rounds, ∃ left, (Cycle.collect round.profile).run.Course round.acts left) :
    ∃ rounds', others = actsOf rounds' ∧ List.Forall₂ Round.Alike rounds rounds' ∧
      ∀ round ∈ rounds', ∃ left, (Cycle.collect round.profile).run.Course round.acts left := by
  induction rounds generalizing others with
  | nil =>
    cases alike
    exact ⟨[], rfl, .nil, by simp⟩
  | cons round rounds ih =>
    obtain ⟨profile, acts⟩ := round
    obtain ⟨⟨left, course⟩, courses⟩ := List.forall_mem_cons.1 courses
    rw [actsOf_cons] at alike
    have own : List.Forall₂ Act.Alike acts (others.take acts.length) := by
      simpa using List.forall₂_take acts.length alike
    have behind : List.Forall₂ Act.Alike (actsOf rounds) (others.drop acts.length) := by
      simpa using List.forall₂_drop acts.length alike
    obtain ⟨rounds', parts, later, courses'⟩ := ih behind courses
    refine ⟨⟨profile, others.take acts.length⟩ :: rounds', ?_,
      .cons (Round.alike_of_acts profile own) later,
      List.forall_mem_cons.2 ⟨⟨left, course.alike own⟩, courses'⟩⟩
    rw [actsOf_cons, ← parts, List.take_append_drop]

/-- The store answers at once: a cycle asks for the checkpoint in the world that its act before has
left. -/
def Prompt (acts : List Act) : Prop :=
  acts.IsChain fun act next => next.request = .checkpoint → next.site.world = act.after.world

/-- Whatever prompt cycles of a watch go on in the world with the first memory, go on in the same
way with the second one and leave the same world. -/
def World.Repeats (world : World) (desk other : Desk) : Prop :=
  ∀ rounds last, Succession Cycle.collect besideCollects ⟨world, desk⟩ rounds last →
    (∀ round ∈ rounds, Prompt round.acts) →
    ∃ others next, Succession Cycle.collect besideCollects ⟨world, other⟩ others next ∧
      List.Forall₂ Round.Alike rounds others ∧ next.world = last.world ∧
      next.desk.cancelled = last.desk.cancelled

namespace Succession

variable {start last : Site} {rounds : List Round}

/-- A prompt cycle asks for the checkpoint while the store is on, which just gave it a setting. -/
theorem ready (run : Succession Cycle.collect besideCollects start rounds last)
    (prompt : ∀ round ∈ rounds, Prompt round.acts) {act : Act} (mem : act ∈ actsOf rounds)
    (asks : act.request = .checkpoint) : act.site.world.store.available = true := by
  obtain ⟨site, request⟩ := act
  obtain rfl : request = .checkpoint := asks
  obtain ⟨⟨profile, acts⟩, among, mem⟩ := List.mem_flatMap.1 mem
  obtain ⟨left, course⟩ := run.courses _ among
  obtain ⟨before, behind, rfl⟩ := List.append_of_mem mem
  obtain ⟨front, reader, key, rfl, on⟩ := Cycle.collect_at_checkpoint course
  -- The last setting was read right before, and to read it did not switch the store off.
  have chain := prompt _ among
  rw [Prompt, List.append_assoc, List.singleton_append, List.isChain_append_cons_cons] at chain
  have left : site.world = (reader.world.transact (.getSetting key)).2 := chain.2.1 rfl
  rw [left, World.transact_getSetting]
  exact on

/-- Cycles that do not overlap go on in the same way whatever their watch remembers, if it is
right. -/
theorem repeats {world : World} {desk other : Desk}
    (like : Site.Like ⟨world, desk⟩ ⟨world, other⟩) : world.Repeats desk other := by
  intro rounds last run prompt
  obtain ⟨acts, next, joins, alike, same⟩ :=
    like.joins run.joins (run.asked Cycle.collect_asks) fun act mem => run.ready prompt mem
  obtain ⟨others, rfl, same_rounds, courses⟩ := exists_rounds_alike alike run.courses
  exact ⟨others, next, ⟨courses, joins⟩, same_rounds, same.world, same.cancelled⟩

end Succession

/-- The checkpoint in memory and the one in the store agree wherever collect cycles are the only
ones that write it. However they overlap, the watch is current, everything stored lies up to the
checkpoint and is there once, and the checkpoint only moves on to confirmed blocks. If they do not
overlap, no commit is in conflict, and a watch that was built again goes on like the old one. -/
theorem checkpoint_agrees {start : Site} (current : start.Current)
    (once : start.world.identities.Nodup) :
    (∀ before behind middle last,
      Abreast Cycle.collect besideCollects start (before ++ behind) last →
      besideCollects.Joins middle (behind.map Prod.snd) last →
      last.Current ∧ last.world.Sound start.world.store.events.length ∧
        MovesOn before behind middle.world last.world) ∧
    ∀ rounds last, Succession Cycle.collect besideCollects start rounds last →
      (∀ site logs window, ⟨site, .advance logs window⟩ ∈ actsOf rounds → ∀ text,
        (site.advance logs window).1 ≠ .error (.conflict text)) ∧
      (last.desk.cancelled = false →
        last.world.Repeats last.desk Desk.fresh ∧ last.world.Repeats Desk.fresh last.desk) := by
  refine ⟨fun before behind middle last run rest => ?_, fun rounds last run => ⟨?_, ?_⟩⟩
  · exact ⟨run.current current, run.sound once, run.movesOn rest⟩
  · exact fun site logs window mem => run.not_conflict current mem
  · intro working
    have like : last.Like ⟨last.world, Desk.fresh⟩ :=
      ⟨rfl, working.symm, run.current current, by rintro block ⟨⟩⟩
    exact ⟨Succession.repeats like, Succession.repeats like.symm⟩

namespace Sample

/-- A collect cycle that nothing disturbs. -/
def undisturbed : Program.Solo (Except CycleError Collected) :=
  (Cycle.collect client).run.alone closed

theorem undisturbed_acts : undisturbed.acts ≠ [] := fun none =>
  absurd (congrArg List.length none) (by decide +kernel)

/-- Its commit. -/
def commit : Act := undisturbed.acts.getLast undisturbed_acts

/-- Before the commit the chain has grown. -/
def later : Site :=
  { commit.site with
    world := { commit.site.world with chain := commit.site.world.chain.extendTo 31 } }

/-- A second cycle, which overtakes the first. -/
def overtaking : Program.Solo (Except CycleError Collected) :=
  (Cycle.collect client).run.alone later

/-- The commit of the first cycle behind the one of the second. -/
def overtaken : Act := ⟨overtaking.last, commit.request⟩

/-- The acts of both. -/
def overlap : List (Nat × Act) :=
  undisturbed.acts.dropLast.map (fun act => (0, act)) ++
    (overtaking.acts.map (fun act => (1, act)) ++ [(0, overtaken)])

theorem overlapping : Abreast Cycle.collect besideCollects closed overlap overtaken.after := by
  have parts : undisturbed.acts.dropLast ++ commit :: [] = undisturbed.acts :=
    List.dropLast_append_getLast undisturbed_acts
  have course : (Cycle.collect client).run.Course (undisturbed.acts.dropLast ++ [commit])
      (.done undisturbed.value) := by
    rw [parts]
    exact Program.alone_course _ closed
  have joins : besideCollects.Joins closed (undisturbed.acts.dropLast ++ commit :: [])
      undisturbed.last := by
    rw [parts]
    exact Freedom.alone_joins _ closed
  constructor
  · intro number
    have own : actsBy number overlap =
        (if 0 = number then undisturbed.acts.dropLast else []) ++
          ((if 1 = number then overtaking.acts else []) ++ if 0 = number then [overtaken] else []) := by
      simp only [overlap, actsBy_append, actsBy_map, actsBy_cons, actsBy_nil]
    rw [own]
    rcases number with _ | _ | number
    · obtain ⟨left, late⟩ := course.elsewhere overtaking.last
      exact ⟨client, left, late⟩
    · refine ⟨client, .done overtaking.value, ?_⟩
      show Program.Course _ (overtaking.acts ++ []) _
      rw [List.append_nil]
      exact Program.alone_course _ later
    · exact ⟨client, _, .rest _⟩
  · have grown : besideCollects.Stir commit.site later := .chain trivial
    have second : besideCollects.Joins later overtaking.acts overtaking.last :=
      Freedom.alone_joins _ later
    have last : besideCollects.Joins overtaking.last [overtaken] overtaken.after :=
      .act overtaken (.rest _)
    simpa [overlap, List.map_map, Function.comp_def] using
      joins.at.1.append (.stir grown (second.append last))

end Sample

/-- The overtaken cycle cannot commit, and the checkpoint stays with the one that overtook it; the
watch may be built again after its first cycle. -/
theorem checkpoint_of_overtaken :
    Sample.overtaken.after.Current ∧ Sample.overtaken.after.world.Sound 0 ∧
      MovesOn [] Sample.overlap Sample.closed.world Sample.overtaken.after.world ∧
      Sample.closed.world.store.checkpoint = .ok 0 ∧
      Sample.overtaken.after.world.store.checkpoint = .ok 31 ∧
      Sample.overtaken.after.world.store.events ≠ [] ∧
      Sample.undisturbed.last.world.Repeats Sample.undisturbed.last.desk Desk.fresh ∧
      Sample.undisturbed.last.desk ≠ Desk.fresh := by
  have current : Sample.closed.Current := by rintro block ⟨⟩
  obtain ⟨wherever, apart⟩ := checkpoint_agrees current (by decide +kernel)
  obtain ⟨agrees, sound, moves⟩ :=
    wherever [] Sample.overlap _ _ Sample.overlapping Sample.overlapping.joins
  have single : Succession Cycle.collect besideCollects Sample.closed
      [⟨Sample.client, Sample.undisturbed.acts⟩] Sample.undisturbed.last := by
    constructor
    · exact List.forall_mem_singleton.2 ⟨_, Program.alone_course _ _⟩
    · rw [actsOf_cons, actsOf, List.flatMap_nil, List.append_nil]
      exact Freedom.alone_joins _ Sample.closed
  have repeats := (apart _ _ single).2 (by decide +kernel)
  exact ⟨agrees, sound, moves, rfl, by decide +kernel, by decide +kernel, repeats.1,
    by decide +kernel⟩

end ChannelWatch
