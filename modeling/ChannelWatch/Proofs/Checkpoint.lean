import ChannelWatch.Proofs.Scan
import ChannelWatch.Proofs.Succession

/-!
# The checkpoint in memory and in the store

A watch keeps the checkpoint in its memory and as text in the store. As long as only its collect
cycles write it, however they overlap, the two agree (`Site.Current`), what was stored does not
lie beyond it (`World.Sound`), and it only moves on, to the end of a window that a cycle commits
(`MovesOn`).
-/

namespace ChannelWatch
set_option autoImplicit false

/-- The request writes the checkpoint of the store. -/
def Request.marks : Request → Prop
  | .advance _ _ | .store (.commitWindow _ _) => True
  | .store (.setSetting key _) => key = Settings.checkpointKey
  | _ => False

namespace Request

variable {request : Request}

/-- Collect cycles commit only in one way, and others do not. -/
theorem eq_advance (own : request.collects ∨ ¬ request.marks) (commits : request.commits) :
    ∃ logs window, request = .advance logs window := by
  cases request with
  | advance logs window => exact ⟨logs, window, rfl⟩
  | store t =>
    cases t with
    | commitWindow =>
      rcases own with collects | quiet
      · cases collects
      · exact absurd trivial quiet
    | _ => cases commits
  | _ => cases commits

/-- But for commits, neither collect cycles nor others write the checkpoint. -/
theorem not_marks (own : request.collects ∨ ¬ request.marks) (quiet : ¬ request.commits) :
    ¬ request.marks := by
  rcases own with collects | other
  · cases request with
    | store t => cases t <;> first | exact id | cases collects
    | advance => exact absurd trivial quiet
    | _ => exact id
  · exact other

end Request

/-- Around the collect cycles of a watch anything may happen but that somebody else writes the
checkpoint or that the watch is built again. -/
def besideCollects : Freedom where
  requests request := ¬ request.marks
  chains _ _ := True
  orders := True
  rebuilding := False

/-- The checkpoint that the watch remembers, if any, is that of the store. -/
def Site.Current (site : Site) : Prop :=
  ∀ block, site.desk.cached = some block → site.world.store.checkpoint = .ok block

namespace World

theorem checkpoint_of_makes {before after : World} {request : Request}
    (makes : request.Makes before after) (quiet : ¬ request.marks) :
    after.store.checkpoint = before.store.checkpoint := by
  have same : after.store.setting? Settings.checkpointKey =
      before.store.setting? Settings.checkpointKey := by
    cases makes with
    | setting key value =>
      have other : Settings.checkpointKey ≠ key := fun same => quiet same.symm
      rw [Store.setting?, Table.lookup_put, if_neg other]
      rfl
    | committed | advanced => exact absurd trivial quiet
    | maintained u => cases u <;> rfl
    | _ => rfl
  rw [Store.checkpoint, Store.checkpoint, same]

/-- Where nothing writes the checkpoint it stays. -/
theorem carries_checkpoint :
    besideCollects.Carries fun before after =>
      after.store.checkpoint = before.store.checkpoint where
  refl _ := rfl
  trans start rest := rest.trans start
  request site request may := checkpoint_of_makes (site.makes request) may
  chain _ _ _ := rfl
  queue _ _ _ _ := rfl

end World

namespace Site

/-- Where the store is on, a current watch is told what the text of the store says, whether it
remembers it or not. -/
theorem Current.told {site : Site} (current : site.Current)
    (on : site.world.store.available = true) :
    site.checkpoint.1 = Settings.orZero Settings.checkpointKey
      (site.world.store.setting? Settings.checkpointKey) := by
  unfold Site.checkpoint
  cases cached : site.desk.cached with
  | some known => exact (Store.checkpoint_eq_ok_iff.1 (current known cached)).symm
  | none =>
    rw [World.transact_eq]
    simp only [Store.transact, on, if_true, Store.grant]
    cases Settings.orZero Settings.checkpointKey
      (site.world.store.setting? Settings.checkpointKey) <;> rfl

/-- A current watch is told the checkpoint of the store. -/
theorem Current.checkpoint_eq {site : Site} (current : site.Current) {block : BlockNumber}
    (told : site.checkpoint.1 = .ok block) : site.world.store.checkpoint = .ok block := by
  cases on : site.world.store.available with
  | true => exact Store.checkpoint_eq_ok_iff.2 ((current.told on).symm.trans told)
  | false =>
    unfold Site.checkpoint at told
    cases cached : site.desk.cached with
    | some known =>
      rw [cached] at told
      rw [current known cached, Except.ok.inj told]
    | none =>
      rw [cached, World.transact_eq] at told
      simp [Store.transact, on] at told

theorem cached_perform (site : Site) {request : Request} (other : request ≠ .checkpoint)
    (quiet : ¬ request.commits) : (site.perform request).2.desk.cached = site.desk.cached := by
  cases request with
  | checkpoint => exact absurd rfl other
  | advance => exact absurd trivial quiet
  | _ => rfl

/-- A watch stays current: it remembers what it reads and what it commits. -/
theorem Current.perform {site : Site} (current : site.Current) {request : Request}
    (own : request.collects ∨ ¬ request.marks) : (site.perform request).2.Current := by
  by_cases commits : request.commits
  · obtain ⟨logs, window, rfl⟩ := Request.eq_advance own commits
    show (site.advance logs window).2.Current
    rcases site.advance_cases logs window with ⟨stored, _, done, -⟩ | ⟨e, refused, -⟩
    · rw [done]
      intro block cached
      rw [← Option.some.inj cached]
      exact World.checkpoint_commit ..
    · rwa [refused]
  · have same := World.checkpoint_of_makes (site.makes request) (Request.not_marks own commits)
    intro block cached
    rw [same]
    by_cases asks : request = .checkpoint
    · subst asks
      have cached : site.checkpoint.2.desk.cached = some block := cached
      rcases site.checkpoint_cases with kept | ⟨told, answer, remembered⟩
      · exact current block (kept ▸ cached)
      · rw [remembered] at cached
        rw [← Option.some.inj cached]
        exact current.checkpoint_eq answer
    · exact current block ((site.cached_perform asks commits).symm.trans cached)

end Site

namespace World

/-- Behind the first rows there are only logs up to the checkpoint that were not taken back, and
no log is stored twice. -/
structure Sound (count : Nat) (world : World) : Prop where
  there : count ≤ world.store.events.length
  once : world.identities.Nodup
  covered : ∀ row ∈ world.store.events.drop count, row.log.removed = false ∧
    ∃ checkpoint, world.store.checkpoint = .ok checkpoint ∧ row.log.block ≤ checkpoint

theorem sound_of_nodup {world : World} (once : world.identities.Nodup) :
    world.Sound world.store.events.length :=
  ⟨Nat.le_refl _, once, by simp⟩

/-- Only the sightings of the events and the checkpoint matter. -/
theorem Sound.of_same {count : Nat} {before after : World} (sound : before.Sound count)
    (sightings : after.store.events.map StoredEvent.sighting =
      before.store.events.map StoredEvent.sighting)
    (checkpoint : after.store.checkpoint = before.store.checkpoint) : after.Sound count where
  there := by
    have lengths := congrArg List.length sightings
    rw [List.length_map, List.length_map] at lengths
    exact lengths ▸ sound.there
  once := identities_of_sightings sightings ▸ sound.once
  covered row mem := by
    have seen : row.sighting ∈ (before.store.events.drop count).map StoredEvent.sighting := by
      rw [List.map_drop, ← sightings, ← List.map_drop]
      exact List.mem_map_of_mem mem
    obtain ⟨old, held, same⟩ := List.mem_map.1 seen
    have log : old.log = row.log := congrArg Prod.snd same
    rw [checkpoint, ← log]
    exact sound.covered old held

/-- A commit moves the checkpoint on, and what it stores lies up to there. -/
theorem Sound.commit {count : Nat} {world : World} (sound : world.Sound count) {logs : List Log}
    {checkpoint last : BlockNumber} (read : world.store.checkpoint = .ok checkpoint)
    (ahead : checkpoint ≤ last) (found : ∀ log ∈ logs, log.removed = false ∧ log.block ≤ last) :
    (world.commit logs last).Sound count := by
  obtain ⟨more, shape, fresh⟩ := Store.foldl_takeIn_appends logs (world.store.events, world.mint)
  have events : (world.commit logs last).store.events = world.store.events ++ more := shape
  refine ⟨?_, Store.nodup_identities_foldl logs _ sound.once, fun row mem => ?_⟩
  · rw [events, List.length_append]
    exact Nat.le_add_right_of_le sound.there
  · rw [events, List.drop_append_of_le_length sound.there] at mem
    rcases List.mem_append.1 mem with old | new
    · obtain ⟨stays, known, same, upto⟩ := sound.covered row old
      have one : known = checkpoint := Except.ok.inj (same.symm.trans read)
      exact ⟨stays, last, world.checkpoint_commit logs last, UInt64.le_trans (one ▸ upto) ahead⟩
    · obtain ⟨stays, upto⟩ := found row.log (fresh row new).1
      exact ⟨stays, last, world.checkpoint_commit logs last, upto⟩

theorem Sound.of_makes {count : Nat} {before after : World} {request : Request}
    (makes : request.Makes before after) (own : request.collects ∨ ¬ request.marks)
    (found : ∀ logs window, request = .advance logs window →
      ∀ log ∈ logs, log.removed = false ∧ log.block ≤ window.last)
    (sound : before.Sound count) : after.Sound count := by
  by_cases commits : request.commits
  · obtain ⟨logs, window, rfl⟩ := Request.eq_advance own commits
    cases makes with
    | same => exact sound
    | advanced _ _ read ahead => exact sound.commit read ahead (found logs window rfl)
  · exact sound.of_same (sightings_of_makes makes commits)
      (checkpoint_of_makes makes (Request.not_marks own commits))

theorem carries_sound (count : Nat) :
    besideCollects.Carries fun before after => before.Sound count → after.Sound count where
  refl _ := id
  trans start rest := rest ∘ start
  request site request may := by
    apply Sound.of_makes (site.makes request) (.inr may)
    rintro logs window rfl
    exact absurd trivial may
  chain _ _ _ := fun sound => sound.of_same rfl rfl
  queue _ _ _ _ := fun sound => sound.of_same rfl rfl

end World

namespace Site

theorem Current.stir {site next : Site} (current : site.Current)
    (stir : besideCollects.Stir site next) : next.Current := by
  cases stir with
  | beside may => exact current.perform (.inr may)
  | elsewhere desk may =>
    intro block cached
    rw [← current block cached]
    exact World.checkpoint_of_makes (Site.makes ⟨site.world, desk⟩ _) may
  | chain | queue | cancelled => exact current
  | rebuilt may => cases may

/-- The watch is current wherever its collect cycles are. -/
theorem Current.joins {first last : Site} {acts : List Act} (current : first.Current)
    (joins : besideCollects.Joins first acts last)
    (collects : ∀ act ∈ acts, act.request.collects) : last.Current := by
  induction joins with
  | rest => exact current
  | stir stir _ ih => exact ih (current.stir stir) collects
  | act act _ ih =>
    exact ih (current.perform (.inl (collects act (by simp)))) fun later mem =>
      collects later (by simp [mem])

end Site

/-- The act commits a window that is not empty and ends with the block, which the acts of its cycle
before have confirmed. -/
structure Act.MovesTo (act : Act) (own : List Act) (block : BlockNumber) : Prop where
  committed : ∃ logs window stored, act.request = .advance logs window ∧
    (act.site.advance logs window).1 = .ok stored ∧ window.isEmpty = false ∧ window.last = block
  confirmed : Confirms own block

/-- From one moment of a run to a later one the checkpoint has stayed, or it has moved on to a
block to which an act in between moves it. -/
def MovesOn (before behind : List (Nat × Act)) (middle last : World) : Prop :=
  last.store.checkpoint = middle.store.checkpoint ∨
    ∃ old block, middle.store.checkpoint = .ok old ∧ last.store.checkpoint = .ok block ∧
      old ≤ block ∧ ∃ early number act late, behind = early ++ (number, act) :: late ∧
        act.MovesTo (actsBy number (before ++ early)) block

/-- An act of a collect cycle leaves the checkpoint or moves it on. -/
theorem Site.checkpoint_perform (site : Site) {request : Request} (collects : request.collects) :
    (site.perform request).2.world.store.checkpoint = site.world.store.checkpoint ∨
      ∃ logs window stored checkpoint, request = .advance logs window ∧
        (site.advance logs window).1 = .ok stored ∧ site.world.store.checkpoint = .ok checkpoint ∧
        (site.perform request).2.world.store.checkpoint = .ok window.last ∧
        checkpoint ≤ window.last := by
  by_cases commits : request.commits
  · obtain ⟨logs, window, rfl⟩ := Request.eq_advance (.inl collects) commits
    have performed : (site.perform (.advance logs window)).2 = (site.advance logs window).2 := rfl
    rcases site.advance_cases logs window with ⟨stored, checkpoint, done, read, ahead⟩ | ⟨e, refused, -⟩
    · refine .inr ⟨logs, window, stored, checkpoint, rfl, by rw [done], read, ?_, ahead⟩
      rw [performed, done]
      exact World.checkpoint_commit ..
    · rw [performed, refused]
      exact .inl rfl
  · exact .inl (World.checkpoint_of_makes (site.makes request)
      (Request.not_marks (.inl collects) commits))

/-- Along acts of collect cycles the checkpoint stays, or moves on to the end of a window that one
of them commits. -/
theorem checkpoint_joins {first last : Site} {acts : List Act}
    (joins : besideCollects.Joins first acts last)
    (collects : ∀ act ∈ acts, act.request.collects) :
    last.world.store.checkpoint = first.world.store.checkpoint ∨
      ∃ act ∈ acts, ∃ logs window stored checkpoint, act.request = .advance logs window ∧
        (act.site.advance logs window).1 = .ok stored ∧
        first.world.store.checkpoint = .ok checkpoint ∧
        last.world.store.checkpoint = .ok window.last ∧ checkpoint ≤ window.last := by
  -- The last of the acts that move the checkpoint says where it is in the end.
  induction joins with
  | rest => exact .inl rfl
  | stir stir _ ih =>
    rw [← World.carries_checkpoint.stir stir]
    exact ih collects
  | act act _ ih =>
    have step := act.site.checkpoint_perform (collects act (by simp))
    rcases ih fun later mem => collects later (by simp [mem]) with
      kept | ⟨later, mem, logs, window, stored, middle, asked, done, read, moved, ahead⟩
    · rw [kept]
      rcases step with same | ⟨logs, window, stored, checkpoint, asked, done, read, moved, ahead⟩
      · exact .inl same
      · exact .inr ⟨act, by simp, logs, window, stored, checkpoint, asked, done, read, moved, ahead⟩
    · refine .inr ⟨later, by simp [mem], logs, window, stored, ?_⟩
      rcases step with same | ⟨-, first, -, checkpoint, -, -, old, new, on⟩
      · exact ⟨middle, asked, done, same ▸ read, moved, ahead⟩
      · have one : first.last = middle := Except.ok.inj (new.symm.trans read)
        exact ⟨checkpoint, asked, done, old, moved, UInt64.le_trans on (one ▸ ahead)⟩

namespace Abreast

variable {start last : Site} {acts : List (Nat × Act)}

/-- In a run of collect cycles, what is committed was found up to the end of its window. -/
theorem found (run : Abreast Cycle.collect besideCollects start acts last) {act : Act}
    (mem : act ∈ acts.map Prod.snd) (logs : List Log) (window : Window)
    (asked : act.request = .advance logs window) :
    ∀ log ∈ logs, log.removed = false ∧ log.block ≤ window.last := by
  obtain ⟨⟨number, site, request⟩, among, rfl⟩ := List.mem_map.1 mem
  obtain rfl : request = .advance logs window := asked
  obtain ⟨before, behind, parts⟩ := List.append_of_mem among
  obtain ⟨profile, left, course⟩ := run.at_act parts
  exact (Cycle.collect_at_advance course).1.logs

/-- Collect cycles that overlap leave their watch current. -/
theorem current (run : Abreast Cycle.collect besideCollects start acts last)
    (current : start.Current) : last.Current :=
  current.joins run.joins (run.asked Cycle.collect_asks)

/-- Collect cycles that overlap store nothing twice and nothing beyond the checkpoint. -/
theorem sound (run : Abreast Cycle.collect besideCollects start acts last)
    (once : start.world.identities.Nodup) :
    last.world.Sound start.world.store.events.length := by
  apply (World.carries_sound _).joins run.joins _ (World.sound_of_nodup once)
  intro act mem
  exact .of_makes (act.site.makes act.request) (.inl (run.asked Cycle.collect_asks act mem))
    (run.found mem)

/-- Between any two moments of a run the checkpoint stays or moves on. -/
theorem movesOn {middle : Site} {before behind : List (Nat × Act)}
    (run : Abreast Cycle.collect besideCollects start (before ++ behind) last)
    (rest : besideCollects.Joins middle (behind.map Prod.snd) last) :
    MovesOn before behind middle.world last.world := by
  have collects := run.asked Cycle.collect_asks
  rw [List.map_append] at collects
  rcases checkpoint_joins rest fun act mem => collects act (List.mem_append_right _ mem) with
    kept | ⟨act, mem, logs, window, stored, old, asked, done, read, moved, ahead⟩
  · exact .inl kept
  refine .inr ⟨old, window.last, read, moved, ahead, ?_⟩
  obtain ⟨⟨number, site, request⟩, among, rfl⟩ := List.mem_map.1 mem
  obtain rfl : request = .advance logs window := asked
  obtain ⟨early, late, rfl⟩ := List.append_of_mem among
  obtain ⟨profile, left, course⟩ := run.at_act (List.append_assoc ..).symm
  obtain ⟨scanned, full, -, -⟩ := Cycle.collect_at_advance course
  exact ⟨early, number, _, late, rfl, ⟨logs, window, stored, rfl, done, full, rfl⟩,
    scanned.confirmed⟩

end Abreast

namespace Succession

variable {start last : Site} {rounds : List Round}

/-- Collect cycles that do not overlap leave their watch current. -/
theorem current (run : Succession Cycle.collect besideCollects start rounds last)
    (current : start.Current) : last.Current :=
  current.joins run.joins (run.asked Cycle.collect_asks)

/-- Where collect cycles do not overlap, a commit meets the checkpoint that its cycle has read. -/
theorem not_conflict (run : Succession Cycle.collect besideCollects start rounds last)
    (current : start.Current) {site : Site} {logs : List Log} {window : Window}
    (mem : ⟨site, .advance logs window⟩ ∈ actsOf rounds) (text : String) :
    (site.advance logs window).1 ≠ .error (.conflict text) := by
  obtain ⟨before, behind, parts⟩ := List.append_of_mem mem
  have collects := run.asked Cycle.collect_asks
  obtain ⟨profile, earlier, own, rest, first, next, left, rfl, pre, course, joins, -⟩ :=
    run.at_act parts
  obtain ⟨scanned, -, quiet, -⟩ := Cycle.collect_at_advance course
  obtain ⟨early, reader, late, checkpoint, rfl, told, ahead⟩ := scanned.onward
  have reach : besideCollects.Joins start (earlier ++ early) reader :=
    pre.append (joins.at.1.at.1)
  have known : reader.world.store.checkpoint = .ok checkpoint := by
    refine Site.Current.checkpoint_eq (current.joins reach fun act among => ?_) told
    apply collects
    rw [parts]
    rcases List.mem_append.1 among with among | among <;> simp [among]
  -- From the read to the commit nobody writes the checkpoint: the commit comes last in its cycle.
  have kept : site.world.store.checkpoint = reader.world.store.checkpoint := by
    have same := World.carries_checkpoint.joins joins.at.1.at.2 fun act among =>
      World.checkpoint_of_makes (act.site.makes act.request) <|
        Request.not_marks (.inl (collects act (by rw [parts]; simp [among])))
          (quiet act (by simp [among]))
    rw [same]
    exact congrArg Store.checkpoint (congrArg World.store reader.checkpoint_world)
  rcases site.advance_cases logs window with ⟨stored, _, done, -⟩ | ⟨e, refused, why⟩
  · rw [done]
    simp
  · rw [refused]
    exact fun same => why checkpoint (kept.trans known) ahead text (Except.error.inj same)

end Succession

end ChannelWatch
