import ChannelWatch.Proofs.Remainder
import Mathlib.Logic.Hydra

/-!
# The turns of one moment

At one moment several tasks may be ready, and a turn of one may make others ready. A turn leaves
less to do at this moment, so whatever the order, the turns come to an end before time goes on:
`Stage.inevitably_of_ready`. What a scene does next is such a turn as long as some task is ready
(`Scene.step_goes`).
-/

namespace ChannelWatch
set_option autoImplicit false

theorem sum_map_modify_lt {α : Type} (size : α → Nat) {change : α → α} {entry : α}
    (less : size (change entry) < size entry) {entries : List α} {index : Nat}
    (found : entries[index]? = some entry) :
    ((entries.modify index change).map size).sum < (entries.map size).sum := by
  induction entries generalizing index with
  | nil => cases found
  | cons first entries ih =>
    cases index with
    | zero =>
      obtain rfl : first = entry := by simpa using found
      simpa using less
    | succ index =>
      have found : entries[index]? = some entry := by simpa using found
      simpa using ih found

theorem cutExpand_set {α : Type*} {r : α → α → Prop} {new old : α} (less : r new old)
    {entries : List α} {index : Nat} (found : entries[index]? = some old) :
    Relation.CutExpand r (entries.set index new) (entries : Multiset α) := by
  induction entries generalizing index with
  | nil => cases found
  | cons first entries ih =>
    cases index with
    | zero =>
      obtain rfl : first = old := by simpa using found
      exact Relation.cutExpand_single_add less entries
    | succ index => exact (Relation.cutExpand_add_left {first}).2 (ih (by simpa using found))

/-! ## Turns -/

/-- A timeline and the tasks on it. -/
structure Stage where
  timeline : Timeline
  tasks : List Task

namespace Stage

/-- The stage after a task had its turn; the task at `index` has the strand `index + 1`. -/
def turn (stage : Stage) (index : Nat) (task : Task) : Stage :=
  ⟨(task.resume (index + 1) stage.timeline).2,
    stage.tasks.set index (task.resume (index + 1) stage.timeline).1⟩

/-- From one stage to the next a task that is ready has its turn. -/
inductive Goes (stage : Stage) : Stage → Prop where
  | turn {index : Nat} {task : Task} (found : stage.tasks[index]? = some task)
      (ready : task.Ready stage.timeline (index + 1)) : Goes stage (stage.turn index task)

/-- Whatever the order in which the tasks that are ready have their turns, the stage comes to a
goal before time goes on. -/
inductive Inevitably (goal : Stage → Prop) : Stage → Prop where
  | here {stage : Stage} (reached : goal stage) : Inevitably goal stage
  | turn {stage next : Stage} (goes : stage.Goes next)
      (every : ∀ next, stage.Goes next → Inevitably goal next) : Inevitably goal stage

/-- How many errors wait at all posts together. -/
def waiting (stage : Stage) : Nat :=
  (stage.timeline.inboxes.map fun inbox => inbox.waiting.length).sum

/-- What is left at this moment: of the tasks, and of the errors that wait. -/
noncomputable def remainder (stage : Stage) :
    Multiset (Nat ×ₗ WithBot (Ordinal.{0} ×ₗ Nat)) × Nat :=
  (stage.tasks.map (Task.remainder stage.timeline.now), stage.waiting)

/-- There is less left: a task has got further, or fewer errors wait. -/
def Less : Multiset (Nat ×ₗ WithBot (Ordinal.{0} ×ₗ Nat)) × Nat →
    Multiset (Nat ×ₗ WithBot (Ordinal.{0} ×ₗ Nat)) × Nat → Prop :=
  Prod.Lex (Relation.CutExpand (· < ·)) (· < ·)

theorem wellFounded_less : WellFounded Less :=
  wellFounded_lt.cutExpand.prod_lex wellFounded_lt

/-- Less is left when a task gets further. -/
theorem less_of_further {stage : Stage} {index : Nat} {task : Task}
    (found : stage.tasks[index]? = some task)
    (further : (task.resume (index + 1) stage.timeline).1.remainder stage.timeline.now <
      task.remainder stage.timeline.now) :
    Less (stage.turn index task).remainder stage.remainder := by
  refine Prod.Lex.left _ _ ?_
  rw [turn, Task.now_resume, List.map_set]
  refine cutExpand_set further ?_
  rw [List.getElem?_map, found]
  rfl

/-- Less is left when an error is taken out. -/
theorem less_of_attend {stage : Stage} {index post : Nat}
    (found : stage.tasks[index]? = some (.attending post))
    (spared : stage.timeline.isCancelled post = false) {error : CycleError}
    {waiting : List CycleError}
    (oldest : (stage.timeline.post post).inbox.waiting = error :: waiting) :
    Less (stage.turn index (.attending post)).remainder stage.remainder := by
  have turned : stage.turn index (.attending post) =
      ⟨Task.attend post stage.timeline, stage.tasks⟩ := by
    obtain ⟨there, same⟩ := List.getElem?_eq_some_iff.1 found
    rw [turn, Task.resume, if_neg (by simp [spared]), ← same, List.set_getElem_self]
  rw [turned, remainder, remainder, Task.now_attend]
  refine Prod.Lex.right _ ?_
  rw [Stage.waiting, Stage.waiting, (Task.attend_undisturbed oldest).inboxes,
    Timeline.inboxes_alter _ _ (fun _ => ⟨waiting⟩) fun _ => rfl]
  refine sum_map_modify_lt _ ?_ (Timeline.inbox_of_waiting (by simp [oldest]))
  simp [oldest]

theorem Goes.now {stage next : Stage} (goes : stage.Goes next) :
    next.timeline.now = stage.timeline.now := by
  obtain ⟨found, -⟩ := goes
  exact Task.now_resume _ _ _

/-- A turn leaves less, if the task's ticker ticks once in a while. -/
theorem Goes.less {stage next : Stage} (paced : ∀ task ∈ stage.tasks, task.Paced)
    (goes : stage.Goes next) : Less next.remainder stage.remainder := by
  obtain ⟨found, ready⟩ := goes
  rename_i index task
  by_cases attends : ∀ post, task = .attending post → stage.timeline.isCancelled post = true
  · exact less_of_further found
      (Task.remainder_resume_lt (paced task (List.mem_of_getElem? found)) ready attends)
  · push Not at attends
    obtain ⟨post, rfl, spared⟩ := attends
    have spared : stage.timeline.isCancelled post = false := by simpa using spared
    obtain ⟨moment, ready, -⟩ := ready
    cases oldest : (stage.timeline.post post).inbox.waiting with
    | nil => simp [Task.readyAt, spared, oldest] at ready
    | cons error waiting => exact less_of_attend found spared oldest

/-- The turns of one moment come to an end: a goal is reached if until then some task is ready. -/
theorem inevitably_of_ready {goal : Stage → Prop} (kept : Stage → Prop)
    (paced : ∀ stage, kept stage → ∀ task ∈ stage.tasks, task.Paced)
    (keeps : ∀ stage next, kept stage → stage.Goes next → kept next)
    (ready : ∀ stage, kept stage → goal stage ∨ ∃ next, stage.Goes next) {stage : Stage}
    (start : kept stage) : Inevitably goal stage := by
  induction stage using (InvImage.wf remainder wellFounded_less).induction with
  | _ stage ih =>
    rcases ready stage start with reached | ⟨next, goes⟩
    · exact .here reached
    · exact .turn goes fun next goes =>
        ih next (goes.less (paced stage start)) (keeps stage next start goes)

end Stage

/-! ## What a scene does next -/

theorem soonest_eq_none {entries : List (Nat × Strand)} (none : soonest entries = none) :
    entries = [] := by
  cases entries with
  | nil => rfl
  | cons entry entries =>
    unfold soonest at none
    split at none <;> cases none

/-- The one that is chosen comes before all that are as early, and none is earlier. -/
theorem soonest_eq_some {entries : List (Nat × Strand)} {best : Nat × Strand}
    (chosen : soonest entries = some best) :
    ∃ before behind, entries = before ++ best :: behind ∧
      (∀ entry ∈ before, best.1 < entry.1) ∧ ∀ entry ∈ behind, best.1 ≤ entry.1 := by
  induction entries generalizing best with
  | nil => cases chosen
  | cons entry entries ih =>
    unfold soonest at chosen
    cases later : soonest entries with
    | none =>
      rw [later] at chosen
      obtain rfl : entry = best := Option.some.inj chosen
      rw [soonest_eq_none later]
      exact ⟨[], [], rfl, by simp, by simp⟩
    | some other =>
      obtain ⟨before, behind, rfl, ahead, after⟩ := ih later
      rw [later] at chosen
      simp only [Option.some.injEq] at chosen
      split at chosen
      · rename_i sooner
        subst chosen
        exact ⟨entry :: before, behind, rfl, List.forall_mem_cons.2 ⟨sooner, ahead⟩, after⟩
      · rename_i late
        subst chosen
        have late := Nat.not_lt.1 late
        refine ⟨[], _, rfl, by simp, fun one mem => ?_⟩
        rcases List.mem_append.1 mem with mem | mem
        · exact late.trans (ahead one mem).le
        rcases List.mem_cons.1 mem with rfl | mem
        · exact late
        · exact late.trans (after one mem)

namespace Scene

variable {α : Type}

/-- The stage of a scene. -/
def stage (scene : Scene α) : Stage := ⟨scene.timeline, scene.tasks⟩

/-- From one scene to another by what the scenes do next. -/
inductive Reaches : Scene α → Scene α → Prop where
  | rest (scene : Scene α) : Reaches scene scene
  | step {scene next last : Scene α} (stepped : scene.step = some next)
      (rest : Reaches next last) : Reaches scene last

/-- The strands of the tasks that can go on, with their moments. -/
def taskCandidates (scene : Scene α) : List (Nat × Strand) :=
  (scene.tasks.zipIdx.filterMap fun (task, i) =>
    (task.readyAt scene.timeline (i + 1)).map fun moment => (moment, i + 1)).map
      fun (moment, strand) => (max moment scene.timeline.now, strand)

/-- The foreground comes behind the tasks. -/
theorem candidates_eq (scene : Scene α) :
    scene.candidates = scene.taskCandidates ++ (scene.foregroundReadyAt.map fun moment =>
      (max moment scene.timeline.now, Foreground.strand)).toList := by
  rw [candidates, List.map_append, taskCandidates]
  cases scene.foregroundReadyAt <;> rfl

theorem mem_taskCandidates {scene : Scene α} {entry : Nat × Strand} :
    entry ∈ scene.taskCandidates ↔
      ∃ index task moment, scene.tasks[index]? = some task ∧
        task.readyAt scene.timeline (index + 1) = some moment ∧
        entry = (max moment scene.timeline.now, index + 1) := by
  simp only [taskCandidates, List.mem_map, List.mem_filterMap, Prod.exists,
    List.mk_mem_zipIdx_iff_getElem?, Option.map_eq_some_iff, Prod.mk.injEq]
  constructor
  · rintro ⟨_, _, ⟨task, index, found, moment, ready, rfl, rfl⟩, rfl⟩
    exact ⟨index, task, moment, found, ready, rfl⟩
  · rintro ⟨index, task, moment, found, ready, rfl⟩
    exact ⟨moment, index + 1, ⟨task, index, found, moment, ready, rfl, rfl⟩, rfl⟩

/-- No strand goes on in the past. -/
theorem now_le_of_mem_candidates {scene : Scene α} {entry : Nat × Strand}
    (mem : entry ∈ scene.candidates) : scene.timeline.now ≤ entry.1 := by
  obtain ⟨⟨moment, strand⟩, -, rfl⟩ := List.mem_map.1 mem
  exact Nat.le_max_right _ _

/-- If some task is ready, the strand that is chosen is that of a task that is ready. -/
theorem chosen_of_ready {scene : Scene α} {entry : Nat × Strand}
    (listed : entry ∈ scene.taskCandidates) (now : entry.1 = scene.timeline.now) :
    ∃ best, soonest scene.candidates = some best ∧ best ∈ scene.taskCandidates ∧
      best.1 = scene.timeline.now := by
  have mem : entry ∈ scene.candidates := by
    rw [candidates_eq]
    exact List.mem_append_left _ listed
  cases chosen : soonest scene.candidates with
  | none =>
    rw [soonest_eq_none chosen] at mem
    cases mem
  | some best =>
    obtain ⟨before, behind, whole, ahead, after⟩ := soonest_eq_some chosen
    have least : scene.timeline.now ≤ best.1 :=
      now_le_of_mem_candidates (by rw [whole]; simp)
    -- nothing that is ready now is listed before the one that is chosen
    have late : entry ∉ before := fun mem => by
      have earlier := ahead entry mem
      omega
    refine ⟨best, rfl, ?_, le_antisymm ?_ least⟩
    · rw [candidates_eq] at whole
      rcases List.append_eq_append_iff.1 whole with ⟨more, rfl, -⟩ | ⟨rest, tasks, others⟩
      · exact absurd (List.mem_append_left _ listed) late
      · cases rest with
        | nil =>
          rw [tasks, List.append_nil] at listed
          exact absurd listed late
        | cons first rest =>
          obtain rfl : best = first := (List.cons.inj others).1
          rw [tasks]
          simp
    · rw [whole] at mem
      rcases List.mem_append.1 mem with mem | mem
      · exact absurd mem late
      rcases List.mem_cons.1 mem with rfl | mem
      · exact now.le
      · exact (after entry mem).trans now.le

theorem step_eq {scene : Scene α} {moment : Nat} {strand : Strand}
    (chosen : soonest scene.candidates = some (moment, strand)) :
    scene.step = some ({ scene with timeline := scene.timeline.goOn moment }.resume strand) := by
  rw [step, chosen]
  rfl

theorem stage_resume {scene : Scene α} {index : Nat} {task : Task}
    (found : scene.tasks[index]? = some task) :
    (scene.resume (index + 1)).stage = scene.stage.turn index task := by
  have behind : index + 1 ≠ Foreground.strand := Nat.succ_ne_zero index
  rw [resume, if_neg behind, Nat.add_sub_cancel, found]
  rfl

theorem resume_of_missing {scene : Scene α} {index : Nat} (missing : scene.tasks[index]? = none) :
    scene.resume (index + 1) = scene := by
  have behind : index + 1 ≠ Foreground.strand := Nat.succ_ne_zero index
  rw [resume, if_neg behind, Nat.add_sub_cancel, missing]

/-- As long as some task is ready, what a scene does next is the turn of such a task. -/
theorem step_goes {scene : Scene α} {ahead : Stage} (goes : scene.stage.Goes ahead) :
    ∃ next, scene.step = some next ∧ scene.stage.Goes next.stage := by
  obtain ⟨found, moment, ready, come⟩ := goes
  rename_i index task
  obtain ⟨best, chosen, listed, now⟩ := chosen_of_ready
    (mem_taskCandidates.2 ⟨index, task, moment, found, ready, rfl⟩) (Nat.max_eq_right come)
  obtain ⟨index, task, moment, found, ready, rfl⟩ := mem_taskCandidates.1 listed
  have now : max moment scene.timeline.now = scene.timeline.now := now
  have stays : scene.timeline.goOn (max moment scene.timeline.now) = scene.timeline := by
    rw [Timeline.goOn, now, Nat.max_self]
  refine ⟨_, step_eq chosen, ?_⟩
  rw [stays, stage_resume found]
  exact .turn found ⟨moment, ready, max_eq_right_iff.1 now⟩

/-- What is inevitable is reached by what a scene does next. -/
theorem reaches_of_inevitably {goal : Stage → Prop} {stage : Stage}
    (inevitably : Stage.Inevitably goal stage) {scene : Scene α} (same : scene.stage = stage) :
    ∃ last, scene.Reaches last ∧ goal last.stage := by
  induction inevitably generalizing scene with
  | here reached =>
    subst same
    exact ⟨scene, .rest scene, reached⟩
  | turn goes _ ih =>
    subst same
    obtain ⟨next, stepped, goes⟩ := step_goes goes
    obtain ⟨last, reaches, reached⟩ := ih next.stage goes rfl
    exact ⟨last, .step stepped reaches, reached⟩

end Scene

end ChannelWatch
