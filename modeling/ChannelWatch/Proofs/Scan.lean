import Mathlib.Data.List.Basic
import ChannelWatch.Proofs.Collect

/-!
# What a scan reads

A scan reads its bounds, the checkpoint and the last block, and puts a window between them.
`Scanned` is what is true of the window and of the logs that were found, whatever the chain and
the settings do meanwhile: the window ends with a confirmed block and not before the checkpoint
that was read, and only logs up to its end that were not taken back are found.
-/

namespace ChannelWatch
set_option autoImplicit false

/-- The text of a block number is read back. -/
theorem Settings.number?_decimal (block : BlockNumber) :
    Settings.number? (Numeral.decimal block.toNat) = some block := by
  have plain : ∀ c ∈ (Numeral.decimal block.toNat).toList, Text.isBlank c = false := by
    rw [Numeral.decimal, String.toList_ofList]
    refine Numeral.forall_mem_digits (by decide) ?_ block.toNat
    intro digit small
    have all : ∀ d : Fin 10, Text.isBlank (Hex.digit d.val) = false := by decide
    exact all ⟨digit, small⟩
  rw [Settings.number?, Text.trim_of_no_blank plain,
    Numeral.unsigned?_decimal block.toNat_lt_size, Option.map_some]
  simp

/-- The store and a cycle read the same number out of the text of the checkpoint. -/
theorem Store.checkpoint_eq_ok_iff {store : Store} {block : BlockNumber} :
    store.checkpoint = .ok block ↔
      Settings.orZero Settings.checkpointKey (store.setting? Settings.checkpointKey) = .ok block := by
  unfold Store.checkpoint Settings.orZero Settings.optional
  cases store.setting? Settings.checkpointKey with
  | none => simp [Except.map]
  | some text => cases number : Settings.number? text <;> simp [number, Except.map]

/-- After a commit the checkpoint is the end of the window. -/
theorem World.checkpoint_commit (world : World) (logs : List Log) (last : BlockNumber) :
    (world.commit logs last).store.checkpoint = .ok last := by
  have text : (world.commit logs last).store.setting? Settings.checkpointKey =
      some (Numeral.decimal last.toNat) := by
    rw [Store.setting?, World.commit, Table.lookup_put, if_pos rfl]
  rw [Store.checkpoint, text]
  simp only [Settings.number?_decimal]

namespace Window

variable (checkpoint head : BlockNumber) (limits : ScanLimits)

/-- The next window ends with a confirmed block. -/
theorem toNat_last_next_le :
    (next checkpoint head limits).last.toNat ≤ head.toNat - limits.minConfirmations.toNat := by
  rw [toNat_last_next]
  split <;> omega

/-- A window that is not empty ends no earlier than the checkpoint. -/
theorem le_last_next (ahead : (next checkpoint head limits).isEmpty = false) :
    checkpoint ≤ (next checkpoint head limits).last := by
  have bound := checkpoint.toNat_lt_size
  rw [isEmpty_eq_false_iff, toNat_first_next] at ahead
  rw [UInt64.le_iff_toNat_le]
  omega

end Window

/-- The acts read a last block and a number of confirmations that confirm the block. -/
def Confirms (acts : List Act) (block : BlockNumber) : Prop :=
  ∃ reader text minConfirmations looker head,
    ⟨reader, .store (.getSetting Settings.minConfirmationsKey)⟩ ∈ acts ∧
    (reader.world.transact (.getSetting Settings.minConfirmationsKey)).1 = .ok text ∧
    Settings.required Settings.minConfirmationsKey text = .ok minConfirmations ∧
    ⟨looker, .latestBlock⟩ ∈ acts ∧ looker.world.chain.latestBlock = .ok head ∧
    block.toNat ≤ head.toNat - minConfirmations.toNat

/-- What is true of a window and of the logs that a scan found in it. -/
structure Scanned (acts : List Act) (window : Window) (found : List Log) : Prop where
  confirmed : Confirms acts window.last
  /-- The window ends no earlier than the checkpoint that was read. -/
  onward : ∃ before site behind checkpoint, acts = before ++ ⟨site, .checkpoint⟩ :: behind ∧
    site.checkpoint.1 = .ok checkpoint ∧ checkpoint ≤ window.last
  logs : ∀ log ∈ found, log.removed = false ∧ log.block ≤ window.last

/-- The request is not the one for the checkpoint. -/
def Request.asksElse : Request → Prop
  | .checkpoint => False
  | _ => True

namespace Cycle

variable {acts : List Act} {profile : Profile}

/-- A setting that was read had its text in a store that was switched on. -/
theorem setting_gives {guard : Guard} {key : String}
    {interpret : String → Option String → Except CycleError BlockNumber} {value : BlockNumber}
    (given : (setting guard key interpret).Gives acts value) :
    ∃ site text, acts = [⟨site, .store (.getSetting key)⟩] ∧
      (site.world.transact (.getSetting key)).1 = .ok text ∧
      site.world.store.available = true ∧ interpret key text = .ok value := by
  obtain ⟨text, before, behind, rfl, read, interpreted⟩ := gives_bind_iff.1 given
  obtain ⟨site, rfl, granted⟩ := gives_transact_iff.1 read
  have on : site.world.store.available = true := by
    rw [World.transact_eq] at granted
    cases on : site.world.store.available with
    | false => simp [Store.transact, on] at granted
    | true => rfl
  cases meaning : interpret key text with
  | ok block =>
    rw [meaning] at interpreted
    obtain ⟨rfl, rfl⟩ := gives_pure_iff.1 interpreted
    exact ⟨site, text, rfl, granted, on, meaning⟩
  | error e =>
    rw [meaning] at interpreted
    cases (Program.course_done_iff.1 interpreted).2

/-- The bounds of a scan are read from a store that is on in the end. -/
theorem scanLimits_gives {guard : Guard} {limits : ScanLimits}
    (given : (scanLimits guard).Gives acts limits) :
    ∃ front reader text, acts = front ++ [⟨reader, .store (.getSetting Settings.blockLimitKey)⟩] ∧
      reader.world.store.available = true ∧
      ∃ confirming, ⟨confirming, .store (.getSetting Settings.minConfirmationsKey)⟩ ∈ acts ∧
        (confirming.world.transact (.getSetting Settings.minConfirmationsKey)).1 = .ok text ∧
        Settings.required Settings.minConfirmationsKey text = .ok limits.minConfirmations := by
  obtain ⟨minConfirmations, first, _, rfl, confirmations, given₁⟩ := gives_bind_iff.1 given
  obtain ⟨freshBlocks, second, _, rfl, fresh, given₂⟩ := gives_bind_iff.1 given₁
  obtain ⟨blockLimit, third, last, rfl, limit, given₃⟩ := gives_bind_iff.1 given₂
  obtain ⟨rfl, rfl⟩ := gives_pure_iff.1 given₃
  obtain ⟨confirming, text, rfl, granted, -, meaning⟩ := setting_gives confirmations
  obtain ⟨reader, -, rfl, -, on, -⟩ := setting_gives limit
  exact ⟨⟨confirming, .store (.getSetting Settings.minConfirmationsKey)⟩ :: second, reader, text,
    by simp, on, confirming, by simp, granted, meaning⟩

theorem scanLimits_asksElse (guard : Guard) : (scanLimits guard).Asks Request.asksElse := by
  have setting : ∀ key interpret, (setting guard key interpret).Asks Request.asksElse := by
    intro key interpret
    apply asks_bind (asks_transact _ trivial)
    intro text
    cases interpret key text <;> trivial
  exact asks_bind (setting _ _) fun _ => asks_bind (setting _ _) fun _ =>
    asks_bind (setting _ _) fun _ => asks_pure _

/-- Whatever the chain does, the logs of a query are selected and kept. -/
theorem mem_of_fetch_gives {locals : List Address} {query : Query} {found : List Log}
    (given : (fetch locals query).Gives acts found) {log : Log} (mem : log ∈ found) :
    query.selects log = true ∧ keeps query locals log = true := by
  unfold fetch at given
  split at given
  · obtain ⟨rfl, rfl⟩ := gives_pure_iff.1 given
    cases mem
  · obtain ⟨_, first, rest, rfl, -, given⟩ := gives_bind_iff.1 given
    obtain ⟨answer, second, last, rfl, asked, given⟩ := gives_bind_iff.1 given
    obtain ⟨rfl, rfl⟩ := gives_pure_iff.1 given
    obtain ⟨site, rfl, answered⟩ := gives_request_iff.1 (gives_demand_iff.1 asked)
    have answered : site.world.chain.answer query = .ok answer := answered
    rw [Chain.answer] at answered
    obtain ⟨among, kept⟩ := List.mem_filter.1 mem
    split at answered
    · cases answered
    · rw [← Except.ok.inj answered] at among
      exact ⟨(List.mem_filter.1 among).2, kept⟩

theorem mem_of_fetchAll_gives {locals : List Address} {queries : List Query} {found : List Log}
    (given : (fetchAll locals queries).Gives acts found) {log : Log} (mem : log ∈ found) :
    ∃ query ∈ queries, query.selects log = true ∧ keeps query locals log = true := by
  induction queries generalizing acts found with
  | nil =>
    obtain ⟨rfl, rfl⟩ := gives_pure_iff.1 given
    cases mem
  | cons query queries ih =>
    obtain ⟨first, before, rest, rfl, fetched, more⟩ := gives_bind_iff.1 given
    obtain ⟨others, behind, last, rfl, later, done⟩ := gives_bind_iff.1 more
    obtain ⟨rfl, rfl⟩ := gives_pure_iff.1 done
    rcases List.mem_append.1 mem with mem | mem
    · exact ⟨query, List.mem_cons_self, mem_of_fetch_gives fetched mem⟩
    · obtain ⟨other, among, holds⟩ := ih later mem
      exact ⟨other, List.mem_cons_of_mem _ among, holds⟩

theorem scan_scanned {window : Window} {found : List Log}
    (given : (scan profile).Gives acts (window, found)) (ahead : window.isEmpty = false) :
    Scanned acts window found := by
  obtain ⟨limits, first, _, rfl, limited, given₁⟩ := gives_bind_iff.1 given
  obtain ⟨checkpoint, second, _, rfl, read, given₂⟩ := gives_bind_iff.1 given₁
  obtain ⟨locals, third, _, rfl, listed, given₃⟩ := gives_bind_iff.1 given₂
  obtain ⟨head, fourth, rest, rfl, latest, given₄⟩ := gives_bind_iff.1 given₃
  obtain ⟨site, rfl, known⟩ := gives_request_iff.1 (gives_demand_iff.1 read)
  obtain ⟨looker, rfl, seen⟩ := gives_request_iff.1 (gives_demand_iff.1 latest)
  obtain ⟨-, -, text, -, -, confirming, among, granted, meaning⟩ := scanLimits_gives limited
  simp only at given₄
  have shape : window = Window.next checkpoint head limits ∧ ∀ log ∈ found, ∃ query ∈
      watchQueries profile.role profile.contracts locals window,
        query.selects log = true ∧ keeps query locals log = true := by
    split at given₄
    · obtain ⟨-, same⟩ := gives_pure_iff.1 given₄
      obtain ⟨rfl, rfl⟩ := Prod.mk.inj same
      exact ⟨rfl, by simp⟩
    · obtain ⟨logs, fifth, last, rfl, fetched, done⟩ := gives_bind_iff.1 given₄
      obtain ⟨rfl, same⟩ := gives_pure_iff.1 done
      obtain ⟨rfl, rfl⟩ := Prod.mk.inj same
      exact ⟨rfl, fun log mem => mem_of_fetchAll_gives fetched mem⟩
  obtain ⟨rfl, queried⟩ := shape
  refine ⟨⟨confirming, text, _, looker, head, by simp [among], granted, meaning, by simp, seen,
    Window.toNat_last_next_le checkpoint head limits⟩, ⟨first, site, _, checkpoint, rfl, known,
    Window.le_last_next checkpoint head limits ahead⟩, fun log mem => ?_⟩
  obtain ⟨query, asked, selected, kept⟩ := queried log mem
  have inside := ((query.selects_iff log).1 selected).1
  rw [window_of_mem_watchQueries asked] at inside
  have upto : log.block ≤ (Window.next checkpoint head limits).last := by
    simp only [Window.contains, Bool.and_eq_true, decide_eq_true_eq] at inside
    exact inside.2
  have stays : log.removed = false := by
    simp only [keeps, Bool.and_eq_true, Bool.not_eq_true'] at kept
    exact kept.1
  exact ⟨stays, upto⟩

/-- Before a collect cycle commits it has scanned, and then it is done. -/
theorem collect_at_advance {before behind : List Act} {site : Site} {found : List Log}
    {window : Window} {left : Program (Except CycleError Collected)}
    (course : (collect profile).run.Course (before ++ ⟨site, .advance found window⟩ :: behind) left) :
    Scanned before window found ∧ window.isEmpty = false ∧
      (∀ act ∈ before, ¬ act.request.commits) ∧ behind = [] := by
  rcases collect_course course with quiet | ⟨scanned, site', found', window', parts, given, ahead⟩
  · exact absurd trivial (quiet ⟨site, .advance found window⟩ (by simp))
  · have silent := scan_quiet given
    have single : ⟨site, .advance found window⟩ ∉ scanned := fun mem => silent _ mem trivial
    obtain ⟨rfl, same, none⟩ :=
      (List.append_cons_inj_of_notMem single (List.not_mem_nil)).1 parts.symm
    cases same
    exact ⟨scan_scanned given ahead, ahead, silent, none.symm⟩

/-- Before a scan asks for the checkpoint it has read its bounds. -/
theorem scan_at_checkpoint {before behind : List Act} {site : Site}
    {left : Program (Except CycleError (Window × List Log))}
    (course : (scan profile).run.Course (before ++ ⟨site, .checkpoint⟩ :: behind) left) :
    ∃ limits, (scanLimits .reading).Gives before limits := by
  have bounds : ∀ {acts left}, (scanLimits .reading).run.Course acts left →
      ⟨site, .checkpoint⟩ ∉ acts := fun run mem => run.asked (scanLimits_asksElse .reading) _ mem
  rcases course_bind course with ⟨first, run⟩ | ⟨limits, front, rest, parts, given, course⟩
  · exact absurd (by simp) (bounds run)
  -- Behind the bounds the checkpoint is asked for once, before anything else.
  have asked : rest = [] ∨ ∃ site' more, rest = ⟨site', .checkpoint⟩ :: more ∧
      ⟨site, .checkpoint⟩ ∉ more := by
    rcases course_bind course with ⟨first, run⟩ | ⟨checkpoint, own, more, rfl, known, tail⟩
    · obtain ⟨first, run⟩ := course_demand run
      rcases course_request run with rfl | ⟨site', rfl⟩
      · exact .inl rfl
      · exact .inr ⟨site', [], rfl, by simp⟩
    · obtain ⟨site', rfl, -⟩ := gives_request_iff.1 (gives_demand_iff.1 known)
      have later : ∀ act ∈ more, act.request.asksElse := by
        refine tail.asked ?_
        apply asks_bind (asks_transact _ trivial)
        intro locals
        apply asks_bind (asks_demand _ (asks_request _ trivial))
        intro head
        simp only
        split
        · exact asks_pure _
        · exact asks_bind (fetchAll_asks (fun _ => trivial) (fun _ => trivial) _ _)
            fun _ => asks_pure _
      exact .inr ⟨site', more, rfl, later _⟩
  rcases asked with rfl | ⟨site', more, rfl, once⟩
  · rw [List.append_nil] at parts
    exact absurd (by rw [← parts]; simp) (bounds given)
  · obtain ⟨rfl, -, -⟩ := (List.append_cons_inj_of_notMem (bounds given) once).1 parts.symm
    exact ⟨limits, given⟩

/-- Before a collect cycle asks for the checkpoint it has read a setting from the store. -/
theorem collect_at_checkpoint {before behind : List Act} {site : Site}
    {left : Program (Except CycleError Collected)}
    (course : (collect profile).run.Course (before ++ ⟨site, .checkpoint⟩ :: behind) left) :
    ∃ front reader key, before = front ++ [⟨reader, .store (.getSetting key)⟩] ∧
      reader.world.store.available = true := by
  have bounded : ∃ limits, (scanLimits .reading).Gives before limits := by
    rcases course_bind course with ⟨first, run⟩ | ⟨scanned, own, rest, parts, given, tail⟩
    · exact scan_at_checkpoint run
    have later : ∀ act ∈ rest, act.request.asksElse := by
      refine tail.asked ?_
      simp only
      split
      · exact asks_pure _
      · exact asks_bind (asks_demand _ (asks_request _ trivial)) fun _ => asks_pure _
    have none : ⟨site, .checkpoint⟩ ∉ rest := later _
    rcases List.append_eq_append_iff.1 parts with ⟨late, rfl, shape⟩ | ⟨late, -, shape⟩
    · cases late with
      | nil =>
        have shape : ⟨site, .checkpoint⟩ :: behind = rest := shape
        exact absurd (by simp [← shape]) none
      | cons head late =>
        obtain ⟨rfl, -⟩ := List.cons.inj shape
        exact scan_at_checkpoint given
    · exact absurd (by simp [shape]) none
  obtain ⟨limits, given⟩ := bounded
  obtain ⟨front, reader, -, parts, on, -⟩ := scanLimits_gives given
  exact ⟨front, reader, _, parts, on⟩

end Cycle

end ChannelWatch
