import Mathlib.Data.List.Basic
import ChannelWatch.Window

/-!
# Walks over the chain

A walk is one cycle after the other, each with the last block and the limits that it finds, and
each on from where the one before it got to. `Walk.ScansOnce` says how the windows of a walk lie:
no block is scanned twice, and one that is passed without being scanned was too old for the
freshness bound of a cycle. `Walk.CatchesUp` says where cycles get to that all find the same. The
main statements are `scans_once` and `catchesUp_iff`.
-/

namespace ChannelWatch
set_option autoImplicit false

namespace BlockNumber

/-- The sum, if it fits into the 64 bits. -/
def sum? (a b : BlockNumber) : Option BlockNumber :=
  if a.toNat + b.toNat < UInt64.size then some (a + b) else none

/-- The difference, if there is no borrow. -/
def difference? (a b : BlockNumber) : Option BlockNumber := if b ≤ a then some (a - b) else none

theorem sum?_eq_some {a b : BlockNumber} (fits : a.toNat + b.toNat < UInt64.size) :
    sum? a b = some (a + b) :=
  if_pos fits

theorem difference?_eq_some {a b : BlockNumber} (le : b ≤ a) : difference? a b = some (a - b) :=
  if_pos le

theorem succ_eq_add {block : BlockNumber} (below : block.toNat + 1 < UInt64.size) :
    succ block = block + 1 := by
  apply UInt64.toNat_inj.1
  rw [toNat_succ, UInt64.toNat_add]
  have one : (1 : UInt64).toNat = 1 := rfl
  have size : UInt64.size = 2 ^ 64 := rfl
  omega

end BlockNumber

/-- The next window in checked arithmetic: there is none if a sum or a difference leaves the 64
bits, those apart that are to end at zero. -/
def Window.checked? (checkpoint head : BlockNumber) (limits : ScanLimits) : Option Window := do
  let last := BlockNumber.back head limits.minConfirmations
  let succ ← BlockNumber.sum? checkpoint 1
  let first :=
    if limits.freshBlocks = 0 then succ else max succ (BlockNumber.back last limits.freshBlocks)
  if limits.blockLimit ≠ 0 ∧ first < last then
    let width ← BlockNumber.difference? last first
    if limits.blockLimit < width then
      let limited ← BlockNumber.sum? first limits.blockLimit
      return ⟨first, limited⟩
    else return ⟨first, last⟩
  else return ⟨first, last⟩

theorem Window.checked?_eq {checkpoint : BlockNumber} (below : checkpoint.toNat + 1 < UInt64.size)
    (head : BlockNumber) (limits : ScanLimits) :
    checked? checkpoint head limits = some (next checkpoint head limits) := by
  have one : (1 : UInt64).toNat = 1 := rfl
  unfold checked? next
  rw [BlockNumber.sum?_eq_some (by rwa [one]), ← BlockNumber.succ_eq_add below]
  simp only [Option.bind_eq_bind, Option.bind_some]
  generalize BlockNumber.back head limits.minConfirmations = last
  generalize (if limits.freshBlocks = 0 then BlockNumber.succ checkpoint
      else max (BlockNumber.succ checkpoint) (BlockNumber.back last limits.freshBlocks)) = first
  by_cases ahead : limits.blockLimit ≠ 0 ∧ first < last
  · rw [if_pos ahead, BlockNumber.difference?_eq_some (UInt64.le_of_lt ahead.2), Option.bind_some]
    by_cases short : limits.blockLimit < last - first
    · have gap := UInt64.lt_iff_toNat_lt.1 short
      rw [UInt64.toNat_sub_of_le _ _ (UInt64.le_of_lt ahead.2)] at gap
      have bound := last.toNat_lt_size
      rw [if_pos short, if_pos ⟨ahead.1, ahead.2, short⟩, BlockNumber.sum?_eq_some (by omega)]
      rfl
    · rw [if_neg short, if_neg fun limited => short limited.2.2]
      rfl
  · rw [if_neg ahead, if_neg fun limited => ahead ⟨limited.1, limited.2.1⟩]
    rfl

/-- What a cycle finds: the last block of the chain, and the limits. -/
structure Outlook where
  head : BlockNumber
  limits : ScanLimits
deriving DecidableEq

namespace Outlook

/-- The height of the last block that has enough confirmations. -/
def confirmed (outlook : Outlook) : Nat :=
  outlook.head.toNat - outlook.limits.minConfirmations.toNat

/-- The height below which blocks are too old. -/
def stale (outlook : Outlook) : Nat := outlook.confirmed - outlook.limits.freshBlocks.toNat

end Outlook

/-- A cycle of a walk: where it starts, and what it finds. -/
structure Leg extends Outlook where
  checkpoint : BlockNumber
deriving DecidableEq

/-- The cycle that starts from a checkpoint. -/
def Outlook.leg (outlook : Outlook) (checkpoint : BlockNumber) : Leg := { outlook with checkpoint }

namespace Leg

variable (leg : Leg)

/-- The blocks that the cycle scans. -/
def window : Window := .next leg.checkpoint leg.head leg.limits

/-- The checkpoint after the cycle. -/
def reached : BlockNumber := (Window.advance leg.checkpoint leg.head leg.limits).2

/-- The window that the cycle would scan if it had no limit. -/
def wide : Window := .next leg.checkpoint leg.head { leg.limits with blockLimit := 0 }

/-- The cycle passes the block without scanning it, because the block is too old. -/
structure Skips (block : BlockNumber) : Prop where
  bounded : leg.limits.freshBlocks ≠ 0
  scans : leg.window.isEmpty = false
  above : leg.checkpoint < block
  old : block.toNat < leg.stale
  first : leg.window.first.toNat = leg.stale

theorem toNat_reached :
    leg.reached.toNat =
      if leg.window.isEmpty then leg.checkpoint.toNat else leg.window.last.toNat := by
  show (if leg.window.isEmpty then leg.checkpoint else leg.window.last).toNat = _
  split <;> rfl

theorem toNat_first :
    leg.window.first.toNat = max (min (leg.checkpoint.toNat + 1) (UInt64.size - 1))
      (if leg.limits.freshBlocks = 0 then 0 else leg.stale) :=
  Window.toNat_first_next _ _ _

theorem toNat_last :
    leg.window.last.toNat =
      if leg.limits.blockLimit = 0 then leg.confirmed
      else min leg.confirmed (leg.window.first.toNat + leg.limits.blockLimit.toNat) :=
  Window.toNat_last_next _ _ _

theorem last_le_confirmed : leg.window.last.toNat ≤ leg.confirmed := by
  rw [toNat_last]
  split <;> omega

theorem width_le (some_limit : leg.limits.blockLimit ≠ 0) :
    leg.window.last.toNat - leg.window.first.toNat ≤ leg.limits.blockLimit.toNat := by
  rw [toNat_last, if_neg some_limit]
  omega

theorem width_eq (some_limit : leg.limits.blockLimit ≠ 0)
    (wider : leg.limits.blockLimit.toNat < leg.wide.last.toNat - leg.wide.first.toNat) :
    leg.window.last.toNat - leg.window.first.toNat = leg.limits.blockLimit.toNat := by
  have first : leg.wide.first.toNat = leg.window.first.toNat := by
    rw [toNat_first]
    exact Window.toNat_first_next _ _ _
  have last : leg.wide.last.toNat = leg.confirmed := by
    rw [wide, Window.toNat_last_next, if_pos rfl]
    rfl
  rw [first, last] at wider
  rw [toNat_last, if_neg some_limit]
  omega

/-- A window that is not empty starts behind the checkpoint. -/
theorem checkpoint_lt_first (below : leg.checkpoint.toNat + 1 < UInt64.size) :
    leg.checkpoint.toNat < leg.window.first.toNat := by
  rw [toNat_first]
  omega

theorem checkpoint_le_reached (below : leg.checkpoint.toNat + 1 < UInt64.size) :
    leg.checkpoint.toNat ≤ leg.reached.toNat := by
  have behind := leg.checkpoint_lt_first below
  rw [toNat_reached]
  split
  · exact Nat.le_refl _
  · rename_i ahead
    rw [Bool.not_eq_true, Window.isEmpty_eq_false_iff] at ahead
    omega

/-- What a cycle scans lies between the checkpoints on its two sides. -/
theorem between (below : leg.checkpoint.toNat + 1 < UInt64.size) {block : BlockNumber}
    (inside : leg.window.contains block = true) :
    leg.checkpoint.toNat < block.toNat ∧ block.toNat ≤ leg.reached.toNat := by
  have behind := leg.checkpoint_lt_first below
  rw [Window.contains_iff] at inside
  have ahead : leg.window.isEmpty = false :=
    (Window.isEmpty_eq_false_iff _).2 (Nat.le_trans inside.1 inside.2)
  rw [toNat_reached, ahead]
  exact ⟨by omega, inside.2⟩

/-- A cycle scans what it passes, or finds it too old. -/
theorem contains_or_skips {block : BlockNumber} (above : leg.checkpoint.toNat < block.toNat)
    (passed : block.toNat ≤ leg.reached.toNat) :
    leg.window.contains block = true ∨ leg.window.contains block = false ∧ leg.Skips block := by
  rw [toNat_reached] at passed
  split at passed
  · omega
  · rename_i ahead
    rw [Bool.not_eq_true] at ahead
    by_cases late : leg.window.first.toNat ≤ block.toNat
    · exact .inl ((Window.contains_iff _ _).2 ⟨late, passed⟩)
    · have outside : leg.window.contains block = false := by
        rw [← Bool.not_eq_true, Window.contains_iff]
        omega
      have first := leg.toNat_first
      by_cases bounded : leg.limits.freshBlocks = 0
      · rw [if_pos bounded] at first
        omega
      · rw [if_neg bounded] at first
        refine .inr ⟨outside, bounded, ahead, UInt64.lt_iff_toNat_lt.2 above, ?_, ?_⟩ <;> omega

/-- A window that is not empty starts behind the checkpoint, if it ends below the highest block
number. -/
theorem progress (short : leg.confirmed + 1 < UInt64.size) (ahead : leg.window.isEmpty = false) :
    leg.checkpoint.toNat < leg.window.first.toNat := by
  rw [Window.isEmpty_eq_false_iff] at ahead
  have top := leg.last_le_confirmed
  rw [toNat_first] at ahead ⊢
  omega

/-- There is nothing to scan once the checkpoint is at the last confirmed block, and only then. -/
theorem isEmpty_window_iff (short : leg.confirmed + 1 < UInt64.size) :
    leg.window.isEmpty = true ↔ leg.confirmed ≤ leg.checkpoint.toNat := by
  have bound := leg.checkpoint.toNat_lt_size
  have stale : leg.stale ≤ leg.confirmed := Nat.sub_le _ _
  rw [Window.isEmpty_iff, toNat_last, toNat_first]
  split <;> split <;> omega

/-- Where the highest block number is confirmed, there is always something to scan. -/
theorem isEmpty_window_of_full (full : UInt64.size ≤ leg.confirmed + 1) :
    leg.window.isEmpty = false := by
  have bound := leg.window.first.toNat_lt_size
  rw [Window.isEmpty_eq_false_iff, toNat_last]
  split <;> omega

end Leg

namespace Walk

/-- The cycles of a walk. -/
def legs : BlockNumber → List Outlook → List Leg
  | _, [] => []
  | checkpoint, outlook :: outlooks =>
    outlook.leg checkpoint :: legs (outlook.leg checkpoint).reached outlooks

/-- The checkpoint that a walk gets to. -/
def reached : BlockNumber → List Outlook → BlockNumber
  | checkpoint, [] => checkpoint
  | checkpoint, outlook :: outlooks => reached (outlook.leg checkpoint).reached outlooks

/-- The windows of a walk that are not empty. -/
def scanned (start : BlockNumber) (outlooks : List Outlook) : List Window :=
  ((legs start outlooks).map Leg.window).filter fun window => !window.isEmpty

/-- How many cycles of a walk scan a block. -/
def scans (start : BlockNumber) (outlooks : List Outlook) (block : BlockNumber) : Nat :=
  (legs start outlooks).countP fun leg => leg.window.contains block

/-- Every cycle of a walk starts below the highest block number. -/
def Below (start : BlockNumber) (outlooks : List Outlook) : Prop :=
  ∀ leg ∈ legs start outlooks, leg.checkpoint.toNat + 1 < UInt64.size

instance (start : BlockNumber) (outlooks : List Outlook) : Decidable (Below start outlooks) :=
  inferInstanceAs (Decidable (∀ leg ∈ legs start outlooks, _))

/-- How the windows of a walk lie. -/
structure ScansOnce (start : BlockNumber) (outlooks : List Outlook) : Prop where
  /-- No operation on block numbers wraps around. -/
  exact : ∀ leg ∈ legs start outlooks,
    Window.checked? leg.checkpoint leg.head leg.limits = some leg.window
  ascending : (scanned start outlooks).Pairwise fun a b => a.last < b.first
  disjoint : (scanned start outlooks).Pairwise fun a b =>
    ∀ block, ¬ (a.contains block = true ∧ b.contains block = true)
  confirmed : ∀ leg ∈ legs start outlooks, leg.window.last.toNat ≤ leg.confirmed
  limited : ∀ leg ∈ legs start outlooks, leg.limits.blockLimit ≠ 0 →
    leg.window.last.toNat - leg.window.first.toNat ≤ leg.limits.blockLimit.toNat
  /-- A window that would be wider is as wide as the limit. -/
  filled : ∀ leg ∈ legs start outlooks, leg.limits.blockLimit ≠ 0 →
    leg.limits.blockLimit.toNat < leg.wide.last.toNat - leg.wide.first.toNat →
      leg.window.last.toNat - leg.window.first.toNat = leg.limits.blockLimit.toNat
  /-- Only blocks that the walk passes are scanned. -/
  within : ∀ leg ∈ legs start outlooks, ∀ block, leg.window.contains block = true →
    start < block ∧ block ≤ reached start outlooks
  /-- A block that the walk passes lies in one window, or in none and was too old for a cycle. -/
  covered : ∀ block, start < block → block ≤ reached start outlooks →
    scans start outlooks block = 1 ∨
      scans start outlooks block = 0 ∧ ∃ leg ∈ legs start outlooks, leg.Skips block

/-- A walk whose limits stay is one that finds them in every cycle. -/
theorem walk_eq (limits : ScanLimits) (start : BlockNumber) (heads : List BlockNumber) :
    Window.walk limits start heads = (legs start (heads.map (⟨·, limits⟩))).map Leg.window := by
  induction heads generalizing start with
  | nil => rfl
  | cons head heads ih => exact congrArg (_ :: ·) (ih _)

section

variable {start : BlockNumber} {outlook : Outlook} {outlooks : List Outlook}

theorem Below.first (below : Below start (outlook :: outlooks)) :
    start.toNat + 1 < UInt64.size :=
  below _ List.mem_cons_self

theorem Below.rest (below : Below start (outlook :: outlooks)) :
    Below (outlook.leg start).reached outlooks :=
  fun leg mem => below leg (List.mem_cons_of_mem _ mem)

/-- A walk does not go back. -/
theorem start_le_reached (below : Below start outlooks) :
    start.toNat ≤ (reached start outlooks).toNat := by
  induction outlooks generalizing start with
  | nil => exact Nat.le_refl _
  | cons outlook outlooks ih =>
    exact Nat.le_trans ((outlook.leg start).checkpoint_le_reached below.first)
      (ih below.rest)

/-- Every cycle lies between the two ends of the walk. -/
theorem ends_of_mem (below : Below start outlooks) {leg : Leg} (mem : leg ∈ legs start outlooks) :
    start.toNat ≤ leg.checkpoint.toNat ∧ leg.reached.toNat ≤ (reached start outlooks).toNat := by
  induction outlooks generalizing start with
  | nil => cases mem
  | cons outlook outlooks ih =>
    have onward := (outlook.leg start).checkpoint_le_reached below.first
    rcases List.mem_cons.1 mem with rfl | mem
    · exact ⟨Nat.le_refl _, start_le_reached below.rest⟩
    · have later := ih below.rest mem
      exact ⟨Nat.le_trans onward later.1, later.2⟩

/-- What a walk scans lies between its two ends. -/
theorem between_of_mem (below : Below start outlooks) {leg : Leg}
    (mem : leg ∈ legs start outlooks) {block : BlockNumber}
    (inside : leg.window.contains block = true) :
    start.toNat < block.toNat ∧ block.toNat ≤ (reached start outlooks).toNat := by
  have own := leg.between (below leg mem) inside
  have ends := ends_of_mem below mem
  omega

theorem scans_cons (block : BlockNumber) :
    scans start (outlook :: outlooks) block =
      scans (outlook.leg start).reached outlooks block +
        if (outlook.leg start).window.contains block then 1 else 0 :=
  List.countP_cons

/-- A walk scans nothing at or below the block that it starts from. -/
theorem scans_eq_zero (below : Below start outlooks) {block : BlockNumber}
    (behind : block.toNat ≤ start.toNat) : scans start outlooks block = 0 := by
  rw [scans, List.countP_eq_zero]
  intro leg mem inside
  have between := between_of_mem below mem inside
  omega

/-- Each window ends before the next one starts. -/
theorem pairwise_scanned (below : Below start outlooks) :
    (scanned start outlooks).Pairwise fun a b => a.last < b.first := by
  induction outlooks generalizing start with
  | nil => exact .nil
  | cons outlook outlooks ih =>
    have tail := ih below.rest
    cases empty : (outlook.leg start).window.isEmpty with
    | true =>
      have same : scanned start (outlook :: outlooks) = scanned _ outlooks :=
        List.filter_cons_of_neg (by simp [empty])
      rwa [same]
    | false =>
      have more : scanned start (outlook :: outlooks) = _ :: scanned _ outlooks :=
        List.filter_cons_of_pos (by simp [empty])
      rw [more]
      refine List.pairwise_cons.2 ⟨fun window mem => ?_, tail⟩
      obtain ⟨mem, -⟩ := List.mem_filter.1 mem
      obtain ⟨leg, among, rfl⟩ := List.mem_map.1 mem
      have ends := ends_of_mem below.rest among
      have behind := leg.checkpoint_lt_first (below.rest leg among)
      rw [Leg.toNat_reached, empty, if_neg Bool.false_ne_true] at ends
      exact UInt64.lt_iff_toNat_lt.2 (by omega)

/-- A block that a walk passes is scanned once, or it is not scanned and was too old. -/
theorem scans_of_passed (below : Below start outlooks) {block : BlockNumber}
    (above : start.toNat < block.toNat) (passed : block.toNat ≤ (reached start outlooks).toNat) :
    scans start outlooks block = 1 ∨
      scans start outlooks block = 0 ∧ ∃ leg ∈ legs start outlooks, leg.Skips block := by
  induction outlooks generalizing start with
  | nil =>
    have passed : block.toNat ≤ start.toNat := passed
    omega
  | cons outlook outlooks ih =>
    rw [scans_cons]
    by_cases early : block.toNat ≤ (outlook.leg start).reached.toNat
    · -- the first cycle passes the block, and all others start behind it
      rw [scans_eq_zero below.rest early]
      rcases (outlook.leg start).contains_or_skips above early with inside | ⟨outside, skips⟩
      · exact .inl (by rw [if_pos inside])
      · exact .inr ⟨by rw [outside]; rfl, _, List.mem_cons_self, skips⟩
    · have outside : ¬ (outlook.leg start).window.contains block = true :=
        fun inside => early ((outlook.leg start).between below.first inside).2
      rw [if_neg outside, Nat.add_zero]
      rcases ih below.rest (Nat.not_le.1 early) passed with once | ⟨never, leg, mem, skips⟩
      · exact .inl once
      · exact .inr ⟨never, leg, List.mem_cons_of_mem _ mem, skips⟩

end

/-- While its cycles start below the highest block number, a walk scans no block twice, and leaves
out no block that is fresh enough. -/
theorem scans_once (start : BlockNumber) (outlooks : List Outlook) (below : Below start outlooks) :
    ScansOnce start outlooks where
  exact leg mem := Window.checked?_eq (below leg mem) _ _
  ascending := pairwise_scanned below
  disjoint := by
    refine (pairwise_scanned below).imp fun {a b} apart block both => ?_
    have apart := UInt64.lt_iff_toNat_lt.1 apart
    rw [Window.contains_iff, Window.contains_iff] at both
    omega
  confirmed leg _ := leg.last_le_confirmed
  limited leg _ some_limit := leg.width_le some_limit
  filled leg _ some_limit wider := leg.width_eq some_limit wider
  within leg mem block inside := by
    have between := between_of_mem below mem inside
    exact ⟨UInt64.lt_iff_toNat_lt.2 between.1, UInt64.le_iff_toNat_le.2 between.2⟩
  covered block above passed :=
    scans_of_passed below (UInt64.lt_iff_toNat_lt.1 above) (UInt64.le_iff_toNat_le.1 passed)

/-! After an outage the first cycle leaves out old blocks, the second stops at its limit, the third
finds more confirmations asked for, and the last one gets to the highest block number. -/

namespace Sample

def outlooks : List Outlook :=
  [⟨1000, 6, 2, 0⟩, ⟨2000, 10, 1500, 100⟩, ⟨1050, 10, 0, 100⟩, ⟨18446744073709551615, 0, 0, 0⟩]

end Sample

/-- The walk over the sample scans each fresh block once. -/
theorem scans_once_after_outage :
    Below 500 Sample.outlooks ∧ ScansOnce 500 Sample.outlooks ∧
      (legs 500 Sample.outlooks).map Leg.window =
        [⟨992, 994⟩, ⟨995, 1095⟩, ⟨1096, 1040⟩, ⟨1096, 18446744073709551615⟩] := by
  have below : Below 500 Sample.outlooks := by decide
  exact ⟨below, scans_once 500 Sample.outlooks below, by decide⟩

/-- The cycle after `cycles` others that found the same. -/
def cycle (start : BlockNumber) (outlook : Outlook) (cycles : Nat) : Leg :=
  outlook.leg (reached start (List.replicate cycles outlook))

/-- Cycles that find the same get on with each window that is not empty, and at some time there is
nothing left to scan: the checkpoint is at the last confirmed block, if it was not behind it. -/
structure CatchesUp (start : BlockNumber) (outlook : Outlook) : Prop where
  progress : ∀ cycles, (cycle start outlook cycles).window.isEmpty = false →
    (cycle start outlook cycles).checkpoint < (cycle start outlook cycles).window.first
  ends : ∃ cycles, (∀ earlier < cycles, (cycle start outlook earlier).window.isEmpty = false) ∧
    ∀ later ≥ cycles, (cycle start outlook later).window.isEmpty = true ∧
      (cycle start outlook later).checkpoint.toNat = max start.toNat outlook.confirmed

section

variable {start : BlockNumber} {outlook : Outlook}

theorem cycle_succ (cycles : Nat) :
    cycle start outlook (cycles + 1) = cycle (outlook.leg start).reached outlook cycles :=
  rfl

/-- Once there is nothing left to scan, nothing changes any more. -/
theorem cycle_idle (idle : (outlook.leg start).window.isEmpty = true) (cycles : Nat) :
    cycle start outlook cycles = outlook.leg start := by
  have stays : (outlook.leg start).reached = start := by
    apply UInt64.toNat_inj.1
    rw [Leg.toNat_reached, if_pos idle]
    rfl
  induction cycles with
  | zero => rfl
  | succ cycles ih => rw [cycle_succ, stays, ih]

end

/-- Cycles that find the same catch up, unless the highest block number is confirmed. -/
theorem exists_catchUp {outlook : Outlook} (short : outlook.confirmed + 1 < UInt64.size)
    (start : BlockNumber) :
    ∃ cycles, (∀ earlier < cycles, (cycle start outlook earlier).window.isEmpty = false) ∧
      ∀ later ≥ cycles, (cycle start outlook later).window.isEmpty = true ∧
        (cycle start outlook later).checkpoint.toNat = max start.toNat outlook.confirmed := by
  -- each window that is not empty takes the checkpoint nearer to the last confirmed block
  induction gap : outlook.confirmed - start.toNat using Nat.strongRecOn generalizing start with
  | ind gap ih =>
    have short : (outlook.leg start).confirmed + 1 < UInt64.size := short
    cases empty : (outlook.leg start).window.isEmpty with
    | true =>
      have behind : outlook.confirmed ≤ start.toNat :=
        ((outlook.leg start).isEmpty_window_iff short).1 empty
      refine ⟨0, fun earlier none => absurd none (Nat.not_lt_zero _), fun later _ => ?_⟩
      rw [cycle_idle empty]
      refine ⟨empty, ?_⟩
      show start.toNat = _
      omega
    | false =>
      have onward : start.toNat < (outlook.leg start).window.first.toNat :=
        (outlook.leg start).progress short empty
      have last : (outlook.leg start).window.last.toNat ≤ outlook.confirmed :=
        (outlook.leg start).last_le_confirmed
      have ahead := (Window.isEmpty_eq_false_iff _).1 empty
      have reached := (outlook.leg start).toNat_reached
      rw [empty, if_neg Bool.false_ne_true] at reached
      obtain ⟨cycles, before, after⟩ := ih _ (by omega) (outlook.leg start).reached rfl
      refine ⟨cycles + 1, fun earlier less => ?_, fun later more => ?_⟩
      · cases earlier with
        | zero => exact empty
        | succ earlier => exact before earlier (Nat.lt_of_succ_lt_succ less)
      · cases later with
        | zero => exact absurd more (Nat.not_succ_le_zero _)
        | succ later =>
          obtain ⟨idle, checkpoint⟩ := after later (Nat.le_of_succ_le_succ more)
          rw [cycle_succ]
          exact ⟨idle, by omega⟩

/-- Cycles that find the same catch up exactly where the last confirmed block is not the highest
that there can be. -/
theorem catchesUp_iff (start : BlockNumber) (outlook : Outlook) :
    CatchesUp start outlook ↔ outlook.confirmed ≠ UInt64.size - 1 := by
  have bound := outlook.head.toNat_lt_size
  have confirmed : outlook.confirmed ≤ outlook.head.toNat := Nat.sub_le _ _
  constructor
  · intro catches full
    obtain ⟨cycles, -, after⟩ := catches.ends
    have open_end : (cycle start outlook cycles).window.isEmpty = false :=
      Leg.isEmpty_window_of_full _ (by show _ ≤ outlook.confirmed + 1; omega)
    rw [(after cycles (Nat.le_refl _)).1] at open_end
    cases open_end
  · intro free
    have short : outlook.confirmed + 1 < UInt64.size := by omega
    exact ⟨fun _ ahead => UInt64.lt_iff_toNat_lt.2 (Leg.progress _ short ahead),
      exists_catchUp short start⟩

/-- From the highest block number on, cycles scan the highest block again and again. -/
theorem not_forall_catchesUp : ¬ ∀ start outlook, CatchesUp start outlook := by
  intro all
  have onward := (all 18446744073709551615 ⟨18446744073709551615, 0, 0, 0⟩).progress 0 (by decide)
  exact absurd onward (by decide)

end Walk

end ChannelWatch
