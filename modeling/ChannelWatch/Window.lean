import ChannelWatch.Log
import ChannelWatch.Text.Numeral

/-!
# Scan windows

A window is an inclusive range of blocks, empty if it starts behind its end. `Window.next`
says which blocks to scan after a checkpoint: those that have enough confirmations, not
further back than the freshness bound, and not more than the limit at once. Block numbers
saturate at both ends of their 64 bits.
-/

namespace ChannelWatch
set_option autoImplicit false

namespace BlockNumber

/-- The block after this one; the last number stays. -/
def succ (block : BlockNumber) : BlockNumber := if block + 1 = 0 then block else block + 1

/-- The block `distance` below this one, zero at the lowest. -/
def back (block distance : BlockNumber) : BlockNumber :=
  if distance ≤ block then block - distance else 0

theorem toNat_back (block distance : BlockNumber) :
    (back block distance).toNat = block.toNat - distance.toNat := by
  unfold back
  split
  · rename_i h
    exact UInt64.toNat_sub_of_le _ _ h
  · rename_i h
    have lt : block.toNat < distance.toNat := UInt64.lt_iff_toNat_lt.1 (UInt64.not_le.1 h)
    have zero : (0 : UInt64).toNat = 0 := rfl
    omega

theorem toNat_succ (block : BlockNumber) :
    (succ block).toNat = min (block.toNat + 1) (UInt64.size - 1) := by
  have bound := block.toNat_lt_size
  have sum : (block + 1).toNat = (block.toNat + 1) % UInt64.size := by
    rw [UInt64.toNat_add]
    rfl
  have size : UInt64.size = 18446744073709551616 := rfl
  rw [size] at bound sum ⊢
  unfold succ
  split
  · rename_i h
    rw [h] at sum
    have zero : (0 : UInt64).toNat = 0 := rfl
    omega
  · rename_i h
    have nonzero : (block + 1).toNat ≠ 0 := fun hz => h (UInt64.toNat_inj.1 hz)
    omega

theorem toNat_max (a b : BlockNumber) : (max a b).toNat = max a.toNat b.toNat := by
  have shape : max a b = if a ≤ b then b else a := rfl
  rw [shape]
  split
  · rename_i h
    have le := UInt64.le_iff_toNat_le.1 h
    omega
  · rename_i h
    have lt := UInt64.lt_iff_toNat_lt.1 (UInt64.not_le.1 h)
    omega

end BlockNumber

/-- An inclusive range of blocks. -/
structure Window where
  first : BlockNumber
  last : BlockNumber
deriving DecidableEq

/-- The bounds that a scan keeps to; zero switches the last two off. -/
structure ScanLimits where
  minConfirmations : BlockNumber
  freshBlocks : BlockNumber
  blockLimit : BlockNumber
deriving DecidableEq

namespace Window

/-- No block lies in the window. -/
def isEmpty (window : Window) : Bool := window.last < window.first

/-- The block lies in the window. -/
def contains (window : Window) (block : BlockNumber) : Bool :=
  window.first ≤ block && block ≤ window.last

/-- How a window is shown. -/
def display (window : Window) : String :=
  Numeral.decimal window.first.toNat ++ "..=" ++ Numeral.decimal window.last.toNat

/-- The blocks to scan after `checkpoint` while the chain ends in `head`. -/
def next (checkpoint head : BlockNumber) (limits : ScanLimits) : Window :=
  let last := BlockNumber.back head limits.minConfirmations
  let first :=
    if limits.freshBlocks = 0 then BlockNumber.succ checkpoint
    else max (BlockNumber.succ checkpoint) (BlockNumber.back last limits.freshBlocks)
  if limits.blockLimit ≠ 0 ∧ first < last ∧ limits.blockLimit < last - first then
    ⟨first, first + limits.blockLimit⟩
  else ⟨first, last⟩

/-- One cycle of a walk over the chain: the window, and the checkpoint after it. -/
def advance (checkpoint head : BlockNumber) (limits : ScanLimits) : Window × BlockNumber :=
  let window := next checkpoint head limits
  (window, if window.isEmpty then checkpoint else window.last)

/-- The windows of a walk that sees the heads one after the other. -/
def walk (limits : ScanLimits) : BlockNumber → List BlockNumber → List Window
  | _, [] => []
  | checkpoint, head :: heads =>
    let (window, checkpoint) := advance checkpoint head limits
    window :: walk limits checkpoint heads

theorem isEmpty_iff (window : Window) :
    window.isEmpty = true ↔ window.last.toNat < window.first.toNat := by
  rw [isEmpty, decide_eq_true_iff, UInt64.lt_iff_toNat_lt]

theorem isEmpty_eq_false_iff (window : Window) :
    window.isEmpty = false ↔ window.first.toNat ≤ window.last.toNat := by
  rw [← Bool.not_eq_true, isEmpty_iff, Nat.not_lt]

theorem contains_iff (window : Window) (block : BlockNumber) :
    window.contains block = true ↔
      window.first.toNat ≤ block.toNat ∧ block.toNat ≤ window.last.toNat := by
  rw [contains, Bool.and_eq_true, decide_eq_true_iff, decide_eq_true_iff,
    UInt64.le_iff_toNat_le, UInt64.le_iff_toNat_le]

section

variable (checkpoint head : BlockNumber) (limits : ScanLimits)

/-- The next window starts behind the checkpoint, but not before the freshness bound. -/
theorem toNat_first_next :
    (next checkpoint head limits).first.toNat =
      max (min (checkpoint.toNat + 1) (UInt64.size - 1))
        (if limits.freshBlocks = 0 then 0
          else head.toNat - limits.minConfirmations.toNat - limits.freshBlocks.toNat) := by
  have first : (next checkpoint head limits).first =
      if limits.freshBlocks = 0 then BlockNumber.succ checkpoint
      else max (BlockNumber.succ checkpoint)
        (BlockNumber.back (BlockNumber.back head limits.minConfirmations) limits.freshBlocks) := by
    unfold next
    exact (apply_ite Window.first _ _ _).trans (ite_self _)
  rw [first]
  split
  · rw [BlockNumber.toNat_succ]
    omega
  · rw [BlockNumber.toNat_max, BlockNumber.toNat_succ, BlockNumber.toNat_back,
      BlockNumber.toNat_back]

/-- The next window ends with the last confirmed block, but not further on than the limit. -/
theorem toNat_last_next :
    (next checkpoint head limits).last.toNat =
      if limits.blockLimit = 0 then head.toNat - limits.minConfirmations.toNat
      else min (head.toNat - limits.minConfirmations.toNat)
        ((next checkpoint head limits).first.toNat + limits.blockLimit.toNat) := by
  have top := BlockNumber.toNat_back head limits.minConfirmations
  unfold next
  generalize BlockNumber.back head limits.minConfirmations = last at top ⊢
  simp only
  generalize (if limits.freshBlocks = 0 then BlockNumber.succ checkpoint
      else max (BlockNumber.succ checkpoint) (BlockNumber.back last limits.freshBlocks)) = first
  have bound := last.toNat_lt_size
  by_cases limited : limits.blockLimit ≠ 0 ∧ first < last ∧ limits.blockLimit < last - first
  · obtain ⟨some_limit, ahead, short⟩ := limited
    rw [if_pos ⟨some_limit, ahead, short⟩, if_neg some_limit]
    have gap := UInt64.lt_iff_toNat_lt.1 short
    rw [UInt64.toNat_sub_of_le _ _ (UInt64.le_of_lt ahead)] at gap
    have sum : (first + limits.blockLimit).toNat = first.toNat + limits.blockLimit.toNat := by
      rw [UInt64.toNat_add]
      exact Nat.mod_eq_of_lt (by show _ < UInt64.size; omega)
    show (first + limits.blockLimit).toNat = min _ (first.toNat + limits.blockLimit.toNat)
    omega
  · rw [if_neg limited]
    show last.toNat = _
    split
    · exact top
    · rename_i some_limit
      have within : ¬ (first.toNat < last.toNat ∧
          limits.blockLimit.toNat < last.toNat - first.toNat) := by
        rintro ⟨ahead, short⟩
        have ahead := UInt64.lt_iff_toNat_lt.2 ahead
        refine limited ⟨some_limit, ahead, UInt64.lt_iff_toNat_lt.2 ?_⟩
        rwa [UInt64.toNat_sub_of_le _ _ (UInt64.le_of_lt ahead)]
      show last.toNat = min _ (first.toNat + limits.blockLimit.toNat)
      omega

end

end Window

end ChannelWatch
