import ChannelWatch.Log

/-!
# What channel events carry in their data

The data of a channel event is a row of 32-byte words. The first holds the block in which
the channel was opened, in its last four bytes, and the second an amount of tokens, in its
last twenty-four; padding and anything behind the two words is not looked at. A log carries
them only if it has exactly four topics and its data reaches to the end of the second word.
-/

namespace ChannelWatch
set_option autoImplicit false

/-- An amount of tokens, as much as fits into 32 bytes. -/
abbrev Amount := BitVec 256

/-- The block and the balance that a channel was closed with. -/
structure ClosingTerms where
  openBlock : BlockNumber
  balance : Amount
deriving DecidableEq

/-- The two ways of closing a channel. -/
inductive ClosingKind where
  | cooperative
  | uncooperative
deriving DecidableEq

namespace ClosingKind

/-- The name of a way of closing. -/
def name : ClosingKind → String
  | cooperative => "cooperative"
  | uncooperative => "uncooperative"

/-- The way of closing with a given name. -/
def ofName? (text : String) : Option ClosingKind :=
  [cooperative, uncooperative].find? fun kind => kind.name = text

/-- The event that reports a closing. -/
def event : ClosingKind → EventKind
  | cooperative => .cooperativeClose
  | uncooperative => .uncooperativeClose

theorem ofName?_name (kind : ClosingKind) : ofName? kind.name = some kind := by
  cases kind <;> decide

end ClosingKind

namespace Log

/-- The number in the last `size` bytes of the word at an index. -/
def wordTail (data : List UInt8) (index size : Nat) : Nat :=
  ofBigEndian ((data.drop (32 * index + (32 - size))).take size)

/-- The open block of an event of a channel that was opened earlier. -/
def openBlock? (log : Log) : Option BlockNumber :=
  match log.kind with
  | some .channelToppedUp | some .closeRequested
  | some .cooperativeClose | some .uncooperativeClose =>
    if log.topics.length = 4 ∧ 64 ≤ log.data.length then
      some (UInt64.ofNat (wordTail log.data 0 4))
    else none
  | _ => none

/-- The terms of a channel closing of the given kind. -/
def closingTerms? (log : Log) (closing : ClosingKind) : Option ClosingTerms :=
  if log.kind = some closing.event ∧ log.topics.length = 4 ∧ 64 ≤ log.data.length then
    some ⟨UInt64.ofNat (wordTail log.data 0 4), BitVec.ofNat 256 (wordTail log.data 1 24)⟩
  else none

theorem openBlock?_of_carries {log : Log} {kind : EventKind} (known : log.kind = some kind)
    (carries : kind.carriesOpenBlock = true) :
    log.openBlock? = if log.topics.length = 4 ∧ 64 ≤ log.data.length then
      some (UInt64.ofNat (wordTail log.data 0 4)) else none := by
  rw [openBlock?, known]
  cases kind <;> first | rfl | cases carries

theorem openBlock?_of_not_carries {log : Log} {kind : EventKind} (known : log.kind = some kind)
    (other : kind.carriesOpenBlock = false) : log.openBlock? = none := by
  rw [openBlock?, known]
  cases kind <;> first | rfl | cases other

theorem openBlock?_isSome_iff (log : Log) :
    log.openBlock?.isSome ↔
      (∃ kind, log.kind = some kind ∧ kind.carriesOpenBlock = true) ∧ log.topics.length = 4 ∧
        64 ≤ log.data.length := by
  cases known : log.kind with
  | none => simp [openBlock?, known]
  | some kind =>
    cases carries : kind.carriesOpenBlock with
    | true => simp [openBlock?_of_carries known carries, carries]
    | false => simp [openBlock?_of_not_carries known carries, carries]

end Log

end ChannelWatch
