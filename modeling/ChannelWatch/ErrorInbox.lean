import ChannelWatch.Watch

/-!
# Errors that wait for attention

A watch notes the errors of its collect cycles that point at the connection or at the
settings. They wait in the order in which they came, in a place of bounded size; when it is
full, further errors are lost.
-/

namespace ChannelWatch
set_option autoImplicit false

/-- The error is worth noting. -/
def CycleError.needsAttention (error : CycleError) : Bool :=
  error.isTransport || error.isConfiguration

/-- Waiting errors, the oldest first. -/
structure ErrorInbox where
  waiting : List CycleError
deriving DecidableEq

namespace ErrorInbox

/-- Nothing waits. -/
def empty : ErrorInbox := ⟨[]⟩

/-- An error arrives where at most `capacity` may wait. -/
def report (inbox : ErrorInbox) (capacity : Nat) (error : CycleError) : ErrorInbox :=
  if error.needsAttention ∧ inbox.waiting.length < capacity then ⟨inbox.waiting ++ [error]⟩
  else inbox

/-- The oldest error, and what waits behind it. -/
def take? (inbox : ErrorInbox) : Option (CycleError × ErrorInbox) :=
  match inbox.waiting with
  | [] => none
  | error :: waiting => some (error, ⟨waiting⟩)

theorem length_report_le {inbox : ErrorInbox} {capacity : Nat} (error : CycleError)
    (h : inbox.waiting.length ≤ capacity) :
    (inbox.report capacity error).waiting.length ≤ capacity := by
  unfold report
  split
  · rename_i room
    simp only [List.length_append, List.length_singleton]
    omega
  · exact h

end ErrorInbox

end ChannelWatch
