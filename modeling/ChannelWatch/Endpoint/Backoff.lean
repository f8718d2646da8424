/-!
# Pauses between attempts

The first pause has a given length, and each later one is twice as long as the one before,
up to a ceiling that only the first may exceed. Times are in milliseconds.
-/

namespace ChannelWatch.Backoff
set_option autoImplicit false

/-- The length that no pause but the first exceeds. -/
def ceiling : Nat := 60000

/-- The pause that follows a pause. -/
def next (pause : Nat) : Nat := min (2 * pause) ceiling

/-- The pause after attempt `j`, counted from zero. -/
def pause (first : Nat) : Nat → Nat
  | 0 => first
  | j + 1 => next (pause first j)

end ChannelWatch.Backoff
