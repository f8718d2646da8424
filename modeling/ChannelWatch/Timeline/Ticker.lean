/-!
# Tickers

Time is counted in milliseconds. A ticker is due once every period. A tick that is taken
late, by more than the slack, puts off all later ones.
-/

namespace ChannelWatch
set_option autoImplicit false

/-- Something that is due once every period. -/
structure Ticker where
  period : Nat
  due : Nat
deriving DecidableEq

namespace Ticker

/-- How late a tick may be taken without consequences. -/
def slack : Nat := 5

/-- A ticker whose first tick is due now. -/
def starting (now : Nat) (period : Nat) : Ticker := ⟨period, now⟩

/-- The ticker after a tick was taken. -/
def tick (ticker : Ticker) (now : Nat) : Ticker :=
  { ticker with
    due := if ticker.due + slack < now then now + ticker.period else ticker.due + ticker.period }

theorem due_lt_due_tick {ticker : Ticker} (now : Nat) (h : 0 < ticker.period) :
    ticker.due < (ticker.tick now).due := by
  simp only [tick]
  split <;> omega

end Ticker

end ChannelWatch
