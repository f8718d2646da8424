import ChannelWatch.Cycle.Sweep

/-!
# Watches

A `Plan` says what a watch is for, how often it works and how long it may take. Only a plan
without zeros makes a `Watch`.
-/

namespace ChannelWatch
set_option autoImplicit false

/-- How a watch is to be set up; times are in milliseconds. -/
structure Plan where
  profile : Profile
  collectInterval : Nat
  sweepInterval : Nat
  /-- How long a cycle may take up to its last write. -/
  cycleTimeout : Nat
  /-- How many errors may wait for attention. -/
  errorCapacity : Nat
deriving DecidableEq

/-- A plan in which nothing is zero. -/
structure Watch extends Plan where
  collectInterval_pos : 0 < collectInterval
  sweepInterval_pos : 0 < sweepInterval
  cycleTimeout_pos : 0 < cycleTimeout
  errorCapacity_pos : 0 < errorCapacity
  rateAfter_pos : 0 < profile.rateAfter
deriving DecidableEq

namespace Plan

/-- The usual plan: a cycle of each kind every ten seconds and at most a minute long, room
for sixteen errors, and new ratings after every tenth closing. -/
def usual (role : Role) (contracts : Contracts) : Plan :=
  { profile := { role, contracts, rateAfter := 10 }
    collectInterval := 10000
    sweepInterval := 10000
    cycleTimeout := 60000
    errorCapacity := 16 }

/-- Checks a plan. -/
def check (plan : Plan) : Except ConfigError Watch :=
  if intervals : plan.collectInterval = 0 ∨ plan.sweepInterval = 0 then .error .zeroInterval
  else if timeout : plan.cycleTimeout = 0 then .error .zeroCycleTimeout
  else if capacity : plan.errorCapacity = 0 then .error .zeroErrorCapacity
  else if rate : plan.profile.rateAfter = 0 then .error .zeroRateAfter
  else .ok
    { plan with
      collectInterval_pos := by omega
      sweepInterval_pos := by omega
      cycleTimeout_pos := by omega
      errorCapacity_pos := by omega
      rateAfter_pos := by
        have nonzero : plan.profile.rateAfter.toNat ≠ 0 := fun h => rate (UInt32.toNat_inj.1 h)
        exact UInt32.lt_iff_toNat_lt.2 (Nat.pos_of_ne_zero nonzero) }

end Plan

end ChannelWatch
