import TenantWork.Time.Instant
/-!
A clock that is moved by hand: every reading gives the current instant and then moves the clock by
a fixed step.
-/
namespace TenantWork.Time

structure Clock where
  now : Instant
  /-- Nanoseconds added by each reading. -/
  step : Int
deriving DecidableEq, Repr

namespace Clock

def read (clock : Clock) : Instant × Clock :=
  (clock.now, { clock with now := clock.now.add clock.step })

def advance (clock : Clock) (nanos : Int) : Clock := { clock with now := clock.now.add nanos }

end Clock

end TenantWork.Time
