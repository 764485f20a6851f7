import RiskGate.Cache.Expiring

/-!
# The sweeper

A sweeper purges its cache at every whole multiple of its interval, counted
from the making of the cache, until it is closed.  The clock moves in whole
milliseconds, so a sweep that falls between two of them happens at the later
one.

Between two other operations on the cache, all sweeps but the last leave no
trace: whatever they remove, the last one removes as well.  Moving the clock
therefore makes one sweep, at the time of the last one that fell due.
-/

namespace RiskGate.Cache

/-- The interval of the sweeps, and whether they still happen. -/
structure Sweeper where
  interval : Span
  closed : Bool := false
deriving DecidableEq, Repr

namespace Sweeper

/-- A sweeper that runs.  Its interval is at least a millisecond and at most
the longest one. -/
def make (interval : Span) : Sweeper where
  interval := (interval.longer (Span.ofMillis 1)).shorter longestLife

/-- Stop sweeping. -/
def close (sweeper : Sweeper) : Sweeper := { sweeper with closed := true }

/-- The number of sweeps that fell due up to a time in milliseconds. -/
def count (sweeper : Sweeper) (millis : Nat) : Nat :=
  (Span.ofMillis millis).nanos / sweeper.interval.nanos

/-- The time of the last sweep that fell due up to a time, in milliseconds. -/
def lastSweep (sweeper : Sweeper) (millis : Nat) : Nat :=
  (Span.mk (sweeper.count millis * sweeper.interval.nanos)).timerMillis

/-- The sweeps that fall due while the clock moves, in milliseconds. -/
def elapse {V : Type} (sweeper : Sweeper) (start stop : Nat) (cache : Expiring V) :
    Expiring V :=
  if sweeper.closed || sweeper.count stop ≤ sweeper.count start then cache
  else cache.purge (Span.ofMillis (sweeper.lastSweep stop)).nanos

end Sweeper

end RiskGate.Cache
