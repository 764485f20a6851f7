import RiskGate.Cache.Sweeper

/-!
# The result cache

The cache of an engine either keeps results for a while or, when caching is
switched off, keeps nothing and counts every lookup as a miss.
-/

namespace RiskGate.Cache

/-- A cache of results. -/
inductive Store (V : Type) where
  | expiring (cache : Expiring V) (sweeper : Sweeper)
  | absent (misses : Nat)
deriving Repr

namespace Store

variable {V : Type}

/-- A cache that keeps entries and sweeps the expired ones away. -/
def make (ttl : Span) (maxSize : Nat) (interval : Span) : Store V :=
  expiring (Expiring.make ttl maxSize) (Sweeper.make interval)

/-- A cache that keeps nothing. -/
def none : Store V := absent 0

/-- Look a key up. -/
def get (now : Nat) (key : String) : Store V → Store V × Option V
  | expiring cache sweeper =>
      let (cache, found) := cache.get now key
      (expiring cache sweeper, found)
  | absent misses => (absent (misses + 1), Option.none)

/-- Store a value under a key. -/
def set (now : Nat) (key : String) (value : V) : Store V → Store V
  | expiring cache sweeper => expiring (cache.set now key value) sweeper
  | absent misses => absent misses

/-- Remove the entry of a key. -/
def delete (key : String) : Store V → Store V
  | expiring cache sweeper => expiring (cache.delete key) sweeper
  | absent misses => absent misses

/-- Remove all entries. -/
def clear : Store V → Store V
  | expiring cache sweeper => expiring cache.clear sweeper
  | absent misses => absent misses

/-- Stop the sweeps. -/
def close : Store V → Store V
  | expiring cache sweeper => expiring cache sweeper.close
  | absent misses => absent misses

/-- The sweeps that fall due while the clock moves, in milliseconds. -/
def elapse (start stop : Nat) : Store V → Store V
  | expiring cache sweeper => expiring (sweeper.elapse start stop cache) sweeper
  | absent misses => absent misses

def stats : Store V → Stats
  | expiring cache _ => cache.stats
  | absent misses => ⟨0, misses, 0, 0⟩

/-- The number of entries last announced to the metrics. -/
def announced : Store V → Option Nat
  | expiring cache _ => cache.announced
  | absent _ => Option.none

end Store

end RiskGate.Cache
