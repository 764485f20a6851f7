import RiskGate.Span

/-!
# Cache statistics
-/

namespace RiskGate.Cache

/-- Lookups so far and the fill of a cache. -/
structure Stats where
  hits : Nat
  misses : Nat
  size : Nat
  maxSize : Nat
deriving DecidableEq, Repr

/-- The share of lookups that hit, zero before the first lookup. -/
def Stats.hitRate (stats : Stats) : Float :=
  if stats.hits + stats.misses = 0 then 0.0
  else Span.wordFloat stats.hits / Span.wordFloat (stats.hits + stats.misses)

end RiskGate.Cache
