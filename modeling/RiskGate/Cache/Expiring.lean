import RiskGate.Cache.Stats

/-!
# The expiring cache

Every entry lives for a fixed time from its last store.  When the cache is full
and a new key is stored, the entry that expires soonest makes room.  An expired
entry is never found; it leaves the store when it is looked up, when the cache
is purged, or when it makes room.

Entries are kept in the order of their last store.  Times are instants in
nanoseconds.
-/

namespace RiskGate.Cache

/-- A stored value and the instant from which it is expired. -/
structure Entry (V : Type) where
  key : String
  value : V
  expiresAt : Nat
deriving Repr

/-- The entry is no longer valid. -/
def Entry.isExpired {V : Type} (now : Nat) (entry : Entry V) : Bool :=
  entry.expiresAt ≤ now

/-- A cache whose entries expire. -/
structure Expiring (V : Type) where
  ttl : Span
  maxSize : Nat
  entries : List (Entry V) := []
  hits : Nat := 0
  misses : Nat := 0
  /-- The number of entries last announced to the metrics. -/
  announced : Option Nat := none
deriving Repr

/-- The longest time to live, and the longest time between two sweeps: thirty
years of 365 days. -/
def longestLife : Span := Span.ofSecs (30 * 365 * 24 * 60 * 60)

namespace Expiring

variable {V : Type}

/-- An empty cache.  A time to live above the longest one is cut to it, and a
cache has room for one entry at least. -/
def make (ttl : Span) (maxSize : Nat) : Expiring V where
  ttl := ttl.shorter longestLife
  maxSize := max maxSize 1

/-- The number of stored entries, expired ones included. -/
def size (cache : Expiring V) : Nat := cache.entries.length

/-- The stored entry of a key. -/
def find? (key : String) (cache : Expiring V) : Option (Entry V) :=
  cache.entries.find? (·.key == key)

/-- The entries of all other keys. -/
def without (key : String) (entries : List (Entry V)) : List (Entry V) :=
  entries.filter (·.key != key)

/-- Look a key up.  An unexpired entry is a hit; an expired one leaves the
store and is a miss. -/
def get (now : Nat) (key : String) (cache : Expiring V) : Expiring V × Option V :=
  match cache.find? key with
  | some entry =>
      if entry.isExpired now then
        ({ cache with entries := without key cache.entries, misses := cache.misses + 1 }, none)
      else
        ({ cache with hits := cache.hits + 1 }, some entry.value)
  | none => ({ cache with misses := cache.misses + 1 }, none)

/-- The entry that expires soonest, the earliest stored one among equals. -/
def soonest? : List (Entry V) → Option (Entry V)
  | [] => none
  | entry :: rest =>
      match soonest? rest with
      | none => some entry
      | some other => if entry.expiresAt ≤ other.expiresAt then some entry else some other

/-- Room for one more key: a full store gives up the entry that expires
soonest. -/
def makeRoom (key : String) (cache : Expiring V) : List (Entry V) :=
  if (cache.find? key).isNone && cache.maxSize ≤ cache.size then
    match soonest? cache.entries with
    | some victim => without victim.key cache.entries
    | none => cache.entries
  else
    cache.entries

/-- Announce the number of entries to the metrics. -/
def announce (cache : Expiring V) : Expiring V :=
  { cache with announced := some cache.size }

/-- Store a value under a key, from now for the time to live. -/
def set (now : Nat) (key : String) (value : V) (cache : Expiring V) : Expiring V :=
  announce
    { cache with
      entries := without key (cache.makeRoom key) ++ [⟨key, value, now + cache.ttl.nanos⟩] }

/-- Remove the entry of a key. -/
def delete (key : String) (cache : Expiring V) : Expiring V :=
  { cache with entries := without key cache.entries }

/-- Remove all entries. -/
def clear (cache : Expiring V) : Expiring V :=
  announce { cache with entries := [] }

/-- Remove the expired entries. -/
def purge (now : Nat) (cache : Expiring V) : Expiring V :=
  announce { cache with entries := cache.entries.filter (!·.isExpired now) }

/-- The number of entries that a purge would remove. -/
def expiredCount (now : Nat) (cache : Expiring V) : Nat :=
  cache.entries.countP (·.isExpired now)

def stats (cache : Expiring V) : Stats where
  hits := cache.hits
  misses := cache.misses
  size := cache.size
  maxSize := cache.maxSize

end Expiring

end RiskGate.Cache
