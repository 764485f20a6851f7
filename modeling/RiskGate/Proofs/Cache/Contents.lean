import RiskGate.Cache.Store

/-!
# What a cache holds

Entries come into a cache by being stored and in no other way.  Looking up, clearing,
closing and sweeping can only remove them, and a lookup finds an entry of its key that
has not expired.
-/

namespace RiskGate.Cache

namespace Expiring

variable {V : Type} (cache : Expiring V)

/-- Looking a key up removes at most the entry of the key. -/
theorem mem_of_mem_get {now : Nat} {key : String} {entry : Entry V}
    (member : entry ∈ (cache.get now key).1.entries) : entry ∈ cache.entries := by
  unfold get at member
  split at member
  · split at member
    · exact (List.mem_filter.mp member).1
    · exact member
  · exact member

/-- What a lookup finds is stored under the key and has not expired. -/
theorem get_found {now : Nat} {key : String} {value : V}
    (found : (cache.get now key).2 = some value) :
    ∃ entry ∈ cache.entries, entry.key = key ∧ entry.value = value ∧ now < entry.expiresAt := by
  unfold get at found
  split at found
  next entry stored =>
    split at found
    · cases found
    next fresh =>
      refine ⟨entry, List.mem_of_find?_eq_some stored, ?_, Option.some.inj found, ?_⟩
      · simpa using List.find?_some stored
      · simpa [Entry.isExpired] using fresh
  · cases found

theorem get_ttl (now : Nat) (key : String) : (cache.get now key).1.ttl = cache.ttl := by
  unfold get
  split
  · split <;> rfl
  · rfl

theorem mem_of_mem_without {key : String} {entries : List (Entry V)} {entry : Entry V}
    (member : entry ∈ without key entries) : entry ∈ entries :=
  (List.mem_filter.mp member).1

/-- Making room removes at most one entry. -/
theorem mem_of_mem_makeRoom {key : String} {entry : Entry V}
    (member : entry ∈ cache.makeRoom key) : entry ∈ cache.entries := by
  unfold makeRoom at member
  split at member
  · split at member
    · exact mem_of_mem_without member
    · exact member
  · exact member

/-- Storing a value adds one entry, which expires when the time to live has passed. -/
theorem mem_set {now : Nat} {key : String} {value : V} {entry : Entry V}
    (member : entry ∈ (cache.set now key value).entries) :
    entry ∈ cache.entries ∨ entry = ⟨key, value, now + cache.ttl.nanos⟩ := by
  rcases List.mem_append.mp member with kept | added
  · exact Or.inl (cache.mem_of_mem_makeRoom (mem_of_mem_without kept))
  · exact Or.inr (List.mem_singleton.mp added)

/-- Sweeping removes entries, if it does anything. -/
theorem elapse_cases (sweeper : Sweeper) (start stop : Nat) :
    sweeper.elapse start stop cache = cache ∨
      ∃ now, sweeper.elapse start stop cache = cache.purge now := by
  unfold Sweeper.elapse
  split
  · exact Or.inl rfl
  · exact Or.inr ⟨_, rfl⟩

end Expiring

namespace Store

variable {V : Type}

/-- The stored entries. -/
def entries : Store V → List (Entry V)
  | expiring cache _ => cache.entries
  | absent _ => []

/-- How long an entry lives, if any is kept. -/
def lifetime? : Store V → Option Span
  | expiring cache _ => some cache.ttl
  | absent _ => Option.none

/-- From one state of a store to another no entry was added, and entries live as
long as before. -/
structure Sheds (before after : Store V) : Prop where
  lifetime : after.lifetime? = before.lifetime?
  entries : ∀ entry ∈ after.entries, entry ∈ before.entries

namespace Sheds

variable {before middle after : Store V}

theorem refl (store : Store V) : Sheds store store := ⟨rfl, fun _ => id⟩

theorem trans (first : Sheds before middle) (second : Sheds middle after) :
    Sheds before after where
  lifetime := second.lifetime.trans first.lifetime
  entries := fun entry member => first.entries entry (second.entries entry member)

end Sheds

section Operations

variable (store : Store V)

theorem sheds_get (now : Nat) (key : String) : Sheds store (store.get now key).1 := by
  cases store with
  | expiring cache sweeper =>
      constructor
      · exact congrArg some (cache.get_ttl now key)
      · intro entry member
        exact cache.mem_of_mem_get member
  | absent misses => exact ⟨rfl, fun _ => id⟩

theorem sheds_clear : Sheds store store.clear := by
  cases store with
  | expiring cache sweeper => exact ⟨rfl, fun _ member => absurd member List.not_mem_nil⟩
  | absent misses => exact .refl _

theorem sheds_close : Sheds store store.close := by
  cases store with
  | expiring cache sweeper => exact ⟨rfl, fun _ => id⟩
  | absent misses => exact .refl _

/-- Sweeping removes expired entries. -/
theorem sheds_elapse (start stop : Nat) : Sheds store (store.elapse start stop) := by
  cases store with
  | expiring cache sweeper =>
      rw [elapse]
      rcases cache.elapse_cases sweeper start stop with kept | ⟨now, purged⟩
      · rw [kept]
        exact .refl _
      · rw [purged]
        exact ⟨rfl, fun entry member => (List.mem_filter.mp member).1⟩
  | absent misses => exact .refl _

/-- What a lookup finds is stored under the key and has not expired. -/
theorem get_found {now : Nat} {key : String} {value : V}
    (found : (store.get now key).2 = some value) :
    ∃ entry ∈ store.entries, entry.key = key ∧ entry.value = value ∧ now < entry.expiresAt := by
  cases store with
  | expiring cache sweeper => exact cache.get_found found
  | absent misses => cases found

theorem set_lifetime (now : Nat) (key : String) (value : V) :
    (store.set now key value).lifetime? = store.lifetime? := by
  cases store <;> rfl

/-- Storing a value adds one entry, which expires when its lifetime has passed. -/
theorem mem_set {now : Nat} {key : String} {value : V} {entry : Entry V}
    (member : entry ∈ (store.set now key value).entries) :
    entry ∈ store.entries ∨
      ∃ lifetime ∈ store.lifetime?, entry = ⟨key, value, now + lifetime.nanos⟩ := by
  cases store with
  | expiring cache sweeper =>
      rcases cache.mem_set member with old | new
      · exact Or.inl old
      · exact Or.inr ⟨cache.ttl, rfl, new⟩
  | absent misses => exact absurd member List.not_mem_nil

end Operations

end Store

end RiskGate.Cache
