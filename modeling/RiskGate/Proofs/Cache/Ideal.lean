import RiskGate.Proofs.Cache.Contents
import Mathlib.Data.List.Nodup

/-!
# An ideal expiring map

In an ideal map an entry vanishes by itself when its time is over, and only the entries
that are present count.  A cache is different: its expired entries linger until they are
looked up, purged or evicted, and take room until then.

Nobody can tell the two apart by their answers and counters.  What carries the proof is
that the unexpired entries of the cache are those present in the map, in the order in which
they were set: if the cache holds an expired entry when it is full, then the entry that
expires soonest is an expired one, and the map has room; otherwise it is the one set
longest ago.
-/

namespace RiskGate.Cache

variable {V : Type}

/-- What can happen to a cache. -/
inductive Op (V : Type) where
  | get (key : String)
  | set (key : String) (value : V)
  | delete (key : String)
  | clear
  /-- The expired entries are removed by hand. -/
  | purge
  /-- Nanoseconds pass while a sweeper runs, or one that was closed. -/
  | wait (sweeper : Sweeper) (nanos : Nat)

/-- The instant after an operation. -/
def Op.later (now : Nat) : Op V → Nat
  | .wait _ nanos => now + nanos
  | .get _ | .set .. | .delete _ | .clear | .purge => now

/-! ## The map -/

/-- A value in an ideal map, and the instant at which it was set. -/
structure Deposit (V : Type) where
  key : String
  value : V
  setAt : Nat

/-- A map whose entries vanish. -/
structure Ideal (V : Type) where
  /-- How long an entry is present, in nanoseconds. -/
  life : Nat
  /-- How many entries may be present. -/
  room : Nat
  /-- Entries in the order in which they were set, those that have vanished included. -/
  deposits : List (Deposit V) := []
  hits : Nat := 0
  misses : Nat := 0

namespace Ideal

/-- An empty map. -/
def make (ttl : Span) (maxSize : Nat) : Ideal V where
  life := min ttl.nanos longestLife.nanos
  room := max 1 maxSize

/-- The entries that have not vanished. -/
def present (now : Nat) (ideal : Ideal V) : List (Deposit V) :=
  ideal.deposits.filter fun deposit => decide (now < deposit.setAt + ideal.life)

def get (now : Nat) (key : String) (ideal : Ideal V) : Ideal V × Option V :=
  match (ideal.present now).find? (·.key == key) with
  | some deposit => ({ ideal with hits := ideal.hits + 1 }, some deposit.value)
  | none => ({ ideal with misses := ideal.misses + 1 }, none)

/-- The entries that stay when a key is set: all of them, or all but the one set longest
ago if the key is absent and there is no room left. -/
def kept (now : Nat) (key : String) (ideal : Ideal V) : List (Deposit V) :=
  let present := ideal.present now
  if present.all (·.key != key) && present.length == ideal.room then present.tail else present

def set (now : Nat) (key : String) (value : V) (ideal : Ideal V) : Ideal V :=
  { ideal with
    deposits := (ideal.kept now key).filter (·.key != key) ++ [⟨key, value, now⟩] }

def delete (key : String) (ideal : Ideal V) : Ideal V :=
  { ideal with deposits := ideal.deposits.filter (·.key != key) }

def clear (ideal : Ideal V) : Ideal V :=
  { ideal with deposits := [] }

/-- One operation on a map, with its answer if it is a lookup.  Removing expired entries is
nothing to it. -/
def perform (now : Nat) (ideal : Ideal V) : Op V → Ideal V × List (Option V)
  | .get key => ((ideal.get now key).1, [(ideal.get now key).2])
  | .set key value => (ideal.set now key value, [])
  | .delete key => (ideal.delete key, [])
  | .clear => (ideal.clear, [])
  | .purge | .wait .. => (ideal, [])

/-- Operations on a map, one after another, with the answers to the lookups. -/
def run (now : Nat) (ideal : Ideal V) : List (Op V) → Ideal V × List (Option V)
  | [] => (ideal, [])
  | op :: rest =>
      let (next, answers) := ideal.perform now op
      let (final, later) := next.run (op.later now) rest
      (final, answers ++ later)

end Ideal

/-! ## The cache -/

namespace Expiring

/-- One operation on a cache, with its answer if it is a lookup. -/
def perform (now : Nat) (cache : Expiring V) : Op V → Expiring V × List (Option V)
  | .get key => ((cache.get now key).1, [(cache.get now key).2])
  | .set key value => (cache.set now key value, [])
  | .delete key => (cache.delete key, [])
  | .clear => (cache.clear, [])
  | .purge => (cache.purge now, [])
  | .wait sweeper nanos =>
      (sweeper.elapse (now / Span.perMilli) ((now + nanos) / Span.perMilli) cache, [])

/-- Operations on a cache, one after another, with the answers to the lookups. -/
def run (now : Nat) (cache : Expiring V) : List (Op V) → Expiring V × List (Option V)
  | [] => (cache, [])
  | op :: rest =>
      let (next, answers) := cache.perform now op
      let (final, later) := next.run (op.later now) rest
      (final, answers ++ later)

/-- The cache has no room for a new key. -/
def Full (key : String) (cache : Expiring V) : Prop :=
  cache.find? key = none ∧ cache.maxSize ≤ cache.size

/-- The entry expires no later than any other. -/
def Soonest (victim : Entry V) (cache : Expiring V) : Prop :=
  victim ∈ cache.entries ∧ ∀ other ∈ cache.entries, victim.expiresAt ≤ other.expiresAt

/-- What a cache may keep when a key is stored, whichever entry it gives up among those that
expire soonest, as long as no two of them are unexpired. -/
inductive Keeps (now : Nat) (key : String) (cache : Expiring V) : List (Entry V) → Prop
  | all (room : ¬ cache.Full key) : Keeps now key cache cache.entries
  | others (full : cache.Full key) (victim : Entry V) (soonest : cache.Soonest victim)
      (alone : ∀ other, cache.Soonest other → now < other.expiresAt → other = victim) :
      Keeps now key cache (without victim.key cache.entries)

/-- Store a value under a key next to the entries that are kept. -/
def setBeside (kept : List (Entry V)) (now : Nat) (key : String) (value : V)
    (cache : Expiring V) : Expiring V :=
  announce
    { cache with entries := without key kept ++ [⟨key, value, now + cache.ttl.nanos⟩] }

/-- Operations on a cache that may give up any of the entries that expire soonest, as long
as no two of them are unexpired. -/
inductive Runs : Nat → Expiring V → List (Op V) → Expiring V → List (Option V) → Prop
  | nil (now : Nat) (cache : Expiring V) : Runs now cache [] cache []
  | set {now : Nat} {cache final : Expiring V} {rest : List (Op V)} {later : List (Option V)}
      (key : String) (value : V) {kept : List (Entry V)} (keeps : Keeps now key cache kept)
      (runs : Runs now (cache.setBeside kept now key value) rest final later) :
      Runs now cache (.set key value :: rest) final later
  | other {now : Nat} {cache final : Expiring V} {rest : List (Op V)} {later : List (Option V)}
      (op : Op V) (isOther : ∀ key value, op ≠ .set key value)
      (runs : Runs (op.later now) (cache.perform now op).1 rest final later) :
      Runs now cache (op :: rest) final ((cache.perform now op).2 ++ later)

end Expiring

/-! ## What the two have in common -/

/-- The entry of a cache for an entry of a map. -/
def Deposit.entry (life : Nat) (deposit : Deposit V) : Entry V :=
  ⟨deposit.key, deposit.value, deposit.setAt + life⟩

/-- The unexpired entries of a cache. -/
def Expiring.alive (now : Nat) (entries : List (Entry V)) : List (Entry V) :=
  entries.filter (!·.isExpired now)

/-- The entries of a cache are in order, and not too many. -/
structure Expiring.Tidy (now : Nat) (cache : Expiring V) : Prop where
  keys : (cache.entries.map Entry.key).Nodup
  sorted : cache.entries.Pairwise fun first second => first.expiresAt ≤ second.expiresAt
  recent : ∀ entry ∈ cache.entries, entry.expiresAt ≤ now + cache.ttl.nanos
  bounded : cache.size ≤ cache.maxSize
  room : 0 < cache.maxSize

/-- A cache cannot be told from a map. -/
structure Ideal.Tracks (now : Nat) (cache : Expiring V) (ideal : Ideal V) : Prop where
  tidy : cache.Tidy now
  life : cache.ttl.nanos = ideal.life
  room : cache.maxSize = ideal.room
  alive : Expiring.alive now cache.entries = (ideal.present now).map (Deposit.entry ideal.life)
  hits : cache.hits = ideal.hits
  misses : cache.misses = ideal.misses

namespace Expiring

section Alive

variable {now : Nat} {entries : List (Entry V)}

theorem mem_alive {entry : Entry V} :
    entry ∈ alive now entries ↔ entry ∈ entries ∧ now < entry.expiresAt := by
  simp [alive, Entry.isExpired]

/-- What has expired stays so. -/
theorem alive_alive {later : Nat} (onward : now ≤ later) :
    alive later (alive now entries) = alive later entries := by
  rw [alive, alive, List.filter_filter]
  apply List.filter_congr
  intro entry _
  simp only [Entry.isExpired, Bool.and_eq_left_iff_imp, Bool.not_eq_true', decide_eq_false_iff_not]
  omega

theorem alive_without (key : String) :
    alive now (without key entries) = without key (alive now entries) := by
  rw [alive, without, without, alive, List.filter_filter, List.filter_filter]
  exact List.filter_congr fun _ _ => Bool.and_comm _ _

theorem alive_append (others : List (Entry V)) :
    alive now (entries ++ others) = alive now entries ++ alive now others :=
  List.filter_append _ _

/-- Removing an expired entry leaves the others. -/
theorem alive_without_expired (keys : (entries.map Entry.key).Nodup) {victim : Entry V}
    (member : victim ∈ entries) (expired : victim.expiresAt ≤ now) :
    alive now (without victim.key entries) = alive now entries := by
  rw [alive_without, without]
  apply List.filter_eq_self.mpr
  intro entry inside
  obtain ⟨there, fresh⟩ := mem_alive.mp inside
  rw [bne_iff_ne]
  intro same
  obtain rfl := List.inj_on_of_nodup_map keys there member same
  omega

/-- The unexpired entry of a key. -/
theorem find?_alive (keys : (entries.map Entry.key).Nodup) (key : String) :
    (alive now entries).find? (·.key == key) =
      (entries.find? (·.key == key)).filter (!·.isExpired now) := by
  cases found : entries.find? (·.key == key) with
  | none =>
      rw [List.find?_eq_none] at found
      exact List.find?_eq_none.mpr fun entry member => found entry (mem_alive.mp member).1
  | some entry =>
      have member := List.mem_of_find?_eq_some found
      have own : entry.key = key := by simpa using List.find?_some found
      have only : ∀ other ∈ entries, other.key = key → other = entry := fun other there same =>
        List.inj_on_of_nodup_map keys there member (same.trans own.symm)
      rw [Option.filter_some]
      split
      next fresh =>
        have there : entry ∈ alive now entries := List.mem_filter.mpr ⟨member, fresh⟩
        have known : ((alive now entries).find? (·.key == key)).isSome = true :=
          List.find?_isSome.mpr ⟨entry, there, by simpa using own⟩
        obtain ⟨other, otherFound⟩ := Option.isSome_iff_exists.mp known
        have same : other.key = key := by simpa using List.find?_some otherFound
        rw [otherFound, only other (mem_alive.mp (List.mem_of_find?_eq_some otherFound)).1 same]
      next stale =>
        apply List.find?_eq_none.mpr
        intro other there
        obtain ⟨inside, fresh⟩ := List.mem_filter.mp there
        rw [beq_iff_eq]
        intro same
        rw [only other inside same] at fresh
        exact stale fresh

/-- An entry expires when its deposit vanishes. -/
theorem alive_map_entry (life : Nat) (deposits : List (Deposit V)) :
    alive now (deposits.map (Deposit.entry life)) =
      (deposits.filter fun deposit => decide (now < deposit.setAt + life)).map
        (Deposit.entry life) := by
  rw [alive, List.filter_map]
  congr 1
  apply List.filter_congr
  intro deposit _
  change (!decide (deposit.setAt + life ≤ now)) = decide (now < deposit.setAt + life)
  rw [← decide_not, decide_eq_decide]
  exact Nat.not_le

/-- Entries none of which has expired. -/
theorem alive_eq_self (fresh : ∀ entry ∈ entries, now < entry.expiresAt) :
    alive now entries = entries := by
  apply List.filter_eq_self.mpr
  intro entry member
  simpa [Entry.isExpired] using fresh entry member

end Alive

/-! ### Tidiness -/

section Order

variable {now : Nat} {cache after : Expiring V}

/-- Entries are removed, and time passes. -/
theorem Tidy.sublist (tidy : cache.Tidy now) {later : Nat} (onward : now ≤ later)
    (fewer : after.entries.Sublist cache.entries) (ttl : after.ttl = cache.ttl)
    (maxSize : after.maxSize = cache.maxSize) : after.Tidy later where
  keys := tidy.keys.sublist (fewer.map Entry.key)
  sorted := tidy.sorted.sublist fewer
  recent := by
    intro entry member
    have recent := tidy.recent entry (fewer.subset member)
    rw [ttl]
    omega
  bounded := by
    rw [maxSize]
    exact Nat.le_trans fewer.length_le tidy.bounded
  room := maxSize ▸ tidy.room

theorem find?_eq_none_iff {key : String} :
    cache.find? key = none ↔ ∀ entry ∈ cache.entries, entry.key ≠ key := by
  simp [find?]

/-- There is room for the entry of a key once the others are kept. -/
theorem Keeps.length_lt {key : String} {kept : List (Entry V)} (tidy : cache.Tidy now)
    (keeps : Keeps now key cache kept) : (without key kept).length < cache.maxSize := by
  have shorter : ∀ {entries : List (Entry V)} {entry : Entry V}, entry ∈ entries →
      (without entry.key entries).length < entries.length := by
    intro entries entry member
    exact List.length_filter_lt_length_iff_exists.mpr ⟨entry, member, by simp⟩
  cases keeps with
  | all room =>
      by_cases absent : cache.find? key = none
      · have small : cache.size < cache.maxSize := by
          by_contra large
          exact room ⟨absent, Nat.le_of_not_lt large⟩
        exact Nat.lt_of_le_of_lt (List.length_filter_le _ _) small
      · rw [find?_eq_none_iff] at absent
        push Not at absent
        obtain ⟨entry, member, rfl⟩ := absent
        exact Nat.lt_of_lt_of_le (shorter member) tidy.bounded
  | others full victim soonest alone =>
      have less := shorter soonest.1
      exact Nat.lt_of_le_of_lt (List.length_filter_le _ _) (Nat.lt_of_lt_of_le less tidy.bounded)

theorem Keeps.sublist {key : String} {kept : List (Entry V)} (keeps : Keeps now key cache kept) :
    kept.Sublist cache.entries := by
  cases keeps with
  | all room => exact .refl _
  | others full victim soonest alone => exact List.filter_sublist

/-- A key is stored next to entries that leave room for it. -/
theorem Tidy.setBeside (tidy : cache.Tidy now) {key : String} {kept : List (Entry V)}
    (fewer : kept.Sublist cache.entries) (room : (without key kept).length < cache.maxSize)
    (value : V) : (cache.setBeside kept now key value).Tidy now := by
  have others : (without key kept).Sublist cache.entries := List.filter_sublist.trans fewer
  constructor
  · change ((without key kept ++ [_]).map Entry.key).Nodup
    rw [List.map_append, List.nodup_append]
    refine ⟨tidy.keys.sublist (others.map _), List.nodup_singleton _, ?_⟩
    intro first isOther second isNew
    obtain ⟨entry, member, rfl⟩ := List.mem_map.mp isOther
    rw [List.mem_singleton.mp isNew]
    simpa using (List.mem_filter.mp member).2
  · change (without key kept ++ [_]).Pairwise _
    rw [List.pairwise_append]
    refine ⟨tidy.sorted.sublist others, List.pairwise_singleton _ _, ?_⟩
    intro entry member new isNew
    rw [List.mem_singleton.mp isNew]
    exact tidy.recent entry (others.subset member)
  · intro entry member
    rcases List.mem_append.mp member with old | new
    · exact tidy.recent entry (others.subset old)
    · rw [List.mem_singleton.mp new]
      exact Nat.le_refl _
  · change (without key kept ++ [_]).length ≤ cache.maxSize
    rw [List.length_append, List.length_singleton]
    exact room
  · exact tidy.room

end Order

end Expiring

/-! ### Room for a key -/

namespace Ideal.Tracks

open Expiring

variable {now : Nat} {cache : Expiring V} {ideal : Ideal V}

/-- The map is full if the cache is full of unexpired entries. -/
theorem length_present_iff (tracks : Tracks now cache ideal) :
    (ideal.present now).length = ideal.room ↔
      cache.maxSize ≤ cache.size ∧ Expiring.alive now cache.entries = cache.entries := by
  have bounded := tracks.tidy.bounded
  have length : (ideal.present now).length = (Expiring.alive now cache.entries).length := by
    rw [tracks.alive, List.length_map]
  have fewer : (Expiring.alive now cache.entries).Sublist cache.entries := List.filter_sublist
  rw [length, ← tracks.room]
  constructor
  · intro full
    have size : cache.size = (Expiring.alive now cache.entries).length :=
      Nat.le_antisymm (full ▸ bounded) fewer.length_le
    exact ⟨Nat.le_of_eq (full.symm.trans size.symm), fewer.eq_of_length size.symm⟩
  · rintro ⟨full, same⟩
    rw [same]
    exact Nat.le_antisymm bounded full

/-- A key of an unexpired entry is a key of the map. -/
theorem all_ne_iff (tracks : Tracks now cache ideal) (key : String) :
    (ideal.present now).all (·.key != key) = true ↔
      ∀ entry ∈ Expiring.alive now cache.entries, entry.key ≠ key := by
  rw [tracks.alive, List.all_eq_true]
  simp [Deposit.entry]

/-- A cache that has room for a key keeps what the map keeps. -/
theorem alive_of_room (tracks : Tracks now cache ideal) {key : String} (room : ¬ cache.Full key) :
    Expiring.alive now cache.entries = (ideal.kept now key).map (Deposit.entry ideal.life) := by
  rw [tracks.alive, Ideal.kept]
  split
  next crowded =>
    rw [Bool.and_eq_true, beq_iff_eq, tracks.length_present_iff, tracks.all_ne_iff] at crowded
    obtain ⟨absent, full, same⟩ := crowded
    rw [same] at absent
    exact absurd ⟨find?_eq_none_iff.mpr absent, full⟩ room
  · rfl

/-- A full cache that gives up an entry that expires soonest keeps of the unexpired ones what
the map keeps, provided that it gives up the first one when none has expired. -/
theorem alive_of_full (tracks : Tracks now cache ideal) {key : String} (full : cache.Full key)
    {victim : Entry V} (soonest : cache.Soonest victim)
    (first : ∀ entry others, cache.entries = entry :: others → now < entry.expiresAt →
      victim = entry) :
    Expiring.alive now (without victim.key cache.entries) =
      (ideal.kept now key).map (Deposit.entry ideal.life) := by
  rw [Ideal.kept]
  split
  next crowded =>
    rw [Bool.and_eq_true, beq_iff_eq, tracks.length_present_iff] at crowded
    obtain ⟨_, _, same⟩ := crowded
    have fresh : ∀ entry ∈ cache.entries, now < entry.expiresAt := by
      intro entry member
      rw [← same] at member
      exact (mem_alive.mp member).2
    rw [alive_without, List.map_tail, ← tracks.alive, same]
    cases entriesEq : cache.entries with
    | nil =>
        have member := soonest.1
        rw [entriesEq] at member
        cases member
    | cons entry others =>
        obtain rfl := first entry others entriesEq (fresh entry (entriesEq ▸ List.mem_cons_self))
        have keys := tracks.tidy.keys
        rw [entriesEq, List.map_cons, List.nodup_cons] at keys
        rw [without, List.filter_cons_of_neg (by simp), List.tail_cons]
        apply List.filter_eq_self.mpr
        intro other member
        rw [bne_iff_ne]
        intro same
        exact keys.1 (same ▸ List.mem_map_of_mem member)
  next roomy =>
    -- Some entry has expired, and so has the one that expires soonest.
    have expired : victim.expiresAt ≤ now := by
      by_contra alive
      have fresh : ∀ entry ∈ cache.entries, now < entry.expiresAt :=
        fun entry member => Nat.lt_of_lt_of_le (Nat.lt_of_not_le alive) (soonest.2 entry member)
      have same := alive_eq_self fresh
      apply roomy
      rw [Bool.and_eq_true, beq_iff_eq, tracks.length_present_iff, tracks.all_ne_iff, same]
      exact ⟨find?_eq_none_iff.mp full.1, full.2, rfl⟩
    rw [alive_without_expired tracks.tidy.keys soonest.1 expired, tracks.alive]

/-- Whichever entry a cache gives up, it keeps of the unexpired ones what the map keeps. -/
theorem alive_of_keeps (tracks : Tracks now cache ideal) {key : String} {kept : List (Entry V)}
    (keeps : Keeps now key cache kept) :
    Expiring.alive now kept = (ideal.kept now key).map (Deposit.entry ideal.life) := by
  cases keeps with
  | all room => exact tracks.alive_of_room room
  | others full victim soonest alone =>
      apply tracks.alive_of_full full soonest
      intro entry others entriesEq fresh
      have sorted := tracks.tidy.sorted
      rw [entriesEq, List.pairwise_cons] at sorted
      have isSoonest : cache.Soonest entry := by
        refine ⟨entriesEq ▸ List.mem_cons_self, fun other member => ?_⟩
        rw [entriesEq] at member
        rcases List.mem_cons.mp member with rfl | later
        · exact Nat.le_refl _
        · exact sorted.1 other later
      exact (alone entry isSoonest fresh).symm

end Ideal.Tracks

/-! ### The entry that makes room -/

namespace Expiring

theorem soonest?_of_sorted {entry : Entry V} {others : List (Entry V)}
    (sorted : (entry :: others).Pairwise fun first second => first.expiresAt ≤ second.expiresAt) :
    soonest? (entry :: others) = some entry := by
  induction others generalizing entry with
  | nil => rfl
  | cons next rest ih =>
      obtain ⟨least, later⟩ := List.pairwise_cons.mp sorted
      rw [soonest?, ih later]
      exact if_pos (least next List.mem_cons_self)

/-- A tidy cache that is full gives up its first entry. -/
theorem makeRoom_of_full {now : Nat} {cache : Expiring V} (tidy : cache.Tidy now) {key : String}
    (full : cache.Full key) : ∃ entry others, cache.entries = entry :: others ∧
      cache.Soonest entry ∧ cache.makeRoom key = without entry.key cache.entries := by
  obtain ⟨absent, large⟩ := full
  cases entriesEq : cache.entries with
  | nil =>
      have room := tidy.room
      rw [size, entriesEq, List.length_nil] at large
      omega
  | cons entry others =>
      have sorted := tidy.sorted
      rw [entriesEq] at sorted
      refine ⟨entry, others, rfl, ⟨entriesEq ▸ List.mem_cons_self, fun other member => ?_⟩, ?_⟩
      · rw [entriesEq] at member
        rcases List.mem_cons.mp member with rfl | later
        · exact Nat.le_refl _
        · exact (List.pairwise_cons.mp sorted).1 other later
      · rw [makeRoom, absent, decide_eq_true large, entriesEq, soonest?_of_sorted sorted]
        rfl

theorem makeRoom_of_room {cache : Expiring V} {key : String} (room : ¬ cache.Full key) :
    cache.makeRoom key = cache.entries := by
  rw [makeRoom, if_neg]
  rw [Bool.and_eq_true, decide_eq_true_eq, Option.isNone_iff_eq_none]
  exact room

end Expiring

/-! ### Operations -/

/-- The last sweep that fell due is not to come. -/
theorem Sweeper.lastSweep_le (sweeper : Sweeper) (millis : Nat) :
    sweeper.lastSweep millis ≤ millis := by
  have within : sweeper.count millis * sweeper.interval.nanos ≤ millis * Span.perMilli :=
    Nat.div_mul_le_self _ _
  rw [lastSweep, Span.timerMillis]
  have whole : Span.perMilli = 1000000 := rfl
  rw [whole] at within ⊢
  change (sweeper.count millis * sweeper.interval.nanos + (1000000 - 1)) / 1000000 ≤ millis
  omega

/-- What is present once a key was set. -/
theorem Ideal.present_set (now : Nat) (key : String) (value : V) (ideal : Ideal V) :
    (ideal.set now key value).present now =
      (ideal.kept now key).filter (·.key != key) ++
        [⟨key, value, now⟩].filter fun deposit => decide (now < deposit.setAt + ideal.life) := by
  change List.filter _ (List.filter _ (ideal.kept now key) ++ [_]) = _
  rw [List.filter_append]
  congr 1
  apply List.filter_eq_self.mpr
  intro deposit member
  have isKept := (List.mem_filter.mp member).1
  have isPresent : deposit ∈ ideal.present now := by
    rw [kept] at isKept
    split at isKept
    · exact List.mem_of_mem_tail isKept
    · exact isKept
  exact (List.mem_filter.mp isPresent).2

namespace Ideal.Tracks

open Expiring

variable {now : Nat} {cache : Expiring V} {ideal : Ideal V}

theorem make (ttl : Span) (maxSize now : Nat) :
    Tracks now (Expiring.make ttl maxSize : Expiring V) (Ideal.make ttl maxSize) where
  tidy := ⟨List.nodup_nil, .nil, fun _ member => absurd member List.not_mem_nil, Nat.zero_le _,
    Nat.lt_of_lt_of_le Nat.zero_lt_one (Nat.le_max_right _ _)⟩
  life := by
    change (ttl.shorter longestLife).nanos = min ttl.nanos longestLife.nanos
    rw [Span.shorter]
    split <;> omega
  room := Nat.max_comm _ _
  alive := rfl
  hits := rfl
  misses := rfl

/-- Expired entries leave the cache, and time passes. -/
theorem shed (tracks : Tracks now cache ideal) {later : Nat} (onward : now ≤ later)
    {after : Expiring V} (fewer : after.entries.Sublist cache.entries)
    (alive : Expiring.alive later after.entries = Expiring.alive later cache.entries)
    (ttl : after.ttl = cache.ttl) (maxSize : after.maxSize = cache.maxSize)
    (hits : after.hits = cache.hits) (misses : after.misses = cache.misses) :
    Tracks later after ideal where
  tidy := tracks.tidy.sublist onward fewer ttl maxSize
  life := ttl ▸ tracks.life
  room := maxSize ▸ tracks.room
  alive := by
    have still : (ideal.present now).filter (fun deposit => decide (later < deposit.setAt + ideal.life)) =
        ideal.present later := by
      rw [present, present, List.filter_filter]
      apply List.filter_congr
      intro deposit _
      simp only [Bool.and_eq_left_iff_imp, decide_eq_true_eq]
      omega
    rw [alive, ← alive_alive onward, tracks.alive, ← still, alive_map_entry]
  hits := hits ▸ tracks.hits
  misses := misses ▸ tracks.misses

/-- A key is stored next to what the map keeps. -/
theorem setBeside (tracks : Tracks now cache ideal) {key : String} {rest : List (Entry V)}
    (fewer : rest.Sublist cache.entries) (room : (without key rest).length < cache.maxSize)
    (alive : Expiring.alive now rest = (ideal.kept now key).map (Deposit.entry ideal.life))
    (value : V) : Tracks now (cache.setBeside rest now key value) (ideal.set now key value) where
  tidy := tracks.tidy.setBeside fewer room value
  life := tracks.life
  room := tracks.room
  alive := by
    change Expiring.alive now (without key rest ++ [_]) =
      List.map (Deposit.entry ideal.life) ((ideal.set now key value).present now)
    rw [alive_append, alive_without, alive, present_set, List.map_append]
    congr 1
    · rw [without, List.filter_map]
      rfl
    · rw [← alive_map_entry, tracks.life]
      rfl
  hits := tracks.hits
  misses := tracks.misses

theorem set (tracks : Tracks now cache ideal) (key : String) (value : V) :
    Tracks now (cache.set now key value) (ideal.set now key value) := by
  change Tracks now (cache.setBeside (cache.makeRoom key) now key value) _
  by_cases full : cache.Full key
  · obtain ⟨entry, others, entriesEq, soonest, makeRoomEq⟩ := makeRoom_of_full tracks.tidy full
    have alive := tracks.alive_of_full full soonest (by
      intro first rest same _
      exact (List.cons.inj (entriesEq.symm.trans same)).1)
    rw [makeRoomEq]
    apply tracks.setBeside List.filter_sublist _ alive
    have less : (without entry.key cache.entries).length < cache.entries.length :=
      List.length_filter_lt_length_iff_exists.mpr ⟨entry, soonest.1, by simp⟩
    exact Nat.lt_of_le_of_lt (List.length_filter_le _ _)
      (Nat.lt_of_lt_of_le less tracks.tidy.bounded)
  · rw [makeRoom_of_room full]
    have keeps : Keeps now key cache cache.entries := .all full
    exact tracks.setBeside (.refl _) (keeps.length_lt tracks.tidy) (tracks.alive_of_room full) value

/-- Expired entries are removed, as of an instant that is not to come. -/
theorem purge (tracks : Tracks now cache ideal) {instant later : Nat} (past : instant ≤ later)
    (onward : now ≤ later) : Tracks later (cache.purge instant) ideal :=
  tracks.shed onward List.filter_sublist (alive_alive past) rfl rfl rfl rfl

theorem wait (tracks : Tracks now cache ideal) (sweeper : Sweeper) (nanos : Nat) :
    Tracks (now + nanos)
      (sweeper.elapse (now / Span.perMilli) ((now + nanos) / Span.perMilli) cache) ideal := by
  have onward : now ≤ now + nanos := Nat.le_add_right _ _
  unfold Sweeper.elapse
  split
  · exact tracks.shed onward (.refl _) rfl rfl rfl rfl rfl
  · apply tracks.purge _ onward
    exact Nat.le_trans (Nat.mul_le_mul_right _ (sweeper.lastSweep_le _)) (Nat.div_mul_le_self _ _)

theorem delete (tracks : Tracks now cache ideal) (key : String) :
    Tracks now (cache.delete key) (ideal.delete key) where
  tidy := tracks.tidy.sublist (Nat.le_refl _) List.filter_sublist rfl rfl
  life := tracks.life
  room := tracks.room
  alive := by
    have commute : (ideal.delete key).present now = (ideal.present now).filter (·.key != key) := by
      change (List.filter _ (List.filter _ _)) = List.filter _ (List.filter _ _)
      rw [List.filter_filter, List.filter_filter]
      exact List.filter_congr fun _ _ => Bool.and_comm _ _
    change Expiring.alive now (without key cache.entries) = List.map (Deposit.entry ideal.life) _
    rw [alive_without, tracks.alive, commute, without, List.filter_map]
    rfl
  hits := tracks.hits
  misses := tracks.misses

theorem clear (tracks : Tracks now cache ideal) : Tracks now cache.clear ideal.clear where
  tidy := tracks.tidy.sublist (Nat.le_refl _) (List.nil_sublist _) rfl rfl
  life := tracks.life
  room := tracks.room
  alive := rfl
  hits := tracks.hits
  misses := tracks.misses

/-- What a lookup in the map finds is the unexpired entry of the key. -/
theorem find?_present (tracks : Tracks now cache ideal) (key : String) :
    ((ideal.present now).find? (·.key == key)).map (Deposit.entry ideal.life) =
      (cache.find? key).filter (!·.isExpired now) := by
  have found : ((ideal.present now).find? (·.key == key)).map (Deposit.entry ideal.life) =
      (Expiring.alive now cache.entries).find? (·.key == key) := by
    rw [tracks.alive, List.find?_map]
    rfl
  rw [found, find?_alive tracks.tidy.keys]
  rfl

/-- A lookup has the same answer, and is counted alike. -/
theorem get (tracks : Tracks now cache ideal) (key : String) :
    (cache.get now key).2 = (ideal.get now key).2 ∧
      Tracks now (cache.get now key).1 (ideal.get now key).1 := by
  have found := tracks.find?_present key
  have missed : ∀ after : Expiring V, after.entries.Sublist cache.entries →
      Expiring.alive now after.entries = Expiring.alive now cache.entries →
      after.ttl = cache.ttl → after.maxSize = cache.maxSize → after.hits = cache.hits →
      Tracks now { after with misses := cache.misses + 1 }
        { ideal with misses := ideal.misses + 1 } := by
    intro after fewer alive ttl maxSize hits
    have same : Tracks now { after with misses := cache.misses } ideal :=
      tracks.shed (Nat.le_refl _) fewer alive ttl maxSize hits rfl
    exact ⟨same.tidy.sublist (Nat.le_refl _) (.refl _) rfl rfl, same.life, same.room, same.alive,
      same.hits, congrArg (· + 1) tracks.misses⟩
  unfold Expiring.get Ideal.get
  cases stored : cache.find? key with
  | none =>
      rw [stored] at found
      rw [Option.map_eq_none_iff.mp found]
      exact ⟨rfl, missed cache (.refl _) rfl rfl rfl rfl⟩
  | some entry =>
      obtain ⟨member, own⟩ : entry ∈ cache.entries ∧ entry.key = key :=
        ⟨List.mem_of_find?_eq_some stored, by simpa using List.find?_some stored⟩
      rw [stored] at found
      dsimp only
      by_cases expired : entry.isExpired now = true
      · rw [Option.filter_some, if_neg (by rw [expired]; exact Bool.false_ne_true)] at found
        rw [if_pos expired, Option.map_eq_none_iff.mp found]
        refine ⟨rfl, missed { cache with entries := without key cache.entries }
          List.filter_sublist ?_ rfl rfl rfl⟩
        rw [← own]
        exact alive_without_expired tracks.tidy.keys member (of_decide_eq_true expired)
      · rw [Option.filter_some, if_pos (by simpa using expired)] at found
        obtain ⟨deposit, depositFound, rfl⟩ := Option.map_eq_some_iff.mp found
        rw [if_neg expired, depositFound]
        refine ⟨rfl, tracks.tidy.sublist (Nat.le_refl _) (.refl _) rfl rfl, tracks.life,
          tracks.room, tracks.alive, congrArg (· + 1) tracks.hits, tracks.misses⟩

end Ideal.Tracks

/-! ### Runs -/

namespace Ideal.Tracks

open Expiring

variable {now : Nat} {cache : Expiring V} {ideal : Ideal V}

/-- Every operation has the same answer on a cache and on the map that it cannot be told
from, and leaves them so. -/
theorem perform (tracks : Tracks now cache ideal) (op : Op V) :
    (cache.perform now op).2 = (ideal.perform now op).2 ∧
      Tracks (op.later now) (cache.perform now op).1 (ideal.perform now op).1 := by
  cases op with
  | get key =>
      obtain ⟨answer, still⟩ := tracks.get key
      exact ⟨congrArg (fun answer => [answer]) answer, still⟩
  | set key value => exact ⟨rfl, tracks.set key value⟩
  | delete key => exact ⟨rfl, tracks.delete key⟩
  | clear => exact ⟨rfl, tracks.clear⟩
  | purge => exact ⟨rfl, tracks.purge (Nat.le_refl _) (Nat.le_refl _)⟩
  | wait sweeper nanos => exact ⟨rfl, tracks.wait sweeper nanos⟩

/-- Operations one after another have the same answers. -/
theorem run (tracks : Tracks now cache ideal) (ops : List (Op V)) :
    (cache.run now ops).2 = (ideal.run now ops).2 ∧
      ∃ later, Tracks later (cache.run now ops).1 (ideal.run now ops).1 := by
  induction ops generalizing now cache ideal with
  | nil => exact ⟨rfl, now, tracks⟩
  | cons op rest ih =>
      obtain ⟨answer, next⟩ := tracks.perform op
      obtain ⟨answers, final⟩ := ih next
      exact ⟨congrArg₂ (· ++ ·) answer answers, final⟩

/-- So they have whichever entries the cache gives up. -/
theorem runs {ops : List (Op V)} {final : Expiring V} {answers : List (Option V)}
    (runs : Runs now cache ops final answers) (tracks : Tracks now cache ideal) :
    answers = (ideal.run now ops).2 ∧ ∃ later, Tracks later final (ideal.run now ops).1 := by
  induction runs generalizing ideal with
  | nil now cache => exact ⟨rfl, now, tracks⟩
  | set key value keeps _ ih =>
      exact ih (tracks.setBeside keeps.sublist (keeps.length_lt tracks.tidy)
        (tracks.alive_of_keeps keeps) value)
  | other op _ _ ih =>
      obtain ⟨answer, next⟩ := tracks.perform op
      obtain ⟨answers, final⟩ := ih next
      exact ⟨congrArg₂ (· ++ ·) answer answers, final⟩

end Ideal.Tracks

/-- A cache has answered as a map has, counts as it does, and is not too large. -/
structure Expiring.Agrees (maxSize : Nat) (cache : Expiring V) (answers : List (Option V))
    (ideal : Ideal V × List (Option V)) : Prop where
  answers_eq : answers = ideal.2
  hits : cache.hits = ideal.1.hits
  misses : cache.misses = ideal.1.misses
  bounded : cache.size ≤ max 1 maxSize

theorem Ideal.Tracks.agrees {now maxSize : Nat} {cache : Expiring V} {ideal : Ideal V}
    (tracks : Tracks now cache ideal) (size : cache.maxSize = max 1 maxSize)
    {answers expected : List (Option V)} (same : answers = expected) :
    Expiring.Agrees maxSize cache answers (ideal, expected) where
  answers_eq := same
  hits := tracks.hits
  misses := tracks.misses
  bounded := size ▸ tracks.tidy.bounded

theorem Ideal.room_run (now : Nat) (ideal : Ideal V) (ops : List (Op V)) :
    (ideal.run now ops).1.room = ideal.room := by
  induction ops generalizing now ideal with
  | nil => rfl
  | cons op rest ih =>
      refine (ih _ _).trans ?_
      cases op with
      | get key =>
          change (ideal.get now key).1.room = _
          unfold Ideal.get
          split <;> rfl
      | set | delete | clear | purge | wait => rfl

/-- Whatever is done to a cache, it answers and counts as an ideal map does, and never holds
more entries than it has room for.  A cache that gives up other entries than the one set
longest ago, when several expire soonest, does so too, as long as no two of those are
unexpired. -/
theorem refines_ideal (ttl : Span) (maxSize now : Nat) (ops : List (Op V)) :
    Expiring.Agrees maxSize ((Expiring.make ttl maxSize).run now ops).1
        ((Expiring.make ttl maxSize).run now ops).2 ((Ideal.make ttl maxSize).run now ops) ∧
      ∀ (final : Expiring V) (answers : List (Option V)),
        Expiring.Runs now (Expiring.make ttl maxSize) ops final answers →
          Expiring.Agrees maxSize final answers ((Ideal.make ttl maxSize).run now ops) := by
  have start : Ideal.Tracks now (Expiring.make ttl maxSize : Expiring V) (.make ttl maxSize) :=
    .make ttl maxSize now
  have room : ((Ideal.make ttl maxSize : Ideal V).run now ops).1.room = max 1 maxSize :=
    Ideal.room_run now _ ops
  constructor
  · obtain ⟨answers, _, tracks⟩ := start.run ops
    exact tracks.agrees (tracks.room.trans room) answers
  · intro final answers runs
    obtain ⟨same, _, tracks⟩ := start.runs runs
    exact tracks.agrees (tracks.room.trans room) same

/-- In a cache with room for one entry, a key is stored when another one is 3 ns old. -/
def oneRoom : List (Op Nat) :=
  [.set "a" 1, .wait (.make (Span.ofMillis 1)) 3, .set "b" 2, .get "a", .get "b"]

theorem refines_ideal_oneRoom :
    ∃ final : Expiring Nat,
      Expiring.Runs 0 (Expiring.make ⟨5⟩ 1) oneRoom final [none, some 2] ∧
        Expiring.Agrees 1 final [none, some 2] ((Ideal.make ⟨5⟩ 1).run 0 oneRoom) := by
  have first : ¬ Expiring.Full "a" (Expiring.make ⟨5⟩ 1 : Expiring Nat) := by
    rintro ⟨_, full⟩
    cases full
  let aged : Expiring Nat :=
    ((Expiring.make ⟨5⟩ 1 : Expiring Nat).setBeside [] 0 "a" 1).perform 0
      (.wait (.make (Span.ofMillis 1)) 3) |>.1
  have evicts : Expiring.Keeps 3 "b" aged [] := by
    have only : ∀ other ∈ aged.entries, other = ⟨"a", 1, 5⟩ := by
      intro other member
      exact List.mem_singleton.mp member
    refine .others ⟨rfl, Nat.le_refl _⟩ ⟨"a", 1, 5⟩ ⟨List.mem_singleton_self _, ?_⟩ ?_
    · intro other member
      obtain rfl := only other member
      exact Nat.le_refl _
    · intro other soonest _
      exact only other soonest.1
  have runs : Expiring.Runs 0 (Expiring.make ⟨5⟩ 1) oneRoom
      (aged.setBeside [] 3 "b" 2 |>.run 3 [.get "a", .get "b"]).1 [none, some 2] :=
    .set "a" 1 (.all first) (.other _ nofun (.set "b" 2 evicts
      (.other _ nofun (.other _ nofun (.nil _ _)))))
  exact ⟨_, runs, (refines_ideal ⟨5⟩ 1 0 oneRoom).2 _ _ runs⟩

end RiskGate.Cache
