import RiskGate.Proofs.Cache.Ideal
import Mathlib.Order.Bounds.Basic

/-!
# How long dead entries linger

A sweeper removes the expired entries at every multiple of its interval, on the next whole
millisecond.  When the clock jumps over several of them, it is as if each of these sweeps were made
at its own time, although only the last one is carried out.

What carries the proof is that no entry has expired by the last sweep that fell due.  A sweep
brings this about, and a value that is stored later expires later.  Everything else only removes
entries, and after the sweeper was closed nothing is promised but that a lookup finds no expired
entry.
-/

namespace RiskGate

theorem Span.nanos_shorter (a b : Span) : (a.shorter b).nanos = min a.nanos b.nanos := by
  unfold shorter
  split
  next le => exact (Nat.min_eq_left le).symm
  next above => exact (Nat.min_eq_right (Nat.le_of_not_le above)).symm

theorem Span.nanos_longer (a b : Span) : (a.longer b).nanos = max a.nanos b.nanos := by
  unfold longer
  split
  next le => exact (Nat.max_eq_right le).symm
  next above => exact (Nat.max_eq_left (Nat.le_of_not_le above)).symm

namespace Cache

variable {V : Type}

/-! ## The instants of sweeps -/

namespace Sweeper

/-- The instant of a sweep: a multiple of the interval, or the next whole millisecond. -/
def instant (sweeper : Sweeper) (number : Nat) : Nat :=
  (Span.ofMillis (Span.mk (number * sweeper.interval.nanos)).timerMillis).nanos

/-- The instants of the sweeps that fall due after one instant and not after another. -/
def due (sweeper : Sweeper) (start stop : Nat) : List Nat :=
  (List.range' (sweeper.count (start / Span.perMilli) + 1)
    (sweeper.count (stop / Span.perMilli) - sweeper.count (start / Span.perMilli))).map
      sweeper.instant

/-- The interval is a millisecond at least. -/
def Paced (sweeper : Sweeper) : Prop := Span.perMilli ≤ sweeper.interval.nanos

theorem interval_make (interval : Span) :
    (make interval).interval.nanos = min (max interval.nanos Span.perMilli) longestLife.nanos := by
  rw [make, Span.nanos_shorter, Span.nanos_longer]
  rfl

theorem paced_make (interval : Span) : (make interval).Paced := by
  rw [Paced, interval_make]
  exact Nat.le_min.mpr ⟨Nat.le_max_right _ _, by decide⟩

variable {sweeper : Sweeper}

theorem Paced.pos (paced : sweeper.Paced) : 0 < sweeper.interval.nanos :=
  Nat.lt_of_lt_of_le (by decide) paced

/-- The sweeps up to an instant are those that are counted. -/
theorem Paced.instant_le_iff (paced : sweeper.Paced) {number now : Nat} :
    sweeper.instant number ≤ now ↔ number ≤ sweeper.count (now / Span.perMilli) := by
  have whole : 0 < Span.perMilli := by decide
  have rounded (a b : Nat) : (a + (Span.perMilli - 1)) / Span.perMilli ≤ b ↔
      a ≤ b * Span.perMilli := by
    rw [Nat.div_le_iff_le_mul_add_pred whole, Nat.mul_comm]
    exact Nat.add_le_add_iff_right
  calc sweeper.instant number ≤ now
      ↔ (Span.mk (number * sweeper.interval.nanos)).timerMillis ≤ now / Span.perMilli :=
        (Nat.le_div_iff_mul_le whole).symm
    _ ↔ number * sweeper.interval.nanos ≤ now / Span.perMilli * Span.perMilli := rounded _ _
    _ ↔ number ≤ sweeper.count (now / Span.perMilli) := (Nat.le_div_iff_mul_le paced.pos).symm

/-- Different sweeps are made at different instants, in their order. -/
theorem Paced.strictMono_instant (paced : sweeper.Paced) : StrictMono sweeper.instant := by
  apply strictMono_nat_of_lt_succ
  intro number
  have step : number * sweeper.interval.nanos + Span.perMilli ≤
      (number + 1) * sweeper.interval.nanos := by
    rw [Nat.succ_mul]
    exact Nat.add_le_add_left paced _
  apply Nat.mul_lt_mul_of_pos_right _ (by decide)
  rw [Span.timerMillis, Span.timerMillis, Nat.lt_iff_add_one_le,
    ← Nat.add_div_right _ (by decide : 0 < Span.perMilli)]
  apply Nat.div_le_div_right
  rw [Nat.add_right_comm]
  exact Nat.add_le_add_right step _

/-- The last sweep that fell due up to an instant. -/
theorem Paced.isGreatest_instant (paced : sweeper.Paced) (now : Nat) :
    IsGreatest {time | (∃ number, time = sweeper.instant number) ∧ time ≤ now}
      (sweeper.instant (sweeper.count (now / Span.perMilli))) := by
  refine ⟨⟨⟨_, rfl⟩, paced.instant_le_iff.mpr (Nat.le_refl _)⟩, ?_⟩
  rintro _ ⟨⟨number, rfl⟩, past⟩
  exact paced.strictMono_instant.monotone (paced.instant_le_iff.mp past)

theorem Paced.mem_due (paced : sweeper.Paced) {start stop time : Nat} :
    time ∈ sweeper.due start stop ↔
      (∃ number, time = sweeper.instant number) ∧ start < time ∧ time ≤ stop := by
  rw [due, List.mem_map]
  constructor
  · rintro ⟨number, counted, rfl⟩
    rw [List.mem_range'_1] at counted
    rw [paced.instant_le_iff, ← Nat.not_le, paced.instant_le_iff]
    exact ⟨⟨number, rfl⟩, by omega, by omega⟩
  · rintro ⟨⟨number, rfl⟩, later, past⟩
    rw [← Nat.not_le, paced.instant_le_iff] at later
    rw [paced.instant_le_iff] at past
    refine ⟨number, ?_, rfl⟩
    rw [List.mem_range'_1]
    omega

/-- The sweeps due in a time are those due in its parts. -/
theorem due_append {start middle stop : Nat} (first : start ≤ middle) (second : middle ≤ stop) :
    sweeper.due start middle ++ sweeper.due middle stop = sweeper.due start stop := by
  have counted {one other : Nat} (le : one ≤ other) :
      sweeper.count (one / Span.perMilli) ≤ sweeper.count (other / Span.perMilli) :=
    Nat.div_le_div_right (Nat.mul_le_mul_right _ (Nat.div_le_div_right le))
  have before := counted first
  have after := counted second
  have joined (a b c : Nat) (ab : a ≤ b) (bc : b ≤ c) :
      List.range' (a + 1) (b - a) ++ List.range' (b + 1) (c - b) = List.range' (a + 1) (c - a) := by
    have next : b + 1 = a + 1 + (b - a) := by omega
    have total : c - a = b - a + (c - b) := by omega
    rw [next, total, List.range'_append_1]
  rw [due, due, due, ← List.map_append, joined _ _ _ before after]

theorem Paced.sorted_due (paced : sweeper.Paced) (start stop : Nat) :
    (sweeper.due start stop).Pairwise (· < ·) :=
  List.pairwise_map.mpr
    ((List.pairwise_lt_range').imp fun before => paced.strictMono_instant before)

end Sweeper

/-! ## Sweeps one after another -/

namespace Expiring

/-- Sweeps at several instants, one after another. -/
def sweep (times : List Nat) (cache : Expiring V) : Expiring V :=
  times.foldl (fun cache time => cache.purge time) cache

variable {cache : Expiring V}

/-- A later sweep leaves no trace of an earlier one. -/
theorem purge_purge {earlier later : Nat} (onward : earlier ≤ later) :
    (cache.purge earlier).purge later = cache.purge later := by
  have entries : (cache.purge earlier).entries.filter (!·.isExpired later) =
      cache.entries.filter (!·.isExpired later) :=
    alive_alive onward
  change announce { cache.purge earlier with entries := _ } = _
  rw [entries]
  rfl

/-- Sweeps at later and later instants leave the trace of the last one. -/
theorem sweep_range' {instant : Nat → Nat} (monotone : Monotone instant) (first count : Nat) :
    cache.sweep ((List.range' first (count + 1)).map instant) =
      cache.purge (instant (first + count)) := by
  induction count with
  | zero => rfl
  | succ count ih =>
      rw [List.range'_concat, Nat.one_mul, List.map_append, sweep, List.foldl_append]
      change (cache.sweep _).purge _ = _
      rw [ih]
      exact purge_purge (monotone (Nat.le_succ _))

/-- While the clock moves, each sweep is made that falls due. -/
theorem elapse_eq_sweep {sweeper : Sweeper} (paced : sweeper.Paced)
    (running : sweeper.closed = false) (start stop : Nat) :
    sweeper.elapse (start / Span.perMilli) (stop / Span.perMilli) cache =
      cache.sweep (sweeper.due start stop) := by
  rw [Sweeper.elapse, Sweeper.due, running, Bool.false_or]
  generalize started : sweeper.count (start / Span.perMilli) = first
  generalize stopped : sweeper.count (stop / Span.perMilli) = last
  by_cases none : last ≤ first
  · rw [if_pos (decide_eq_true none), Nat.sub_eq_zero_of_le none]
    rfl
  · obtain ⟨more, rfl⟩ := Nat.exists_eq_add_of_lt (Nat.lt_of_not_le none)
    have number : first + more + 1 - first = more + 1 := by omega
    rw [if_neg (mt of_decide_eq_true none), number, sweep_range' paced.strictMono_instant.monotone,
      Nat.add_right_comm, Sweeper.lastSweep, stopped]
    rfl

/-- Sweeps remove the entries that have expired by one of them. -/
theorem mem_sweep {times : List Nat} {entry : Entry V} :
    entry ∈ (cache.sweep times).entries ↔
      entry ∈ cache.entries ∧ ∀ time ∈ times, time < entry.expiresAt := by
  induction times generalizing cache with
  | nil => simp [sweep]
  | cons time rest ih =>
      have first : entry ∈ (cache.purge time).entries ↔
          entry ∈ cache.entries ∧ time < entry.expiresAt := mem_alive
      rw [sweep, List.foldl_cons]
      change entry ∈ ((cache.purge time).sweep rest).entries ↔ _
      rw [ih, first, List.forall_mem_cons, and_assoc]

/-- Sweeps change no counters, and no limits. -/
theorem sweep_counters (times : List Nat) :
    (cache.sweep times).hits = cache.hits ∧ (cache.sweep times).misses = cache.misses ∧
      (cache.sweep times).ttl = cache.ttl := by
  induction times generalizing cache with
  | nil => exact ⟨rfl, rfl, rfl⟩
  | cons time rest ih => exact ih

theorem sweep_append (first second : List Nat) :
    cache.sweep (first ++ second) = (cache.sweep first).sweep second :=
  List.foldl_append

end Expiring

/-! ## Caches with a sweeper -/

/-- A cache and its sweeper, and the clock. -/
@[ext]
structure Tended (V : Type) where
  cache : Expiring V
  sweeper : Sweeper
  /-- Nanoseconds since the cache was made. -/
  now : Nat := 0

/-- What can happen to a cache with a sweeper. -/
inductive Act (V : Type) where
  | get (key : String)
  | set (key : String) (value : V)
  | delete (key : String)
  | clear
  /-- The expired entries are removed by hand. -/
  | purge
  /-- The sweeper is stopped. -/
  | close
  /-- Nanoseconds pass. -/
  | wait (nanos : Nat)

namespace Tended

def make (ttl : Span) (maxSize : Nat) (interval : Span) : Tended V where
  cache := .make ttl maxSize
  sweeper := .make interval

/-- The clock moves, and the sweeper does its work. -/
def wait (nanos : Nat) (tended : Tended V) : Tended V :=
  { tended with
    cache := tended.sweeper.elapse (tended.now / Span.perMilli)
      ((tended.now + nanos) / Span.perMilli) tended.cache
    now := tended.now + nanos }

def perform (tended : Tended V) : Act V → Tended V
  | .get key => { tended with cache := (tended.cache.get tended.now key).1 }
  | .set key value => { tended with cache := tended.cache.set tended.now key value }
  | .delete key => { tended with cache := tended.cache.delete key }
  | .clear => { tended with cache := tended.cache.clear }
  | .purge => { tended with cache := tended.cache.purge tended.now }
  | .close => { tended with sweeper := tended.sweeper.close }
  | .wait nanos => tended.wait nanos

/-- What can be reached from a cache by any acts.  A full cache may give up any of the entries
that expire soonest. -/
inductive Reached (start : Tended V) : Tended V → Prop
  | start : Reached start start
  | perform {tended : Tended V} (act : Act V) (reached : Reached start tended) :
      Reached start (tended.perform act)
  | evict {tended : Tended V} (key : String) (value : V) (victim : Entry V)
      (full : tended.cache.Full key) (soonest : tended.cache.Soonest victim)
      (reached : Reached start tended) :
      Reached start { tended with
        cache := tended.cache.setBeside (Expiring.without victim.key tended.cache.entries)
          tended.now key value }

/-- Acts one after another. -/
def run (acts : List (Act V)) (tended : Tended V) : Tended V := acts.foldl perform tended

theorem Reached.run {start tended : Tended V} (reached : Reached start tended)
    (acts : List (Act V)) : Reached start (tended.run acts) := by
  induction acts generalizing tended with
  | nil => exact reached
  | cons act rest ih => exact ih (reached.perform act)

/-- The instants of the sweeps so far. -/
def sweeps (tended : Tended V) : Set Nat :=
  {time | (∃ number, time = tended.sweeper.instant number) ∧ time ≤ tended.now}

section Wait

variable {tended : Tended V}

/-- After the sweeper was closed nothing happens while time passes. -/
theorem wait_of_closed (closed : tended.sweeper.closed = true) (nanos : Nat) :
    (tended.wait nanos).cache = tended.cache := by
  rw [wait, Sweeper.elapse, closed]
  rfl

/-- Otherwise each sweep is made that falls due. -/
theorem wait_of_running (paced : tended.sweeper.Paced) (running : tended.sweeper.closed = false)
    (nanos : Nat) : (tended.wait nanos).cache =
      tended.cache.sweep (tended.sweeper.due tended.now (tended.now + nanos)) :=
  Expiring.elapse_eq_sweep paced running _ _

/-- It does not matter whether time passes at once or in parts. -/
theorem wait_wait (paced : tended.sweeper.Paced) (first second : Nat) :
    (tended.wait first).wait second = tended.wait (first + second) := by
  have cache : ((tended.wait first).wait second).cache = (tended.wait (first + second)).cache := by
    cases running : tended.sweeper.closed with
    | true =>
        have still : (tended.wait first).sweeper.closed = true := running
        rw [wait_of_closed still, wait_of_closed running, wait_of_closed running]
    | false =>
        have still : (tended.wait first).sweeper.closed = false := running
        have stillPaced : (tended.wait first).sweeper.Paced := paced
        rw [wait_of_running stillPaced still, wait_of_running paced running,
          wait_of_running paced running, ← Expiring.sweep_append, ← Nat.add_assoc]
        congr 1
        exact Sweeper.due_append (Nat.le_add_right _ _) (Nat.le_add_right _ _)
  exact Tended.ext cache rfl (Nat.add_assoc _ _ _)

end Wait

/-! ## The invariant -/

/-- No entry has expired by the last sweep, unless the sweeper was closed. -/
structure Fresh (interval : Span) (tended : Tended V) : Prop where
  pace : tended.sweeper.interval = (Sweeper.make interval).interval
  lives : 0 < tended.cache.ttl.nanos
  fresh : tended.sweeper.closed = false → ∀ entry ∈ tended.cache.entries,
    tended.sweeper.instant (tended.sweeper.count (tended.now / Span.perMilli)) < entry.expiresAt

namespace Fresh

variable {interval : Span} {tended : Tended V}

theorem paced (fresh : tended.Fresh interval) : tended.sweeper.Paced := by
  rw [Sweeper.Paced, fresh.pace]
  exact Sweeper.paced_make interval

theorem make {ttl : Span} (lives : 0 < ttl.nanos) (maxSize : Nat) (interval : Span) :
    (Tended.make ttl maxSize interval : Tended V).Fresh interval where
  pace := rfl
  lives := by
    change 0 < (ttl.shorter longestLife).nanos
    rw [Span.nanos_shorter]
    exact Nat.lt_min.mpr ⟨lives, by decide⟩
  fresh _ _ member := absurd member List.not_mem_nil

/-- Entries are removed, or stored from now for the time to live. -/
theorem store (fresh : tended.Fresh interval) {cache : Expiring V}
    (ttl : cache.ttl = tended.cache.ttl)
    (entries : ∀ entry ∈ cache.entries, entry ∈ tended.cache.entries ∨
      entry.expiresAt = tended.now + tended.cache.ttl.nanos) :
    ({ tended with cache := cache } : Tended V).Fresh interval where
  pace := fresh.pace
  lives := ttl ▸ fresh.lives
  fresh := by
    intro running entry member
    rcases entries entry member with old | new
    · exact fresh.fresh running entry old
    · rw [new]
      apply Nat.lt_of_le_of_lt (fresh.paced.isGreatest_instant tended.now).1.2
      exact Nat.lt_add_of_pos_right fresh.lives

theorem close (fresh : tended.Fresh interval) : (tended.perform .close).Fresh interval where
  pace := fresh.pace
  lives := fresh.lives
  fresh := nofun

/-- The clock moves. -/
theorem wait (fresh : tended.Fresh interval) (nanos : Nat) :
    (tended.wait nanos).Fresh interval := by
  cases running : tended.sweeper.closed with
  | true =>
      refine ⟨fresh.pace, (wait_of_closed running nanos) ▸ fresh.lives, fun open_ => ?_⟩
      rw [show (tended.wait nanos).sweeper.closed = true from running] at open_
      cases open_
  | false =>
      have swept := wait_of_running fresh.paced running nanos
      refine ⟨fresh.pace, ?_, fun _ entry member => ?_⟩
      · rw [swept, (Expiring.sweep_counters _).2.2]
        exact fresh.lives
      · rw [swept, Expiring.mem_sweep] at member
        obtain ⟨inside, later⟩ := member
        obtain ⟨latest, _⟩ := fresh.paced.isGreatest_instant (tended.now + nanos)
        -- The last sweep is among those that fall due, or it is the same as before.
        by_cases past : tended.sweeper.instant
            (tended.sweeper.count ((tended.now + nanos) / Span.perMilli)) ≤ tended.now
        · have same := fresh.paced.strictMono_instant.monotone (fresh.paced.instant_le_iff.mp past)
          exact Nat.lt_of_le_of_lt same (fresh.fresh running entry inside)
        · exact later _ (fresh.paced.mem_due.mpr ⟨latest.1, Nat.lt_of_not_le past, latest.2⟩)

theorem perform (fresh : tended.Fresh interval) (act : Act V) :
    (tended.perform act).Fresh interval := by
  cases act with
  | get key =>
      exact fresh.store (tended.cache.get_ttl _ key) fun _ member =>
        .inl (tended.cache.mem_of_mem_get member)
  | set key value =>
      refine fresh.store rfl fun entry member => (tended.cache.mem_set member).imp_right ?_
      rintro rfl
      rfl
  | delete key => exact fresh.store rfl fun _ member => .inl (Expiring.mem_of_mem_without member)
  | clear => exact fresh.store rfl fun _ member => absurd member List.not_mem_nil
  | purge => exact fresh.store rfl fun _ member => .inl (Expiring.mem_alive.mp member).1
  | close => exact fresh.close
  | wait nanos => exact fresh.wait nanos

theorem evict (fresh : tended.Fresh interval) (key : String) (value : V) (victim : Entry V) :
    ({ tended with
      cache := tended.cache.setBeside (Expiring.without victim.key tended.cache.entries)
        tended.now key value } : Tended V).Fresh interval := by
  refine fresh.store rfl fun entry member => ?_
  rcases List.mem_append.mp member with kept | added
  · exact .inl (Expiring.mem_of_mem_without (Expiring.mem_of_mem_without kept))
  · exact .inr (List.mem_singleton.mp added ▸ rfl)

/-- However a cache is used. -/
theorem of_reached {ttl : Span} (lives : 0 < ttl.nanos) {maxSize : Nat}
    (reached : Reached (Tended.make ttl maxSize interval) tended) : tended.Fresh interval := by
  induction reached with
  | start => exact .make lives maxSize interval
  | perform act _ ih => exact ih.perform act
  | evict key value victim _ _ _ ih => exact ih.evict key value victim

end Fresh

/-! ## The law -/

/-- A sweeper does its work, and no more. -/
structure Swept (interval : Span) (tended : Tended V) : Prop where
  /-- The interval is kept between a millisecond and thirty years. -/
  interval : tended.sweeper.interval.nanos =
    min (max interval.nanos Span.perMilli) longestLife.nanos
  /-- While it runs, no entry has expired by the latest sweep. -/
  fresh : ∃ latest, IsGreatest tended.sweeps latest ∧
    (tended.sweeper.closed = false → ∀ entry ∈ tended.cache.entries, latest < entry.expiresAt)
  /-- While it runs and time passes, the cache is swept once at each instant that is due. -/
  due : tended.sweeper.closed = false → ∀ nanos, ∃ times : List Nat,
    times.Pairwise (· < ·) ∧
      (∀ time, time ∈ times ↔ (∃ number, time = tended.sweeper.instant number) ∧
        tended.now < time ∧ time ≤ tended.now + nanos) ∧
      (tended.wait nanos).cache = tended.cache.sweep times
  /-- An entry that goes while time passes had expired by one of the sweeps. -/
  expired : ∀ nanos, ∀ entry ∈ tended.cache.entries, entry ∉ (tended.wait nanos).cache.entries →
    ∃ time ∈ (tended.wait nanos).sweeps, tended.now < time ∧ entry.expiresAt ≤ time
  /-- No counters change while time passes. -/
  counters : ∀ nanos, (tended.wait nanos).cache.hits = tended.cache.hits ∧
    (tended.wait nanos).cache.misses = tended.cache.misses
  /-- Once it was closed it stays so, and nothing happens while time passes. -/
  still : tended.sweeper.closed = true →
    (∀ act, (tended.perform act).sweeper.closed = true) ∧
      ∀ nanos, (tended.wait nanos).cache = tended.cache
  /-- What a lookup finds has not expired, whether the sweeper was closed or not. -/
  found : ∀ key value, (tended.cache.get tended.now key).2 = some value →
    ∃ entry ∈ tended.cache.entries,
      entry.key = key ∧ entry.value = value ∧ tended.now < entry.expiresAt
  /-- It does not matter whether time passes at once or in parts. -/
  parts : ∀ first second, (tended.wait first).wait second = tended.wait (first + second)

/-- However a cache with a sweeper is used, dead entries linger at most until the next sweep is
due. -/
theorem dead_entries_swept {ttl interval : Span} (lives : 0 < ttl.nanos) {maxSize : Nat}
    {tended : Tended V} (reached : Reached (make ttl maxSize interval) tended) :
    tended.Swept interval := by
  have fresh := Fresh.of_reached lives reached
  have paced := fresh.paced
  constructor
  · rw [fresh.pace, Sweeper.interval_make]
  · exact ⟨_, paced.isGreatest_instant tended.now, fresh.fresh⟩
  · intro running nanos
    exact ⟨_, paced.sorted_due _ _, fun _ => paced.mem_due, wait_of_running paced running nanos⟩
  · intro nanos entry inside gone
    cases running : tended.sweeper.closed with
    | true =>
        rw [wait_of_closed running] at gone
        exact absurd inside gone
    | false =>
        rw [wait_of_running paced running, Expiring.mem_sweep] at gone
        push Not at gone
        obtain ⟨time, due, expired⟩ := gone inside
        obtain ⟨multiple, later, past⟩ := paced.mem_due.mp due
        exact ⟨time, ⟨multiple, past⟩, later, expired⟩
  · intro nanos
    cases running : tended.sweeper.closed with
    | true =>
        rw [wait_of_closed running]
        exact ⟨rfl, rfl⟩
    | false =>
        rw [wait_of_running paced running]
        exact (Expiring.sweep_counters _).imp_right And.left
  · intro closed
    refine ⟨fun act => ?_, wait_of_closed closed⟩
    cases act with
    | close => rfl
    | get | set | delete | clear | purge | wait => exact closed
  · intro key value found
    exact tended.cache.get_found found
  · exact wait_wait paced

/-- Values that live 20 ms, swept every 30 ms: the first one is gone after 35 ms, and the second
one lingers when the sweeper was closed. -/
def closedEarly : Tended String :=
  (make (Span.ofMillis 20) 10 (Span.ofMillis 30)).run
    [.set "a" "x", .wait 25000000, .set "b" "y", .wait 10000000, .close, .wait 30000000]

theorem dead_entries_swept_closedEarly :
    closedEarly.cache.entries.map Entry.key = ["b"] ∧ closedEarly.Swept (Span.ofMillis 30) :=
  ⟨rfl, dead_entries_swept (show 0 < (Span.ofMillis 20).nanos by decide) (Reached.start.run _)⟩

end Tended

end Cache

end RiskGate
