import RiskGate.Proofs.Cache.Ideal
import RiskGate.Metrics.Exposition

/-!
# The gauge of a cache

A cache announces the number of its entries when a value is stored, when it is cleared and when
it is purged.  Two operations remove an entry and announce nothing: a lookup that drops an
expired entry, and a deletion.  From then on the announced number is too large, until the next
announcement sets it right.

So after any run the gauge is the number of entries and of those that were removed since the
last announcement, and it is truthful exactly if there are none of the latter.
-/

namespace RiskGate.Cache

variable {V : Type}

/-- The operation announces the number of entries, if it is made at an instant. -/
def Op.announces (now : Nat) : Op V → Bool
  | .set .. | .clear | .purge => true
  | .get _ | .delete _ => false
  | .wait sweeper nanos =>
      !(sweeper.closed ||
        sweeper.count ((now + nanos) / Span.perMilli) ≤ sweeper.count (now / Span.perMilli))

namespace Expiring

/-- The operation removes an entry and does not announce it: a lookup that finds an expired
entry, or a deletion of a stored one. -/
def drops (now : Nat) (cache : Expiring V) : Op V → Bool
  | .get key => (cache.find? key).any (·.isExpired now)
  | .delete key => (cache.find? key).isSome
  | .set .. | .clear | .purge | .wait .. => false

/-- How many entries have been removed since the last announcement, after an operation. -/
def missedAfter (now : Nat) (cache : Expiring V) (missed : Nat) (op : Op V) : Nat :=
  if op.announces now then 0 else missed + (cache.drops now op).toNat

/-- How many entries have been removed since the last announcement, after operations one after
another. -/
def missed (now : Nat) (cache : Expiring V) (before : Nat) : List (Op V) → Nat
  | [] => before
  | op :: rest =>
      (cache.perform now op).1.missed (op.later now) (cache.missedAfter now before op) rest

/-- The number of entries has been announced by operations one after another. -/
def heard (now : Nat) : List (Op V) → Bool
  | [] => false
  | op :: rest => op.announces now || heard (op.later now) rest

theorem makeRoom_sublist (key : String) (cache : Expiring V) :
    (cache.makeRoom key).Sublist cache.entries := by
  unfold makeRoom
  split
  · split
    · exact List.filter_sublist
    · exact List.Sublist.refl _
  · exact List.Sublist.refl _

/-- The gauge is too large by a number of entries. -/
structure Gauged (missed : Nat) (cache : Expiring V) : Prop where
  keys : (cache.entries.map Entry.key).Nodup
  gauge : ∀ size ∈ cache.announced, size = cache.size + missed

namespace Gauged

variable {now missed : Nat} {cache after : Expiring V}

theorem make (ttl : Span) (maxSize : Nat) : Gauged 0 (make ttl maxSize : Expiring V) where
  keys := List.nodup_nil
  gauge := nofun

/-- The number of entries was announced. -/
theorem announced (keys : (cache.entries.map Entry.key).Nodup) : Gauged 0 cache.announce where
  keys := keys
  gauge := by
    intro size known
    exact (Option.some.inj known).symm

/-- Entries are removed, and the rest is announced. -/
theorem purge (gauged : Gauged missed cache) (now : Nat) : Gauged 0 (cache.purge now) :=
  .announced (gauged.keys.sublist (List.filter_sublist.map _))

/-- The entry of a stored key is removed, and nothing is announced. -/
theorem without (gauged : Gauged missed cache) {key : String} {entry : Entry V}
    (stored : cache.find? key = some entry) (announced : after.announced = cache.announced)
    (entries : after.entries = Expiring.without key cache.entries) : Gauged (missed + 1) after where
  keys := by
    rw [entries]
    exact gauged.keys.sublist (List.filter_sublist.map _)
  gauge := by
    intro size known
    rw [announced] at known
    have member : entry ∈ cache.entries := List.mem_of_find?_eq_some stored
    have own : entry.key = key := by simpa using List.find?_some stored
    have once : (Expiring.without key cache.entries).length + 1 = cache.entries.length := by
      have distinct : (cache.entries.map Entry.key).count key = 1 :=
        List.count_eq_one_of_mem gauged.keys (own ▸ List.mem_map_of_mem member)
      have parted := List.length_eq_countP_add_countP (fun entry => entry.key == key)
        (l := cache.entries)
      rw [List.count, List.countP_map] at distinct
      rw [parted, Expiring.without, ← List.countP_eq_length_filter]
      have same : cache.entries.countP (fun entry => entry.key == key) = 1 := distinct
      have others : cache.entries.countP (fun entry => decide ¬(entry.key == key) = true) =
          cache.entries.countP fun entry => entry.key != key :=
        List.countP_congr fun entry _ => by simp [bne]
      omega
    have truthful := gauged.gauge size known
    rw [truthful, Expiring.size, Expiring.size, entries]
    omega

/-- A value is stored in the place of the one under its key, and next to those that are kept. -/
theorem set (gauged : Gauged missed cache) (now : Nat) (key : String) (value : V) :
    Gauged 0 (cache.set now key value) := by
  apply announced
  have kept : (Expiring.without key (cache.makeRoom key)).Sublist cache.entries :=
    List.filter_sublist.trans (cache.makeRoom_sublist key)
  rw [List.map_append, List.nodup_append]
  refine ⟨gauged.keys.sublist (kept.map _), List.nodup_singleton _, ?_⟩
  intro other inside fresh member
  obtain ⟨entry, there, rfl⟩ := List.mem_map.mp inside
  obtain rfl := List.mem_singleton.mp member
  exact bne_iff_ne.mp (List.mem_filter.mp there).2

/-- A key is looked up, and the entry found has expired or not. -/
theorem get (gauged : Gauged missed cache) (now : Nat) (key : String) :
    Gauged (missed + ((cache.find? key).any (·.isExpired now)).toNat) (cache.get now key).1 := by
  unfold Expiring.get
  cases found : cache.find? key with
  | none => exact ⟨gauged.keys, gauged.gauge⟩
  | some entry =>
      simp only [Option.any_some]
      cases entry.isExpired now with
      | false => exact ⟨gauged.keys, gauged.gauge⟩
      | true => exact gauged.without found rfl rfl

/-- A key is deleted, and there is an entry for it or not. -/
theorem delete (gauged : Gauged missed cache) (key : String) :
    Gauged (missed + (cache.find? key).isSome.toNat) (cache.delete key) := by
  cases found : cache.find? key with
  | none =>
      have rest : Expiring.without key cache.entries = cache.entries := by
        apply List.filter_eq_self.mpr
        intro entry member
        simpa using find?_eq_none_iff.mp found entry member
      rw [Expiring.delete, rest]
      exact ⟨gauged.keys, gauged.gauge⟩
  | some entry => exact gauged.without found rfl rfl

/-- The clock moves, and a sweep falls due or not. -/
theorem elapse (gauged : Gauged missed cache) (sweeper : Sweeper) (start stop : Nat) :
    Gauged (if !(sweeper.closed || sweeper.count stop ≤ sweeper.count start) then 0 else missed)
      (sweeper.elapse start stop cache) := by
  unfold Sweeper.elapse
  cases sweeper.closed || decide (sweeper.count stop ≤ sweeper.count start) with
  | true => exact gauged
  | false => exact gauged.purge _

/-- One operation. -/
theorem perform (gauged : Gauged missed cache) (now : Nat) (op : Op V) :
    Gauged (cache.missedAfter now missed op) (cache.perform now op).1 := by
  cases op with
  | get key => exact gauged.get now key
  | set key value => exact gauged.set now key value
  | delete key => exact gauged.delete key
  | clear => exact announced List.nodup_nil
  | purge => exact gauged.purge now
  | wait sweeper nanos => exact gauged.elapse sweeper _ _

/-- Operations one after another. -/
theorem run (gauged : Gauged missed cache) (now : Nat) (ops : List (Op V)) :
    Gauged (cache.missed now missed ops) (cache.run now ops).1 := by
  induction ops generalizing cache now missed with
  | nil => exact gauged
  | cons op rest ih => exact ih (gauged.perform now op) (op.later now)

end Gauged

/-! ## Whether there is a gauge -/

section Heard

variable (now : Nat) (cache : Expiring V)

theorem isSome_announced_perform (op : Op V) :
    (cache.perform now op).1.announced.isSome = (cache.announced.isSome || op.announces now) := by
  cases op with
  | get key =>
      rw [Op.announces, Bool.or_false]
      change (cache.get now key).1.announced.isSome = _
      unfold get
      cases cache.find? key with
      | none => rfl
      | some entry => cases expired : entry.isExpired now <;> simp [expired]
  | delete key => exact (Bool.or_false _).symm
  | set key value => exact (Bool.or_true _).symm
  | clear => exact (Bool.or_true _).symm
  | purge => exact (Bool.or_true _).symm
  | wait sweeper nanos =>
      simp only [perform, Op.announces, Sweeper.elapse]
      generalize (sweeper.closed || decide (sweeper.count _ ≤ sweeper.count _)) = idle
      cases idle with
      | true => exact (Bool.or_false _).symm
      | false => exact (Bool.or_true _).symm

theorem isSome_announced_run (ops : List (Op V)) :
    (cache.run now ops).1.announced.isSome = (cache.announced.isSome || heard now ops) := by
  induction ops generalizing now cache with
  | nil => exact (Bool.or_false _).symm
  | cons op rest ih =>
      refine (ih (op.later now) (cache.perform now op).1).trans ?_
      rw [isSome_announced_perform, Bool.or_assoc]
      rfl

end Heard

/-- After any operations on an empty cache there is a gauge if one of them announced the number
of entries.  It shows the number of entries and of those removed since the last announcement,
so it is truthful exactly if nothing was removed since then. -/
theorem gauge_of_run (ttl : Span) (maxSize now : Nat) (ops : List (Op V)) :
    let empty : Expiring V := make ttl maxSize
    let cache := (empty.run now ops).1
    let shown := cache.size + empty.missed now 0 ops
    cache.announced = (if heard now ops then some shown else none) ∧
      (Metrics.Exposition.ofCacheSize cache.announced).gauges =
        (if heard now ops then [("risk_engine_cache_entries", Span.wordFloat shown)] else []) ∧
      (shown = cache.size ↔ empty.missed now 0 ops = 0) := by
  intro empty cache shown
  have gauged : Gauged (empty.missed now 0 ops) cache := (Gauged.make ttl maxSize).run now ops
  have known : cache.announced.isSome = heard now ops := isSome_announced_run now empty ops
  have announced : cache.announced = if heard now ops then some shown else none := by
    cases told : cache.announced with
    | none =>
        rw [told] at known
        rw [← known]
        rfl
    | some size =>
        rw [told] at known
        rw [← known, gauged.gauge size told]
        rfl
  refine ⟨announced, ?_, Nat.add_eq_left⟩
  rw [announced]
  cases heard now ops <;> rfl

/-- A value is stored, and is deleted or looked up when it has expired.  The gauge shows one
entry, and there is none. -/
theorem gauge_outlives_entry :
    let empty : Expiring String := make (Span.ofMillis 50) 10
    let deleted := (empty.run 0 [.set "a" "x", .delete "a"]).1
    let expired :=
      (empty.run 0 [.set "a" "x", .wait ⟨Span.ofSecs 60, false⟩ 60000000, .get "a"]).1
    (deleted.size = 0 ∧ deleted.announced = some 1) ∧
      expired.size = 0 ∧ expired.announced = some 1 :=
  ⟨⟨rfl, rfl⟩, rfl, rfl⟩

end Expiring

end RiskGate.Cache
