import EtherRelay.Buffer.Pool
import Mathlib.Data.List.Count
import Mathlib.Data.UInt

/-!
# What a pool has lent

Every storage of a pool is either in its stock or lent out. `Pool.Lends` fixes how many are
lent, and the counters of the pool agree with that number even if they wrap. Only buffers that
belong to the pool count; `pooledIn` counts them in a list.
-/

namespace EtherRelay

/-- The buffers of a list that belong to the pool. -/
def pooledIn (buffers : List Buffer) : Nat := buffers.countP (·.pooled)

@[simp] theorem pooledIn_nil : pooledIn [] = 0 := rfl

@[simp] theorem pooledIn_append (buffers buffers' : List Buffer) :
    pooledIn (buffers ++ buffers') = pooledIn buffers + pooledIn buffers' :=
  List.countP_append

theorem pooledIn_cons (b : Buffer) (buffers : List Buffer) :
    pooledIn (b :: buffers) = pooledIn [b] + pooledIn buffers :=
  pooledIn_append [b] buffers

/-- The front of a burst is what leaves first. -/
theorem add_pooledIn_append (n : Nat) (buffers buffers' : List Buffer) :
    n + pooledIn (buffers ++ buffers') = n + pooledIn buffers' + pooledIn buffers := by
  rw [pooledIn_append, Nat.add_comm (pooledIn buffers), Nat.add_assoc]

theorem add_pooledIn_cons (n : Nat) (b : Buffer) (buffers : List Buffer) :
    n + pooledIn (b :: buffers) = n + pooledIn buffers + pooledIn [b] :=
  add_pooledIn_append n [b] buffers

theorem pooledIn_perm {buffers buffers' : List Buffer} (h : buffers.Perm buffers') :
    pooledIn buffers = pooledIn buffers' :=
  h.countP_eq _

theorem pooledIn_ofFrame (frame : Bytes) : pooledIn [.ofFrame frame] = 0 := rfl

/-- Appending to a buffer does not change whom it belongs to. -/
theorem pooledIn_append? {b b' : Buffer} {bytes : Bytes} (h : b.append? bytes = some b') :
    pooledIn [b'] = pooledIn [b] := by
  rw [Buffer.append?] at h
  split at h <;> cases h
  rfl

namespace Pool

/-- The pool has lent `n` of its `capacity` storages, and its counters show it. -/
structure Lends (p : Pool) (capacity n : Nat) : Prop where
  capacity_eq : p.capacity = capacity
  length_free : p.free.length + n = capacity
  capacity_lt : capacity < UInt64.size
  allocated_eq : p.allocated = p.freed + UInt64.ofNat n

variable {p : Pool} {capacity n : Nat}

theorem create_lends (capacity : UInt64) (headroom dataRoom : Nat) :
    (create capacity.toNat headroom dataRoom).Lends capacity.toNat 0 where
  capacity_eq := rfl
  length_free := List.length_replicate
  capacity_lt := capacity.toNat_lt_size
  allocated_eq := rfl

namespace Lends

theorem inUse_eq (h : p.Lends capacity n) : p.inUse.toNat = n := by
  have hlt : n < UInt64.size := by
    have := h.length_free
    have := h.capacity_lt
    omega
  rw [inUse, h.allocated_eq, UInt64.add_comm, UInt64.add_sub_cancel, UInt64.toNat_ofNat']
  exact Nat.mod_eq_of_lt hlt

/-- A pool has nothing to lend just if everything is lent. -/
theorem alloc_eq_none (h : p.Lends capacity n) : p.alloc.1 = none ↔ n = capacity := by
  have hfree := h.length_free
  cases hp : p.free with
  | nil =>
      rw [hp, List.length_nil] at hfree
      simp only [alloc, takeStorage, hp, true_iff]
      omega
  | cons storage rest =>
      rw [hp, List.length_cons] at hfree
      simp only [alloc, takeStorage, hp, reduceCtorEq, false_iff]
      omega

/-- A lent buffer belongs to the pool. -/
theorem alloc (h : p.Lends capacity n) : p.alloc.2.Lends capacity (n + pooledIn p.alloc.1.toList) := by
  obtain ⟨heq, hfree, hcap, hcount⟩ := h
  cases hp : p.free with
  | nil =>
      rw [hp] at hfree
      simp only [Pool.alloc, takeStorage, hp, countExhausted]
      exact ⟨heq, hfree, hcap, hcount⟩
  | cons storage rest =>
      rw [hp, List.length_cons] at hfree
      simp only [Pool.alloc, takeStorage, hp, countAllocated]
      refine ⟨heq, ?_, hcap, ?_⟩
      · change rest.length + (n + 1) = capacity
        omega
      · change p.allocated + 1 = p.freed + UInt64.ofNat (n + 1)
        rw [hcount, UInt64.ofNat_add, UInt64.add_assoc]
        rfl

theorem release {b : Buffer} (h : p.Lends capacity (n + pooledIn [b])) : (p.release b).Lends capacity n := by
  obtain ⟨heq, hfree, hcap, hcount⟩ := h
  rw [Pool.release]
  split
  · next hb =>
    have hone : pooledIn [b] = 1 := by simp [pooledIn, hb]
    rw [hone] at hfree hcount
    have hroom : p.countFreed.free.length < p.countFreed.stockRoom := by
      change p.free.length < max p.capacity 1
      omega
    rw [giveBack, if_pos hroom]
    refine ⟨heq, ?_, hcap, ?_⟩
    · change (p.free ++ [b.storage]).length + n = capacity
      rw [List.length_append, List.length_singleton]
      omega
    · change p.allocated = p.freed + 1 + UInt64.ofNat n
      rw [hcount, UInt64.ofNat_add, UInt64.add_assoc, UInt64.add_comm 1]
      rfl
  · next hb =>
    have hzero : pooledIn [b] = 0 := by simp [pooledIn, hb]
    rw [hzero] at hfree hcount
    exact ⟨heq, hfree, hcap, hcount⟩

theorem releaseAll {buffers : List Buffer} (h : p.Lends capacity (n + pooledIn buffers)) :
    (p.releaseAll buffers).Lends capacity n := by
  induction buffers generalizing p with
  | nil => exact h
  | cons b buffers ih =>
      rw [add_pooledIn_cons] at h
      exact ih h.release

theorem allocFrame (h : p.Lends capacity n) (frame : Bytes) :
    (p.allocFrame frame).2.Lends capacity (n + pooledIn (p.allocFrame frame).1.toList) := by
  have halloc := h.alloc
  rw [Pool.allocFrame]
  split
  · next heq =>
    rw [heq] at halloc
    exact halloc
  · next b p' heq =>
    rw [heq] at halloc
    split
    · next b' hb =>
      change p'.Lends capacity (n + pooledIn [b'])
      rw [pooledIn_append? hb]
      exact halloc
    · exact halloc.release

end Lends

end Pool

end EtherRelay
