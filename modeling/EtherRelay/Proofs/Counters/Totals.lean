import EtherRelay.Counters
import Mathlib.Algebra.Group.Pi.Basic
import Mathlib.Algebra.Notation.Pi.Basic
import Mathlib.Data.UInt

/-!
# Totals behind the counters

Counters wrap. A total counts the same without wrapping, and `Counters.Shows` says that every
counter is the word of its total. Counting more moves exactly one total.
-/

namespace EtherRelay.Counters

variable {c c' : Counters} {total : Counter → Nat}

theorem ext_get (h : ∀ k, c.get k = c'.get k) : c = c' := by
  cases c
  cases c'
  have hall := fun k => h k
  simp only [mk.injEq]
  exact ⟨hall .rxBursts, hall .rxPackets, hall .relayed, hall .probesEnqueued,
    hall .relayOverflowDrops, hall .probeOverflowDrops, hall .txBursts, hall .forwarded,
    hall .txPartialDrops, hall .probesDecoded, hall .malformedProbes, hall .reorderedHops,
    hall .publishFailures⟩

@[simp] theorem add_zero (c : Counters) (k : Counter) : c.add 0 k = c := by
  apply ext_get
  intro j
  rw [get_add]
  split <;> simp_all

theorem add_add (c : Counters) (m n : Nat) (k : Counter) :
    (c.add m k).add n k = c.add (m + n) k := by
  apply ext_get
  intro j
  simp only [get_add]
  split
  · simp [UInt64.ofNat_add, UInt64.add_assoc]
  · rfl

theorem add_right_comm (c : Counters) (m n : Nat) (k j : Counter) :
    (c.add m k).add n j = (c.add n j).add m k := by
  apply ext_get
  intro i
  simp only [get_add]
  grind

/-- Every counter is the word of its total. -/
def Shows (c : Counters) (total : Counter → Nat) : Prop :=
  ∀ k, c.get k = UInt64.ofNat (total k)

theorem shows_zero : ({} : Counters).Shows 0 := by
  intro k
  cases k <;> rfl

theorem Shows.add (h : c.Shows total) (n : Nat) (k : Counter) :
    (c.add n k).Shows (total + Pi.single k n) := by
  intro j
  rw [get_add, Pi.add_apply, Pi.single_apply]
  split
  · next hj => rw [hj, h k, UInt64.ofNat_add]
  · rw [h j, Nat.add_zero]

/-- A total that fits a word is shown as it is. -/
theorem Shows.toNat_get (h : c.Shows total) {k : Counter} (hk : total k < UInt64.size) :
    (c.get k).toNat = total k := by
  rw [h k, UInt64.toNat_ofNat']
  exact Nat.mod_eq_of_lt hk

end EtherRelay.Counters
