import EtherRelay.Ring

/-!
# Rings with their items replaced

`Ring.map f` puts `f x` in the place of every item `x`. No ring operation looks at an item, so
each of them gives the same answer on the ring with other items, up to `f`. The indices of both
rings move alike.
-/

namespace EtherRelay.Ring

variable {α β : Type} (f : α → β)

/-- The ring with every item replaced by its image. -/
def map (r : Ring α) : Ring β where
  name := r.name
  slots := r.slots.map (Option.map f)
  head := r.head
  tail := r.tail
  cachedTail := r.cachedTail
  cachedHead := r.cachedHead
  producerOpen := r.producerOpen
  consumerOpen := r.consumerOpen

variable (r : Ring α)

@[simp] theorem map_id : r.map id = r := by
  simp [map]

@[simp] theorem capacity_map : (r.map f).capacity = r.capacity := by
  simp [map, capacity]

@[simp] theorem slot_map (index : UInt64) : (r.map f).slot index = r.slot index := by
  rw [slot, capacity_map, slot]

@[simp] theorem length_map : (r.map f).length = r.length := rfl

theorem read?_map (index : UInt64) : (r.map f).read? index = (r.read? index).map f := by
  rw [read?, slot_map, read?, map, Array.getElem?_map]
  cases r.slots[r.slot index]? with
  | none => rfl
  | some item => rfl

theorem map_of_create {name : String} {capacity : Nat} {r : Ring α} {r' : Ring β}
    (h : create name capacity = .ok r) (h' : create name capacity = .ok r') : r' = r.map f := by
  rw [create] at h h'
  split at h
  · next hcapacity =>
    rw [if_pos hcapacity] at h'
    cases h
    cases h'
    simp [map]
  · cases h

/-! ## The producer -/

@[simp] theorem cachedFree_map : (r.map f).cachedFree = r.cachedFree := by
  rw [cachedFree, capacity_map, cachedFree]
  rfl

theorem refreshTail_map (wanted : Nat) :
    (r.map f).refreshTail wanted = (r.refreshTail wanted).map f := by
  rw [refreshTail, cachedFree_map, refreshTail]
  split <;> rfl

theorem write_map (index : UInt64) (item : α) :
    (r.map f).write index (f item) = (r.write index item).map f := by
  rw [write, slot_map, write]
  simp [map]

theorem push_map (item : α) : (r.map f).push (f item) = (r.push item).map f := by
  rw [push, show (r.map f).head = r.head from rfl, write_map]
  rfl

theorem foldl_push_map (burst : List α) :
    (burst.map f).foldl push (r.map f) = (burst.foldl push r).map f := by
  induction burst generalizing r with
  | nil => rfl
  | cons item burst ih => rw [List.map_cons, List.foldl_cons, push_map, ih, List.foldl_cons]

theorem enqueue_map (item : α) :
    (r.map f).enqueue (f item) = ((r.enqueue item).1.map f, (r.enqueue item).2.map f) := by
  simp only [enqueue, refreshTail_map, cachedFree_map, push_map]
  split <;> rfl

theorem enqueueBulk_map (burst : List α) :
    (r.map f).enqueueBulk (burst.map f) =
      ((r.enqueueBulk burst).1.map f, (r.enqueueBulk burst).2.1,
        (r.enqueueBulk burst).2.2.map f) := by
  cases burst with
  | nil => rfl
  | cons item burst =>
      rw [List.map_cons, enqueueBulk, enqueueBulk, ← List.map_cons, List.length_map,
        refreshTail_map]
      · simp only [cachedFree_map, foldl_push_map]
        split <;> rfl
      · exact List.cons_ne_nil _ _
      · exact List.cons_ne_nil _ _

/-! ## The consumer -/

@[simp] theorem cachedLength_map : (r.map f).cachedLength = r.cachedLength := rfl

theorem refreshHead_map : (r.map f).refreshHead = r.refreshHead.map f := by
  rw [refreshHead, cachedLength_map, refreshHead]
  split <;> rfl

theorem pop_map : (r.map f).pop = (r.pop.1.map f, r.pop.2.map f) := by
  rw [pop, read?_map, slot_map, pop]
  simp [map]

theorem popMany_map (n : Nat) :
    (r.map f).popMany n = ((r.popMany n).1.map f, (r.popMany n).2.map f) := by
  induction n generalizing r with
  | zero => rfl
  | succ n ih =>
      simp only [popMany, pop_map, ih, List.map_append]
      cases r.pop.1 <;> rfl

theorem dequeueBurst_map (max : Nat) :
    (r.map f).dequeueBurst max =
      ((r.dequeueBurst max).1.map f, (r.dequeueBurst max).2.map f) := by
  simp only [dequeueBurst, refreshHead_map, cachedLength_map, popMany_map]

end EtherRelay.Ring
