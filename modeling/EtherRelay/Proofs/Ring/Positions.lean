import EtherRelay.Ring
import Mathlib.Data.List.Basic
import Mathlib.Data.Nat.ModEq
import Mathlib.Tactic.Common

/-!
# Positions in a ring

The indices of a ring are words that wrap. The proofs count without wrapping: an item has the
number of items that were admitted before it, and each index is the word of such a number.
`Ring.Holds` fixes the queued items together with three of these numbers, and every step of a
ring is described once by what it does to them.

A capacity that does not fit a word leaves a ring without any room. No such capacity can be
written down as a word, so `Ring.room` is the capacity of every ring that there can be.
-/

namespace EtherRelay.Ring

variable {α : Type} {r : Ring α}

/-- The number of items that the producer's arithmetic leaves room for. -/
def room (r : Ring α) : Nat := (UInt64.ofNat r.capacity).toNat

/-- The ring holds the items `q`, oldest first. The oldest of them has the number `taken`; the
producer last saw the numbers below `seenTaken` taken, and the consumer last saw the numbers
below `seenPut` admitted. -/
structure Holds (r : Ring α) (q : List α) (taken seenTaken seenPut : Nat) : Prop where
  capacity_eq : ∃ k, r.capacity = 2 ^ k
  head_eq : r.head = UInt64.ofNat (taken + q.length)
  tail_eq : r.tail = UInt64.ofNat taken
  cachedTail_eq : r.cachedTail = UInt64.ofNat seenTaken
  cachedHead_eq : r.cachedHead = UInt64.ofNat seenPut
  seenTaken_le : seenTaken ≤ taken
  le_room : taken + q.length ≤ seenTaken + r.room
  le_seenPut : taken ≤ seenPut
  seenPut_le : seenPut ≤ taken + q.length
  /-- The slots from the oldest item on hold the queue, and all others are free. -/
  slots_eq : ∀ i, i < r.capacity → r.slots[(taken + i) % r.capacity]? = some q[i]?

/-! ## Words of unbounded numbers -/

theorem toNat_ofNat_sub {a b : Nat} (hb : b ≤ a) (hab : a - b < UInt64.size) :
    (UInt64.ofNat a - UInt64.ofNat b).toNat = a - b := by
  rw [UInt64.toNat_sub, UInt64.toNat_ofNat', UInt64.toNat_ofNat']
  simp only [UInt64.size] at hab
  omega

theorem ofNat_add_one (n : Nat) : UInt64.ofNat n + 1 = UInt64.ofNat (n + 1) := by
  simp [UInt64.ofNat_add]

/-- Two numbers less than a capacity apart have different slots. -/
theorem add_mod_inj {t i j c : Nat} (hi : i < c) (hj : j < c) :
    (t + i) % c = (t + j) % c ↔ i = j := by
  constructor
  · intro h
    have hij : i ≡ j [MOD c] := Nat.ModEq.add_left_cancel' t h
    exact hij.eq_of_lt_of_lt hi hj
  · rintro rfl
    rfl

/-- Walking the positions of a list gives back the list. -/
theorem filterMap_range_getElem? (q : List α) :
    (List.range q.length).filterMap (fun i => q[i]?) = q := by
  induction q with
  | nil => rfl
  | cons x q ih =>
      rw [List.length_cons, List.range_succ_eq_map, List.filterMap_cons, List.filterMap_map]
      exact congrArg (x :: ·) ih

theorem room_lt (r : Ring α) : r.room < UInt64.size :=
  (UInt64.ofNat r.capacity).toNat_lt_size

theorem room_le_capacity (r : Ring α) : r.room ≤ r.capacity := by
  rw [room, UInt64.toNat_ofNat']
  exact Nat.mod_le _ _

/-- A capacity that fits a word is all room. -/
theorem room_eq_capacity (h : r.capacity < UInt64.size) : r.room = r.capacity := by
  rw [room, UInt64.toNat_ofNat']
  exact Nat.mod_eq_of_lt h

namespace Holds

variable {q : List α} {taken seenTaken seenPut : Nat}

theorem length_le_room (h : r.Holds q taken seenTaken seenPut) : q.length ≤ r.room := by
  have := h.seenTaken_le
  have := h.le_room
  omega

theorem capacity_pos (h : r.Holds q taken seenTaken seenPut) : 0 < r.capacity := by
  obtain ⟨k, hk⟩ := h.capacity_eq
  rw [hk]
  exact Nat.two_pow_pos k

/-- Where there is room, wrapping an index does not change its slot. -/
theorem slot_ofNat (h : r.Holds q taken seenTaken seenPut) (hr : 0 < r.room) (n : Nat) :
    r.slot (UInt64.ofNat n) = n % r.capacity := by
  obtain ⟨k, hk⟩ := h.capacity_eq
  have hk64 : k ≤ 64 := by
    by_contra hlt
    have hdvd : 2 ^ 64 ∣ r.capacity := hk ▸ Nat.pow_dvd_pow 2 (by omega)
    have hzero : r.room = 0 := by
      rw [room, UInt64.toNat_ofNat']
      exact Nat.mod_eq_zero_of_dvd hdvd
    omega
  rw [slot, UInt64.toNat_ofNat', hk]
  exact Nat.mod_mod_of_dvd n (Nat.pow_dvd_pow 2 hk64)

theorem length_eq (h : r.Holds q taken seenTaken seenPut) : r.length = q.length := by
  have hq := h.length_le_room
  have hroom := r.room_lt
  rw [length, h.head_eq, h.tail_eq, toNat_ofNat_sub (by omega) (by omega)]
  omega

theorem cachedLength_eq (h : r.Holds q taken seenTaken seenPut) :
    r.cachedLength = seenPut - taken := by
  have hq := h.length_le_room
  have hroom := r.room_lt
  have := h.seenPut_le
  rw [cachedLength, h.cachedHead_eq, h.tail_eq, toNat_ofNat_sub h.le_seenPut (by omega)]

/-- The items between the producer's copy of `tail` and `head` fit the ring. -/
theorem head_sub_cachedTail (h : r.Holds q taken seenTaken seenPut) :
    (r.head - r.cachedTail).toNat = taken + q.length - seenTaken := by
  have hroom := r.room_lt
  have := h.le_room
  have := h.seenTaken_le
  rw [h.head_eq, h.cachedTail_eq, toNat_ofNat_sub (by omega) (by omega)]

theorem cachedFree_eq (h : r.Holds q taken seenTaken seenPut) :
    r.cachedFree = seenTaken + r.room - (taken + q.length) := by
  have hroom := r.room_lt
  have := h.le_room
  have := h.seenTaken_le
  have hcap : UInt64.ofNat r.capacity = UInt64.ofNat r.room := by
    rw [room, UInt64.ofNat_toNat]
  have hused : r.head - r.cachedTail = UInt64.ofNat (taken + q.length - seenTaken) := by
    rw [← h.head_sub_cachedTail, UInt64.ofNat_toNat]
  rw [cachedFree, hcap, hused, toNat_ofNat_sub (by omega) (by omega)]
  omega

/-- Each queued item stands in the slot of its number. -/
theorem read?_tail_add (h : r.Holds q taken seenTaken seenPut) {i : Nat} (hi : i < q.length) :
    r.read? (r.tail + UInt64.ofNat i) = some q[i] := by
  have hroom := h.length_le_room
  have hcap := r.room_le_capacity
  rw [read?, h.tail_eq, ← UInt64.ofNat_add, h.slot_ofNat (by omega), h.slots_eq i (by omega),
    List.getElem?_eq_getElem hi]
  rfl

theorem toList_eq (h : r.Holds q taken seenTaken seenPut) : r.toList = q := by
  rw [toList, h.length_eq]
  have hread : ∀ i ∈ List.range q.length, r.read? (r.tail + UInt64.ofNat i) = q[i]? := by
    intro i hi
    have hlt := List.mem_range.mp hi
    rw [h.read?_tail_add hlt, List.getElem?_eq_getElem hlt]
  rw [List.filterMap_congr hread]
  exact filterMap_range_getElem? q

end Holds

/-! ## What single steps leave alone -/

section

variable (x : α)

@[simp] theorem head_push : (r.push x).head = r.head + 1 := rfl

@[simp] theorem slots_push :
    (r.push x).slots = r.slots.setIfInBounds (r.slot r.head) (some x) := rfl

@[simp] theorem capacity_push : (r.push x).capacity = r.capacity := by
  simp [capacity]

@[simp] theorem room_push : (r.push x).room = r.room := by
  simp [room]

end

@[simp] theorem capacity_refreshTail (r : Ring α) (wanted : Nat) :
    (r.refreshTail wanted).capacity = r.capacity := by
  rw [refreshTail]
  split <;> rfl

@[simp] theorem room_refreshTail (r : Ring α) (wanted : Nat) :
    (r.refreshTail wanted).room = r.room := by
  simp [room]

@[simp] theorem head_pop : r.pop.2.head = r.head := rfl

@[simp] theorem tail_pop : r.pop.2.tail = r.tail + 1 := rfl

@[simp] theorem slots_pop : r.pop.2.slots = r.slots.setIfInBounds (r.slot r.tail) none := rfl

@[simp] theorem capacity_pop : r.pop.2.capacity = r.capacity := by
  simp [capacity]

@[simp] theorem room_pop : r.pop.2.room = r.room := by
  simp [room]

namespace Holds

variable {q : List α} {taken seenTaken seenPut : Nat}

/-! ## The producer -/

/-- A fresh copy of `tail` shows all the room that there is. -/
theorem refreshTail (h : r.Holds q taken seenTaken seenPut) (wanted : Nat) :
    ∃ seen, (r.refreshTail wanted).Holds q taken seen seenPut ∧
      (wanted ≤ (r.refreshTail wanted).cachedFree ∨ seen = taken) := by
  rw [Ring.refreshTail]
  split
  · next hw => exact ⟨seenTaken, h, .inl hw⟩
  · exact ⟨taken, { h with
      cachedTail_eq := h.tail_eq
      seenTaken_le := Nat.le_refl _
      le_room := Nat.add_le_add_left h.length_le_room taken }, .inr rfl⟩

/-- Writing behind the queue admits an item. -/
theorem push (h : r.Holds q taken seenTaken seenPut)
    (hroom : taken + q.length < seenTaken + r.room) (x : α) :
    (r.push x).Holds (q ++ [x]) taken seenTaken seenPut := by
  have hcap := r.room_le_capacity
  have hseen := h.seenTaken_le
  have hput := h.seenPut_le
  have hslot : r.slot r.head = (taken + q.length) % r.capacity := by
    rw [h.head_eq, h.slot_ofNat (by omega)]
  have hlen : (q ++ [x]).length = q.length + 1 := by simp
  refine ⟨?_, ?_, h.tail_eq, h.cachedTail_eq, h.cachedHead_eq, hseen, ?_, h.le_seenPut, ?_, ?_⟩
  · simpa using h.capacity_eq
  · rw [head_push, h.head_eq, ofNat_add_one, hlen, Nat.add_assoc]
  · rw [room_push, hlen]
    omega
  · rw [hlen]
    omega
  · intro i hi
    rw [capacity_push] at hi ⊢
    rw [slots_push, hslot, Array.getElem?_setIfInBounds]
    by_cases hiq : i = q.length
    · subst hiq
      have hlt : (taken + q.length) % r.capacity < r.slots.size := Nat.mod_lt _ h.capacity_pos
      simp [hlt]
    · have hne : (taken + q.length) % r.capacity ≠ (taken + i) % r.capacity := by
        rw [Ne, add_mod_inj (by omega) hi]
        omega
      rw [if_neg hne, h.slots_eq i hi]
      rcases Nat.lt_or_gt_of_ne hiq with hlt | hgt
      · rw [List.getElem?_append_left hlt]
      · rw [List.getElem?_eq_none (by omega), List.getElem?_eq_none (by omega)]

/-- Writing a burst behind the queue admits all of it. -/
theorem pushAll (burst : List α) (h : r.Holds q taken seenTaken seenPut)
    (hroom : taken + q.length + burst.length ≤ seenTaken + r.room) :
    (burst.foldl Ring.push r).Holds (q ++ burst) taken seenTaken seenPut := by
  induction burst generalizing r q with
  | nil => simpa using h
  | cons x burst ih =>
      rw [List.length_cons] at hroom
      have hx := h.push (by omega) x
      simpa using ih hx (by rw [room_push, List.length_append, List.length_singleton]; omega)

/-! ## The consumer -/

/-- A fresh copy of `head` shows the whole queue. -/
theorem refreshHead (h : r.Holds q taken seenTaken seenPut) :
    ∃ seen, r.refreshHead.Holds q taken seenTaken seen ∧
      ((taken < seen ∧ seen = seenPut) ∨ (seenPut = taken ∧ seen = taken + q.length)) := by
  rw [Ring.refreshHead, h.cachedLength_eq]
  have := h.le_seenPut
  split
  · exact ⟨taken + q.length, { h with
      cachedHead_eq := h.head_eq
      le_seenPut := Nat.le_add_right _ _
      seenPut_le := Nat.le_refl _ }, .inr ⟨by omega, rfl⟩⟩
  · exact ⟨seenPut, h, .inl ⟨by omega, rfl⟩⟩

/-- Reading the oldest slot takes the oldest item and frees its slot. -/
theorem pop {x : α} (h : r.Holds (x :: q) taken seenTaken seenPut) (hseen : taken < seenPut) :
    r.pop.1 = some x ∧ r.pop.2.Holds q (taken + 1) seenTaken seenPut := by
  have hroom := h.length_le_room
  have hcap := r.room_le_capacity
  rw [List.length_cons] at hroom
  have hslot : r.slot r.tail = taken % r.capacity := by
    rw [h.tail_eq, h.slot_ofNat (by omega)]
  refine ⟨?_, ?_, ?_, ?_, h.cachedTail_eq, h.cachedHead_eq, ?_, ?_, hseen, ?_, ?_⟩
  · have hfirst := h.read?_tail_add (i := 0) (by simp)
    simpa [Ring.pop] using hfirst
  · simpa using h.capacity_eq
  · rw [head_pop, h.head_eq, List.length_cons]
    congr 1
    omega
  · rw [tail_pop, h.tail_eq, ofNat_add_one]
  · have := h.seenTaken_le
    omega
  · have := h.le_room
    rw [room_pop]
    rw [List.length_cons] at this
    omega
  · have := h.seenPut_le
    rw [List.length_cons] at this
    omega
  · intro i hi
    rw [capacity_pop] at hi ⊢
    rw [slots_pop, hslot, Array.getElem?_setIfInBounds]
    -- The freed slot comes round as the last one behind the new oldest item.
    by_cases hlast : i + 1 = r.capacity
    · have hlt : taken % r.capacity < r.slots.size := Nat.mod_lt _ h.capacity_pos
      have hround : (taken + 1 + i) % r.capacity = taken % r.capacity := by
        rw [Nat.add_assoc, Nat.add_comm 1 i, hlast, Nat.add_mod_right]
      rw [hround, if_pos rfl, if_pos hlt, List.getElem?_eq_none (by omega)]
    · have hne : taken % r.capacity ≠ (taken + (i + 1)) % r.capacity := by
        have := add_mod_inj (t := taken) (i := 0) (j := i + 1) h.capacity_pos (by omega)
        rw [Nat.add_zero] at this
        rw [Ne, this]
        omega
      have hnext := h.slots_eq (i + 1) (by omega)
      rw [Nat.add_assoc, Nat.add_comm 1 i, if_neg hne, hnext, List.getElem?_cons_succ]

/-- Taking several items takes the front of the queue. -/
theorem popMany {n : Nat} (h : r.Holds q taken seenTaken seenPut) (hn : taken + n ≤ seenPut) :
    (r.popMany n).1 = q.take n ∧
      (r.popMany n).2.Holds (q.drop n) (taken + n) seenTaken seenPut := by
  induction n generalizing r q taken with
  | zero => exact ⟨by simp [Ring.popMany], by simpa [Ring.popMany] using h⟩
  | succ n ih =>
      cases q with
      | nil =>
          have := h.seenPut_le
          rw [List.length_nil] at this
          omega
      | cons x q =>
          obtain ⟨hx, hpop⟩ := h.pop (by omega)
          obtain ⟨hrest, hholds⟩ := ih hpop (by omega)
          constructor
          · rw [Ring.popMany, List.take_succ_cons, ← hrest]
            simp [hx]
          · rw [Ring.popMany, List.drop_succ_cons]
            rw [Nat.add_assoc, Nat.add_comm 1 n] at hholds
            exact hholds

end Holds

end EtherRelay.Ring
