import EtherRelay.Proofs.Ring.Positions

/-!
# Rings seen as queues

A ring is sound if it holds the items of `Ring.toList`. Each call of the producer and of the
consumer is described by what it does to that list: admission depends on the room alone,
although the producer only looks at its own copy of `tail`, and a burst taken out is the front
of the queue, as far as the consumer sees it.
-/

namespace EtherRelay.Ring

variable {α : Type} {r : Ring α}

/-- The items that a consumer sees once it has refreshed its view. -/
def visible (r : Ring α) : Nat := r.refreshHead.cachedLength

/-- The room that the queue leaves. -/
def freeSlots (r : Ring α) : Nat := r.room - r.toList.length

/-- The ring holds the items of `toList`. -/
def Sound (r : Ring α) : Prop :=
  ∃ taken seenTaken seenPut, r.Holds r.toList taken seenTaken seenPut

theorem Holds.sound {q : List α} {taken seenTaken seenPut : Nat}
    (h : r.Holds q taken seenTaken seenPut) : r.Sound :=
  ⟨taken, seenTaken, seenPut, h.toList_eq.symm ▸ h⟩

/-- A ring can be made if its capacity is a power of two, and starts out empty. -/
theorem create_sound {name : String} {capacity : Nat} (h : create name capacity = .ok r) :
    r.Sound ∧ r.toList = [] ∧ r.capacity = capacity := by
  rw [create] at h
  split at h
  · next hpow =>
    cases h
    obtain ⟨k, hk⟩ := isPowerOfTwo_iff.mp hpow
    have hcap : Ring.capacity (α := α) { name, slots := Array.replicate capacity none } =
        capacity := Array.size_replicate
    have hholds : Ring.Holds (α := α) { name, slots := Array.replicate capacity none }
        [] 0 0 0 := by
      refine ⟨⟨k, hcap.trans hk⟩, rfl, rfl, rfl, rfl, Nat.le_refl _, ?_, Nat.le_refl _,
        Nat.le_refl _, ?_⟩
      · simp
      · intro i hi
        have hpos : 0 < capacity := Nat.lt_of_le_of_lt (Nat.zero_le _) (hcap ▸ hi)
        have hlt : (0 + i) % capacity < capacity := Nat.mod_lt _ hpos
        rw [hcap, Array.getElem?_replicate, if_pos hlt]
        rfl
    exact ⟨hholds.sound, hholds.toList_eq, hcap⟩
  · cases h

theorem create_open {name : String} {capacity : Nat} (h : create name capacity = .ok r) :
    r.producerOpen = true ∧ r.consumerOpen = true := by
  rw [create] at h
  split at h
  · cases h
    exact ⟨rfl, rfl⟩
  · cases h

theorem create_eq_ok {name : String} {capacity : Nat} (h : isPowerOfTwo capacity = true) :
    ∃ r : Ring α, create name capacity = .ok r := by
  rw [create, if_pos h]
  exact ⟨_, rfl⟩

/-! ## What the calls leave alone -/

/-- Two states of one ring: it keeps its name, its size and its halves. -/
structure Alike (r r' : Ring α) : Prop where
  name_eq : r'.name = r.name
  capacity_eq : r'.capacity = r.capacity
  producerOpen_eq : r'.producerOpen = r.producerOpen
  consumerOpen_eq : r'.consumerOpen = r.consumerOpen

namespace Alike

variable {r' r'' : Ring α}

theorem refl (r : Ring α) : r.Alike r := ⟨rfl, rfl, rfl, rfl⟩

theorem trans (h : r.Alike r') (h' : r'.Alike r'') : r.Alike r'' :=
  ⟨h'.name_eq.trans h.name_eq, h'.capacity_eq.trans h.capacity_eq,
    h'.producerOpen_eq.trans h.producerOpen_eq, h'.consumerOpen_eq.trans h.consumerOpen_eq⟩

theorem room_eq (h : r.Alike r') : r'.room = r.room := by
  rw [room, room, h.capacity_eq]

theorem refreshTail (r : Ring α) (wanted : Nat) : r.Alike (r.refreshTail wanted) := by
  rw [Ring.refreshTail]
  split <;> exact ⟨rfl, rfl, rfl, rfl⟩

theorem refreshHead (r : Ring α) : r.Alike r.refreshHead := by
  rw [Ring.refreshHead]
  split <;> exact ⟨rfl, rfl, rfl, rfl⟩

theorem push (r : Ring α) (x : α) : r.Alike (r.push x) :=
  ⟨rfl, r.capacity_push x, rfl, rfl⟩

theorem pushAll (r : Ring α) (burst : List α) : r.Alike (burst.foldl Ring.push r) := by
  induction burst generalizing r with
  | nil => exact refl r
  | cons x burst ih => exact (push r x).trans (ih _)

theorem popMany (r : Ring α) (n : Nat) : r.Alike (r.popMany n).2 := by
  induction n generalizing r with
  | zero => exact refl r
  | succ n ih =>
      have hpop : r.Alike r.pop.2 := ⟨rfl, r.capacity_pop, rfl, rfl⟩
      exact hpop.trans (ih _)

theorem enqueue (r : Ring α) (x : α) : r.Alike (r.enqueue x).2 := by
  rw [Ring.enqueue]
  split
  · exact refreshTail r 1
  · exact (refreshTail r 1).trans (push _ x)

theorem enqueueBulk (r : Ring α) (burst : List α) : r.Alike (r.enqueueBulk burst).2.2 := by
  cases burst with
  | nil => exact refl r
  | cons x burst =>
      simp only [Ring.enqueueBulk]
      split
      · exact refreshTail r _
      · exact (refreshTail r _).trans (pushAll _ _)

theorem dequeueBurst (r : Ring α) (max : Nat) : r.Alike (r.dequeueBurst max).2 :=
  (refreshHead r).trans (popMany _ _)

end Alike

theorem length_popMany_le (r : Ring α) (n : Nat) : (r.popMany n).1.length ≤ n := by
  induction n generalizing r with
  | zero => exact Nat.le_refl 0
  | succ n ih =>
      have hrest := ih r.pop.2
      have hfirst : r.pop.1.toList.length ≤ 1 := Option.length_toList_le
      rw [Ring.popMany, List.length_append]
      omega

theorem length_dequeueBurst_le (r : Ring α) (max : Nat) : (r.dequeueBurst max).1.length ≤ max :=
  (length_popMany_le _ _).trans (Nat.min_le_right _ _)

namespace Sound

theorem length_eq (h : r.Sound) : r.length = r.toList.length := by
  obtain ⟨_, _, _, h⟩ := h
  exact h.length_eq

theorem length_le_room (h : r.Sound) : r.toList.length ≤ r.room := by
  obtain ⟨_, _, _, h⟩ := h
  exact h.length_le_room

/-- Once the producer has looked, its copy of `tail` shows the room for whatever fits. -/
theorem refreshTail_of_le (h : r.Sound) {n : Nat} (hfit : r.toList.length + n ≤ r.room) :
    ∃ taken seenTaken seenPut, (r.refreshTail n).Holds r.toList taken seenTaken seenPut ∧
      taken + r.toList.length + n ≤ seenTaken + (r.refreshTail n).room := by
  obtain ⟨taken, _, seenPut, h⟩ := h
  obtain ⟨seen, h', hseen⟩ := h.refreshTail n
  have hroom := r.room_refreshTail n
  have hfree := h'.cachedFree_eq
  have hle := h'.le_room
  exact ⟨taken, seen, seenPut, h', by omega⟩

theorem enqueue_eq_push (h : r.Sound) (hlt : r.toList.length < r.room) (x : α) :
    r.enqueue x = (none, (r.refreshTail 1).push x) := by
  obtain ⟨taken, seenTaken, seenPut, h', hle⟩ := h.refreshTail_of_le (n := 1) hlt
  have hfree := h'.cachedFree_eq
  rw [Ring.enqueue, if_neg (by omega)]

/-- An item is admitted if there is room. -/
theorem enqueue_of_lt (h : r.Sound) (hlt : r.toList.length < r.room) (x : α) :
    (r.enqueue x).1 = none ∧ (r.enqueue x).2.Sound ∧
      (r.enqueue x).2.toList = r.toList ++ [x] := by
  obtain ⟨taken, seenTaken, seenPut, h', hle⟩ := h.refreshTail_of_le (n := 1) hlt
  have hpush := h'.push hle x
  rw [h.enqueue_eq_push hlt]
  exact ⟨rfl, hpush.sound, hpush.toList_eq⟩

/-- Once the producer has looked in vain, its copy of `tail` shows all the room there is. -/
theorem refreshTail_of_lt (h : r.Sound) {n : Nat} (hn : 0 < n)
    (hover : r.room < r.toList.length + n) :
    (r.refreshTail n).Sound ∧ (r.refreshTail n).toList = r.toList ∧
      (r.refreshTail n).cachedFree = r.room - r.toList.length := by
  obtain ⟨taken, _, seenPut, h⟩ := h
  obtain ⟨seen, h', hseen⟩ := h.refreshTail n
  have hroom := r.room_refreshTail n
  have hfree := h'.cachedFree_eq
  have := h'.seenTaken_le
  exact ⟨h'.sound, h'.toList_eq, by omega⟩

theorem enqueue_eq_refresh (h : r.Sound) (hfull : r.room ≤ r.toList.length) (x : α) :
    r.enqueue x = (some x, r.refreshTail 1) := by
  obtain ⟨_, _, hfree⟩ := h.refreshTail_of_lt Nat.one_pos (Nat.lt_succ_of_le hfull)
  rw [Ring.enqueue, if_pos (by omega)]

/-- An item is handed back if there is no room. -/
theorem enqueue_of_full (h : r.Sound) (hfull : r.room ≤ r.toList.length) (x : α) :
    (r.enqueue x).1 = some x ∧ (r.enqueue x).2.Sound ∧
      (r.enqueue x).2.toList = r.toList := by
  obtain ⟨hsound, hlist, _⟩ := h.refreshTail_of_lt Nat.one_pos (Nat.lt_succ_of_le hfull)
  rw [h.enqueue_eq_refresh hfull]
  exact ⟨rfl, hsound, hlist⟩

theorem enqueueBulk_eq_push (h : r.Sound) {burst : List α}
    (hfit : r.toList.length + burst.length ≤ r.room) :
    r.enqueueBulk burst = ([], none, burst.foldl push (r.refreshTail burst.length)) := by
  obtain ⟨taken, seenTaken, seenPut, h', hle⟩ := h.refreshTail_of_le hfit
  have hfree := h'.cachedFree_eq
  cases burst with
  | nil => simp [Ring.enqueueBulk, Ring.refreshTail]
  | cons x burst =>
      simp only [Ring.enqueueBulk]
      rw [if_neg (by omega)]

/-- A burst that fits is admitted whole. -/
theorem enqueueBulk_of_le (h : r.Sound) {burst : List α}
    (hfit : r.toList.length + burst.length ≤ r.room) :
    (r.enqueueBulk burst).1 = [] ∧ (r.enqueueBulk burst).2.1 = none ∧
      (r.enqueueBulk burst).2.2.Sound ∧
      (r.enqueueBulk burst).2.2.toList = r.toList ++ burst := by
  obtain ⟨taken, seenTaken, seenPut, h', hle⟩ := h.refreshTail_of_le hfit
  have hpush := h'.pushAll burst hle
  rw [h.enqueueBulk_eq_push hfit]
  exact ⟨rfl, rfl, hpush.sound, hpush.toList_eq⟩

theorem enqueueBulk_eq_refresh (h : r.Sound) {burst : List α}
    (hover : r.room < r.toList.length + burst.length) :
    r.enqueueBulk burst =
      (burst, some ⟨burst.length, r.room - r.toList.length⟩, r.refreshTail burst.length) := by
  have hlen := h.length_le_room
  have hpos : 0 < burst.length := by omega
  obtain ⟨_, _, hfree⟩ := h.refreshTail_of_lt hpos hover
  cases burst with
  | nil => exact absurd hpos (Nat.lt_irrefl 0)
  | cons x burst =>
      simp only [Ring.enqueueBulk]
      rw [if_pos (by omega), hfree]

/-- A burst that does not fit is refused whole, with the room that there is. -/
theorem enqueueBulk_of_lt (h : r.Sound) {burst : List α}
    (hover : r.room < r.toList.length + burst.length) :
    (r.enqueueBulk burst).1 = burst ∧
      (r.enqueueBulk burst).2.1 = some ⟨burst.length, r.room - r.toList.length⟩ ∧
      (r.enqueueBulk burst).2.2.Sound ∧
      (r.enqueueBulk burst).2.2.toList = r.toList := by
  have hlen := h.length_le_room
  obtain ⟨hsound, hlist, _⟩ := h.refreshTail_of_lt (n := burst.length) (by omega) hover
  rw [h.enqueueBulk_eq_refresh hover]
  exact ⟨rfl, rfl, hsound, hlist⟩

/-- A burst taken out is the front of the queue, as far as the consumer sees it. -/
theorem dequeueBurst (h : r.Sound) (max : Nat) :
    (r.dequeueBurst max).1 = r.toList.take (min r.visible max) ∧
      (r.dequeueBurst max).2.Sound ∧
      (r.dequeueBurst max).2.toList = r.toList.drop (min r.visible max) := by
  obtain ⟨taken, seenTaken, seenPut, h⟩ := h
  obtain ⟨seen, h', _⟩ := h.refreshHead
  have hvisible : r.visible = seen - taken := h'.cachedLength_eq
  have := h'.le_seenPut
  obtain ⟨hitems, hholds⟩ := h'.popMany (n := min r.visible max) (by omega)
  rw [Ring.dequeueBurst]
  exact ⟨hitems, hholds.sound, hholds.toList_eq⟩

end Sound

end EtherRelay.Ring
