import EtherRelay.Proofs.Ring.Contents
import Mathlib.Data.Finset.Basic

/-!
# Histories of a ring

A history runs any sequence of calls on both halves of a ring, one after the other, and keeps
what was accepted, what was delivered, and which slots were accessed in which order. The main
statement says that every history of a fresh ring is one of a bounded first-in first-out queue,
however long it is: the indices may wrap as often as they like.
-/

namespace EtherRelay.Ring

variable {α : Type}

/-- A call on one of the halves of a ring. -/
inductive Call (α : Type) where
  | enqueue (item : α)
  | enqueueBulk (burst : List α)
  | dequeueBurst (max : Nat)
  | length
  | isEmpty
  deriving Repr, DecidableEq

/-! ## Accesses to slots -/

/-- An access to the slot at a position. -/
inductive Access where
  | write (slot : Nat)
  | read (slot : Nat)
  deriving Repr, DecidableEq

/-- The slots that hold an unread item after more accesses. There are none to speak of once an
access reads a slot that holds no item, or overwrites an item that was not read. -/
def Access.filled (slots : Finset Nat) : List Access → Option (Finset Nat)
  | [] => some slots
  | .write slot :: rest => if slot ∈ slots then none else filled (insert slot slots) rest
  | .read slot :: rest => if slot ∈ slots then filled (slots.erase slot) rest else none

theorem Access.filled_append (slots : Finset Nat) (before after : List Access) :
    filled slots (before ++ after) = (filled slots before).bind (filled · after) := by
  induction before generalizing slots with
  | nil => rfl
  | cons access before ih =>
      cases access with
      | write slot =>
          rw [List.cons_append, filled, filled]
          split
          · rfl
          · exact ih _
      | read slot =>
          rw [List.cons_append, filled, filled]
          split
          · exact ih _
          · rfl

/-- The slots that pushing a burst writes, in order. -/
def writes (r : Ring α) : List α → List Access
  | [] => []
  | item :: burst => .write (r.slot r.head) :: (r.push item).writes burst

/-- The slots that taking `n` items reads, in order. -/
def reads (r : Ring α) : Nat → List Access
  | 0 => []
  | n + 1 => .read (r.slot r.tail) :: r.pop.2.reads n

/-! ## Runs -/

/-- What became of a ring so far. -/
structure History (α : Type) where
  ring : Ring α
  /-- The items that were admitted, in order. -/
  accepted : List α := []
  /-- The items that were taken out, in order. -/
  delivered : List α := []
  accesses : List Access := []

namespace History

/-- Make one call. Asking for the length changes nothing. -/
def step (h : History α) : Call α → History α
  | .enqueue item =>
    match h.ring.enqueue item with
    | (some _, ring) => { h with ring }
    | (none, ring) =>
      { h with
        ring
        accepted := h.accepted ++ [item]
        accesses := h.accesses ++ (h.ring.refreshTail 1).writes [item] }
  | .enqueueBulk burst =>
    match h.ring.enqueueBulk burst with
    | (_, some _, ring) => { h with ring }
    | (_, none, ring) =>
      { h with
        ring
        accepted := h.accepted ++ burst
        accesses := h.accesses ++ (h.ring.refreshTail burst.length).writes burst }
  | .dequeueBurst max =>
    let (items, ring) := h.ring.dequeueBurst max
    { h with
      ring
      delivered := h.delivered ++ items
      accesses := h.accesses ++ h.ring.refreshHead.reads (min h.ring.visible max) }
  | .length | .isEmpty => h

/-- Make calls in order. -/
def run (h : History α) (calls : List (Call α)) : History α := calls.foldl step h

/-- What a history shows if the ring is a bounded queue. -/
structure IsQueue (h : History α) (capacity : Nat) : Prop where
  /-- What was delivered and what is still queued was accepted, in order and once each. -/
  delivered_append : h.delivered ++ h.ring.toList = h.accepted
  length_le : h.ring.toList.length ≤ capacity
  length_eq : h.ring.length = h.ring.toList.length
  isEmpty_iff : h.ring.isEmpty = true ↔ h.ring.toList = []
  /-- No slot was read before it was written or overwritten before it was read. -/
  filled_accesses : (Access.filled ∅ h.accesses).isSome
  /-- The producer subtracts no more than the capacity, before and after a fresh look. -/
  used_le : h.ring.head - h.ring.cachedTail ≤ UInt64.ofNat h.ring.capacity
  used_refreshed_le : ∀ wanted,
    (h.ring.refreshTail wanted).head - (h.ring.refreshTail wanted).cachedTail ≤
      UInt64.ofNat (h.ring.refreshTail wanted).capacity

end History

/-! ## What each call keeps -/

variable {r : Ring α} {q : List α} {taken seenTaken seenPut : Nat} {slots : Finset Nat}

/-- These are the slots of the ring that hold an item. -/
def FilledAt (r : Ring α) (slots : Finset Nat) : Prop :=
  ∀ i, i ∈ slots ↔ (r.slots[i]?).join.isSome

namespace Holds

/-- The slots at and behind `head` are free as long as there is room. -/
theorem slot_head_notMem (h : r.Holds q taken seenTaken seenPut) (hf : r.FilledAt slots)
    (hroom : taken + q.length < seenTaken + r.room) : r.slot r.head ∉ slots := by
  have hcap := r.room_le_capacity
  have := h.seenTaken_le
  rw [hf, h.head_eq, h.slot_ofNat (by omega), h.slots_eq q.length (by omega),
    List.getElem?_eq_none (Nat.le_refl _)]
  simp

/-- The oldest item stands in the slot of `tail`. -/
theorem slot_tail_mem {x : α} (h : r.Holds (x :: q) taken seenTaken seenPut)
    (hf : r.FilledAt slots) : r.slot r.tail ∈ slots := by
  have hroom := h.length_le_room
  have hfirst := h.slots_eq 0 h.capacity_pos
  rw [List.length_cons] at hroom
  rw [Nat.add_zero] at hfirst
  rw [hf, h.tail_eq, h.slot_ofNat (by omega), hfirst]
  rfl

theorem filledAt_push (h : r.Holds q taken seenTaken seenPut) (hf : r.FilledAt slots) (x : α) :
    (r.push x).FilledAt (insert (r.slot r.head) slots) := by
  intro i
  have hlt : r.slot r.head < r.slots.size := Nat.mod_lt _ h.capacity_pos
  rw [Finset.mem_insert, hf, slots_push, Array.getElem?_setIfInBounds]
  by_cases hi : r.slot r.head = i
  · subst hi
    simp [hlt]
  · simp [hi, Ne.symm hi]

theorem filledAt_pop (h : r.Holds q taken seenTaken seenPut) (hf : r.FilledAt slots) :
    r.pop.2.FilledAt (slots.erase (r.slot r.tail)) := by
  intro i
  have hlt : r.slot r.tail < r.slots.size := Nat.mod_lt _ h.capacity_pos
  rw [Finset.mem_erase, hf, slots_pop, Array.getElem?_setIfInBounds]
  by_cases hi : r.slot r.tail = i
  · subst hi
    simp [hlt]
  · simp [hi, Ne.symm hi]

/-- Pushing a burst that fits writes free slots only. -/
theorem filled_writes (burst : List α) (h : r.Holds q taken seenTaken seenPut)
    (hf : r.FilledAt slots) (hroom : taken + q.length + burst.length ≤ seenTaken + r.room) :
    ∃ slots', Access.filled slots (r.writes burst) = some slots' ∧
      (burst.foldl Ring.push r).FilledAt slots' := by
  induction burst generalizing r q slots with
  | nil => exact ⟨slots, rfl, hf⟩
  | cons x burst ih =>
      rw [List.length_cons] at hroom
      have hfree := h.slot_head_notMem hf (by omega)
      have hpush := h.push (by omega) x
      rw [writes, Access.filled, if_neg hfree]
      exact ih hpush (h.filledAt_push hf x)
        (by rw [room_push, List.length_append, List.length_singleton]; omega)

/-- Taking items that are there reads filled slots only. -/
theorem filled_reads {n : Nat} (h : r.Holds q taken seenTaken seenPut)
    (hf : r.FilledAt slots) (hn : taken + n ≤ seenPut) :
    ∃ slots', Access.filled slots (r.reads n) = some slots' ∧
      (r.popMany n).2.FilledAt slots' := by
  induction n generalizing r q taken slots with
  | zero => exact ⟨slots, rfl, hf⟩
  | succ n ih =>
      cases q with
      | nil =>
          have := h.seenPut_le
          rw [List.length_nil] at this
          omega
      | cons x q =>
          have hfilled := h.slot_tail_mem hf
          obtain ⟨_, hpop⟩ := h.pop (by omega)
          rw [reads, Access.filled, if_pos hfilled]
          exact ih hpop (h.filledAt_pop hf) (by omega)

theorem used_le (h : r.Holds q taken seenTaken seenPut) :
    r.head - r.cachedTail ≤ UInt64.ofNat r.capacity := by
  have := h.le_room
  rw [UInt64.le_iff_toNat_le, h.head_sub_cachedTail]
  change _ ≤ r.room
  omega

end Holds

theorem filledAt_refreshTail (hf : r.FilledAt slots) (wanted : Nat) :
    (r.refreshTail wanted).FilledAt slots := by
  rw [Ring.refreshTail]
  split <;> exact hf

theorem filledAt_refreshHead (hf : r.FilledAt slots) : r.refreshHead.FilledAt slots := by
  rw [Ring.refreshHead]
  split <;> exact hf

namespace History

variable {h : History α} {capacity : Nat}

/-- What every call keeps. The accesses so far fill exactly the slots that hold an item. -/
structure Kept (h : History α) (capacity : Nat) : Prop where
  sound : h.ring.Sound
  capacity_eq : h.ring.capacity = capacity
  delivered_append : h.delivered ++ h.ring.toList = h.accepted
  filled : ∃ slots, Access.filled ∅ h.accesses = some slots ∧ h.ring.FilledAt slots

/-- More accesses that go well from the slots filled so far go well after all accesses. -/
theorem Kept.filled_append (hk : h.Kept capacity) {ring : Ring α} {accesses : List Access}
    (hmore : ∀ slots, h.ring.FilledAt slots →
      ∃ slots', Access.filled slots accesses = some slots' ∧ ring.FilledAt slots') :
    ∃ slots, Access.filled ∅ (h.accesses ++ accesses) = some slots ∧ ring.FilledAt slots := by
  obtain ⟨slots, hslots, hf⟩ := hk.filled
  obtain ⟨slots', hslots', hf'⟩ := hmore slots hf
  exact ⟨slots', by rw [Access.filled_append, hslots, Option.bind_some, hslots'], hf'⟩

theorem kept_enqueue (hk : h.Kept capacity) (item : α) :
    (h.step (.enqueue item)).Kept capacity := by
  have hs := hk.sound
  have hcap := (Alike.enqueue h.ring item).capacity_eq.trans hk.capacity_eq
  by_cases hlt : h.ring.toList.length < h.ring.room
  · obtain ⟨_, hsound, hlist⟩ := hs.enqueue_of_lt hlt item
    rw [hs.enqueue_eq_push hlt] at hsound hlist hcap
    simp only [step, hs.enqueue_eq_push hlt]
    refine ⟨hsound, hcap, ?_, ?_⟩
    · rw [hlist, ← List.append_assoc, hk.delivered_append]
    · apply hk.filled_append
      intro slots hf
      obtain ⟨taken, seenTaken, seenPut, h', hle⟩ := hs.refreshTail_of_le (n := 1) hlt
      exact h'.filled_writes [item] (filledAt_refreshTail hf 1) hle
  · have hfull := Nat.le_of_not_lt hlt
    obtain ⟨_, hsound, hlist⟩ := hs.enqueue_of_full hfull item
    rw [hs.enqueue_eq_refresh hfull] at hsound hlist hcap
    simp only [step, hs.enqueue_eq_refresh hfull]
    refine ⟨hsound, hcap, ?_, ?_⟩
    · rw [hlist, hk.delivered_append]
    · obtain ⟨slots, hslots, hf⟩ := hk.filled
      exact ⟨slots, hslots, filledAt_refreshTail hf 1⟩

theorem kept_enqueueBulk (hk : h.Kept capacity) (burst : List α) :
    (h.step (.enqueueBulk burst)).Kept capacity := by
  have hs := hk.sound
  have hcap := (Alike.enqueueBulk h.ring burst).capacity_eq.trans hk.capacity_eq
  by_cases hfit : h.ring.toList.length + burst.length ≤ h.ring.room
  · obtain ⟨_, _, hsound, hlist⟩ := hs.enqueueBulk_of_le hfit
    rw [hs.enqueueBulk_eq_push hfit] at hsound hlist hcap
    simp only [step, hs.enqueueBulk_eq_push hfit]
    refine ⟨hsound, hcap, ?_, ?_⟩
    · rw [hlist, ← List.append_assoc, hk.delivered_append]
    · apply hk.filled_append
      intro slots hf
      obtain ⟨taken, seenTaken, seenPut, h', hle⟩ := hs.refreshTail_of_le hfit
      exact h'.filled_writes burst (filledAt_refreshTail hf _) hle
  · have hover := Nat.lt_of_not_le hfit
    obtain ⟨_, _, hsound, hlist⟩ := hs.enqueueBulk_of_lt hover
    rw [hs.enqueueBulk_eq_refresh hover] at hsound hlist hcap
    simp only [step, hs.enqueueBulk_eq_refresh hover]
    refine ⟨hsound, hcap, ?_, ?_⟩
    · rw [hlist, hk.delivered_append]
    · obtain ⟨slots, hslots, hf⟩ := hk.filled
      exact ⟨slots, hslots, filledAt_refreshTail hf _⟩

theorem kept_dequeueBurst (hk : h.Kept capacity) (max : Nat) :
    (h.step (.dequeueBurst max)).Kept capacity := by
  have hs := hk.sound
  have hcap := (Alike.dequeueBurst h.ring max).capacity_eq.trans hk.capacity_eq
  obtain ⟨hitems, hsound, hlist⟩ := hs.dequeueBurst max
  simp only [step]
  refine ⟨hsound, hcap, ?_, ?_⟩
  · rw [hitems, hlist, List.append_assoc, List.take_append_drop, hk.delivered_append]
  · apply hk.filled_append
    intro slots hf
    obtain ⟨taken, _, _, h'⟩ := hs
    obtain ⟨seen, h', _⟩ := h'.refreshHead
    have hvisible : h.ring.visible = seen - taken := h'.cachedLength_eq
    have := h'.le_seenPut
    exact h'.filled_reads (filledAt_refreshHead hf) (by omega)

theorem kept_step (hk : h.Kept capacity) (call : Call α) : (h.step call).Kept capacity := by
  cases call with
  | enqueue item => exact kept_enqueue hk item
  | enqueueBulk burst => exact kept_enqueueBulk hk burst
  | dequeueBurst max => exact kept_dequeueBurst hk max
  | length => exact hk
  | isEmpty => exact hk

theorem kept_run (hk : h.Kept capacity) (calls : List (Call α)) :
    (h.run calls).Kept capacity := by
  induction calls generalizing h with
  | nil => exact hk
  | cons call calls ih => exact ih (kept_step hk call)

theorem kept_fresh {name : String} (hr : create name capacity = .ok r) :
    ({ ring := r } : History α).Kept capacity := by
  obtain ⟨hsound, hempty, hcap⟩ := create_sound hr
  refine ⟨hsound, hcap, hempty, ∅, rfl, ?_⟩
  intro i
  rw [create] at hr
  split at hr
  · cases hr
    rw [Array.getElem?_replicate]
    split <;> simp
  · cases hr

theorem Kept.isQueue (hk : h.Kept capacity) (hcap : capacity < UInt64.size) :
    h.IsQueue capacity := by
  have hs := hk.sound
  have hroom : h.ring.room = capacity := by
    rw [room_eq_capacity (hk.capacity_eq ▸ hcap), hk.capacity_eq]
  obtain ⟨slots, hslots, _⟩ := hk.filled
  refine ⟨hk.delivered_append, hroom ▸ hs.length_le_room, hs.length_eq, ?_, ?_, ?_, ?_⟩
  · rw [isEmpty, hs.length_eq, beq_iff_eq, List.length_eq_zero_iff]
  · rw [hslots]
    rfl
  · obtain ⟨_, _, _, h'⟩ := hs
    exact h'.used_le
  · intro wanted
    obtain ⟨_, _, _, h'⟩ := hs
    obtain ⟨_, h', _⟩ := h'.refreshTail wanted
    exact h'.used_le

end History

/-- Every history of a ring is one of a bounded queue: for every capacity that is a power of two,
a ring can be made, and whatever calls follow, it delivers what it accepted, in order and once
each, never holds more than its capacity, reports exactly how much it holds, and neither reads
nor overwrites a slot out of turn. -/
theorem history_isQueue (name : String) (capacity : UInt64)
    (hpow : isPowerOfTwo capacity.toNat = true) :
    ∃ r : Ring α, create name capacity.toNat = .ok r ∧
      ∀ calls : List (Call α), (({ ring := r } : History α).run calls).IsQueue capacity.toNat := by
  obtain ⟨r, hr⟩ : ∃ r : Ring α, create name capacity.toNat = .ok r := create_eq_ok hpow
  refine ⟨r, hr, ?_⟩
  intro calls
  exact (History.kept_run (History.kept_fresh hr) calls).isQueue capacity.toNat_lt_size

/-- The statement at a ring of eight numbers. -/
theorem history_isQueue_eight :
    isPowerOfTwo (8 : UInt64).toNat = true ∧
      ∃ r : Ring Nat, create "fifo" (8 : UInt64).toNat = .ok r ∧
        ∀ calls : List (Call Nat), (({ ring := r } : History Nat).run calls).IsQueue 8 :=
  ⟨by decide, history_isQueue "fifo" 8 (by decide)⟩

end EtherRelay.Ring
