import EtherRelay.Proofs.Ring.Lifetime

/-!
# What a ring admits

The producer decides on a copy of `tail` that may be old, and looks at `tail` itself only if the copy
shows too little room. The main statement says that this never shows: in every state that a ring can
come to, an item or a burst is admitted just if there is room for it, whatever the copy is, and a
refusal tells how much room there is. An admitted burst leaves exactly the ring that admitting its
items one by one would leave, the copy of `tail` included, although the producer then looks at `tail`
at another time; so nothing that happens later can tell the two apart.
-/

namespace EtherRelay.Ring

variable {α : Type} {r : Ring α}

/-- Offer items one by one; the answer holds those that were handed back. -/
def enqueueEach (r : Ring α) : List α → List α × Ring α
  | [] => ([], r)
  | item :: items =>
    let (back, r) := r.enqueue item
    let (more, r) := r.enqueueEach items
    (back.toList ++ more, r)

/-- A ring of this capacity admits exactly what there is room for. -/
structure AdmitsExactly (r : Ring α) (capacity : Nat) : Prop where
  length_le : r.toList.length ≤ capacity
  enqueue_iff : ∀ x, (r.enqueue x).1 = none ↔ r.toList.length < capacity
  enqueue_admitted : ∀ x, (r.enqueue x).1 = none → (r.enqueue x).2.toList = r.toList ++ [x]
  /-- A refused item is the one that is handed back. -/
  enqueue_refused : ∀ x y, (r.enqueue x).1 = some y → y = x ∧ (r.enqueue x).2.toList = r.toList
  enqueueBulk_iff : ∀ burst, (r.enqueueBulk burst).2.1 = none ↔
    burst = [] ∨ r.toList.length + burst.length ≤ capacity
  /-- An admitted burst is gone from the caller, and has the effect of its items one by one. -/
  enqueueBulk_admitted : ∀ burst, (r.enqueueBulk burst).2.1 = none →
    (r.enqueueBulk burst).1 = [] ∧ (r.enqueueBulk burst).2.2.toList = r.toList ++ burst ∧
      r.enqueueEach burst = ([], (r.enqueueBulk burst).2.2)
  /-- A refused burst stays with the caller as it is. -/
  enqueueBulk_refused : ∀ burst full, (r.enqueueBulk burst).2.1 = some full →
    full = ⟨burst.length, capacity - r.toList.length⟩ ∧ (r.enqueueBulk burst).1 = burst ∧
      (r.enqueueBulk burst).2.2.toList = r.toList

/-! ## Bursts and single items -/

/-- An item takes one of the slots that the producer knows to be free. -/
theorem Holds.cachedFree_push {q : List α} {taken seenTaken seenPut : Nat}
    (h : r.Holds q taken seenTaken seenPut) (hfree : 0 < r.cachedFree) (x : α) :
    (r.push x).cachedFree + 1 = r.cachedFree := by
  rw [h.cachedFree_eq] at hfree
  have hpush := h.push (by omega) x
  have hafter := hpush.cachedFree_eq
  rw [room_push, List.length_append, List.length_singleton] at hafter
  rw [h.cachedFree_eq]
  omega

/-- It does not matter whether the producer looks at `tail` before an item or behind it, as long as
it looks in time. -/
theorem Sound.refreshTail_push (h : r.Sound) (n : Nat) (x : α) :
    ((r.refreshTail 1).push x).refreshTail n = (r.refreshTail (n + 1)).push x := by
  obtain ⟨taken, seenTaken, seenPut, h⟩ := h
  by_cases hone : 1 ≤ r.cachedFree
  · have hpush := h.cachedFree_push hone x
    rw [show r.refreshTail 1 = r from if_pos hone]
    by_cases hall : n + 1 ≤ r.cachedFree
    · rw [show r.refreshTail (n + 1) = r from if_pos hall]
      exact if_pos (by omega)
    · rw [show r.refreshTail (n + 1) = { r with cachedTail := r.tail } from if_neg hall]
      exact if_neg (by omega)
  · have hmore : ¬ n + 1 ≤ r.cachedFree := by omega
    rw [show r.refreshTail 1 = { r with cachedTail := r.tail } from if_neg hone,
      show r.refreshTail (n + 1) = { r with cachedTail := r.tail } from if_neg hmore]
    -- a second look would find the same
    exact ite_self _

/-- Items that fit are admitted one by one, and leave the ring that the whole burst leaves. -/
theorem Sound.enqueueEach_eq (h : r.Sound) {burst : List α}
    (hfit : r.toList.length + burst.length ≤ r.room) :
    r.enqueueEach burst = ([], burst.foldl push (r.refreshTail burst.length)) := by
  induction burst generalizing r with
  | nil => rfl
  | cons x burst ih =>
    rw [List.length_cons] at hfit
    have hlt : r.toList.length < r.room := by omega
    obtain ⟨-, hsound, hlist⟩ := h.enqueue_of_lt hlt x
    have hroom := (Alike.enqueue r x).room_eq
    rw [h.enqueue_eq_push hlt] at hsound hlist hroom
    have hrest := ih hsound (by
      rw [hlist, hroom, List.length_append, List.length_singleton]
      omega)
    rw [enqueueEach, h.enqueue_eq_push hlt]
    dsimp only
    rw [hrest, h.refreshTail_push]
    rfl

/-! ## Admission -/

theorem Sound.admitsExactly (h : r.Sound) : r.AdmitsExactly r.room where
  length_le := h.length_le_room
  enqueue_iff x := by
    by_cases hlt : r.toList.length < r.room
    · exact iff_of_true (h.enqueue_of_lt hlt x).1 hlt
    · rw [(h.enqueue_of_full (Nat.le_of_not_lt hlt) x).1]
      exact iff_of_false (fun hnone => nomatch hnone) hlt
  enqueue_admitted x hnone := by
    by_cases hlt : r.toList.length < r.room
    · exact (h.enqueue_of_lt hlt x).2.2
    · rw [(h.enqueue_of_full (Nat.le_of_not_lt hlt) x).1] at hnone
      nomatch hnone
  enqueue_refused x y hsome := by
    by_cases hlt : r.toList.length < r.room
    · rw [(h.enqueue_of_lt hlt x).1] at hsome
      nomatch hsome
    · obtain ⟨hback, -, hlist⟩ := h.enqueue_of_full (Nat.le_of_not_lt hlt) x
      rw [hback] at hsome
      exact ⟨(Option.some.inj hsome).symm, hlist⟩
  enqueueBulk_iff burst := by
    by_cases hfit : r.toList.length + burst.length ≤ r.room
    · exact iff_of_true (h.enqueueBulk_of_le hfit).2.1 (.inr hfit)
    · rw [(h.enqueueBulk_of_lt (Nat.lt_of_not_le hfit)).2.1]
      refine iff_of_false (fun hnone => nomatch hnone) ?_
      rintro (rfl | hfit')
      · exact hfit h.length_le_room
      · exact hfit hfit'
  enqueueBulk_admitted burst hnone := by
    by_cases hfit : r.toList.length + burst.length ≤ r.room
    · obtain ⟨hleft, -, -, hlist⟩ := h.enqueueBulk_of_le hfit
      refine ⟨hleft, hlist, ?_⟩
      rw [h.enqueueEach_eq hfit, h.enqueueBulk_eq_push hfit]
    · rw [(h.enqueueBulk_of_lt (Nat.lt_of_not_le hfit)).2.1] at hnone
      nomatch hnone
  enqueueBulk_refused burst full hsome := by
    by_cases hfit : r.toList.length + burst.length ≤ r.room
    · rw [(h.enqueueBulk_of_le hfit).2.1] at hsome
      nomatch hsome
    · obtain ⟨hleft, hfull, -, hlist⟩ := h.enqueueBulk_of_lt (Nat.lt_of_not_le hfit)
      rw [hfull] at hsome
      exact ⟨(Option.some.inj hsome).symm, hleft, hlist⟩

/-- A ring admits exactly what there is room for, in every state that it can come to while the
producer's half is left: whatever was done with it before, an item or a burst is admitted just if
its capacity is not exceeded by it and the items that were accepted and not delivered. -/
theorem life_admits (name : String) (capacity : UInt64)
    (hpow : isPowerOfTwo capacity.toNat = true) :
    ∃ r : Ring α, create name capacity.toNat = .ok r ∧
      ∀ events : List (Event α),
        let l := ({ ring := r } : Life α).run events
        l.ring.has .producer = true →
          l.delivered ++ l.ring.toList = l.accepted ∧ l.ring.AdmitsExactly capacity.toNat := by
  obtain ⟨r, hr⟩ : ∃ r : Ring α, create name capacity.toNat = .ok r := create_eq_ok hpow
  refine ⟨r, hr, ?_⟩
  intro events l hhalf
  have hlasts := Life.lasts_of_has hr hhalf
  refine ⟨hlasts.kept.delivered_append, ?_⟩
  rw [← hlasts.room_eq capacity.toNat_lt_size]
  exact hlasts.kept.sound.admitsExactly

/-- The producer has not seen yet that two of its three items were taken. -/
def unseen : List (Event Nat) := [.call (.enqueueBulk [1, 2, 3]), .call (.dequeueBurst 2)]

theorem life_admits_unseen :
    isPowerOfTwo (4 : UInt64).toNat = true ∧
      ∃ r : Ring Nat, create "four" (4 : UInt64).toNat = .ok r ∧
        let l := ({ ring := r } : Life Nat).run unseen
        l.ring.has .producer = true ∧ l.ring.cachedFree = 1 ∧ l.ring.AdmitsExactly 4 ∧
          (l.ring.enqueueBulk [4, 5, 6]).2.1 = none ∧
          (l.ring.enqueueBulk [4, 5, 6, 7]).2.1 = some ⟨4, 3⟩ := by
  have hpow : isPowerOfTwo (4 : UInt64).toNat = true := by decide
  obtain ⟨r, hr, h⟩ := life_admits (α := Nat) "four" 4 hpow
  have hfour : { name := "four", slots := #[none, none, none, none] } = r := Except.ok.inj hr
  have hhalf : (({ ring := r } : Life Nat).run unseen).ring.has .producer = true := by
    subst hfour
    rfl
  refine ⟨hpow, r, hr, hhalf, ?_, (h unseen hhalf).2, ?_, ?_⟩
  · subst hfour
    decide
  · subst hfour
    decide
  · subst hfour
    decide

end EtherRelay.Ring
