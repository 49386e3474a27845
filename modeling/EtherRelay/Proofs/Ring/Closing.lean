import EtherRelay.Proofs.Ring.Contents

/-!
# Giving up the halves of a ring

While one half is left, a ring stands for the same queue whichever half was given up. When the
second half goes, the ring gives up exactly what is queued and is empty from then on.
`Ring.Kept` is what holds of a ring in either case.
-/

namespace EtherRelay.Ring

variable {α : Type} {r : Ring α}

/-- A ring is sound while one of its halves is left, and empty once both are gone. -/
structure Kept (r : Ring α) : Prop where
  sound : r.producerOpen = true ∨ r.consumerOpen = true → r.Sound
  toList_eq : r.producerOpen = false → r.consumerOpen = false → r.toList = []

/-- A call on a ring with a half left keeps it if it leaves it sound. -/
theorem Alike.kept {r' : Ring α} (ha : r.Alike r')
    (hopen : r.producerOpen = true ∨ r.consumerOpen = true) (hsound : r'.Sound) : r'.Kept where
  sound _ := hsound
  toList_eq hp hc := by
    rw [ha.producerOpen_eq] at hp
    rw [ha.consumerOpen_eq] at hc
    rw [hp, hc] at hopen
    rcases hopen with hopen | hopen <;> cases hopen

/-! ## Taking everything -/

/-- The consumer's copy of `head` plays no part in taking items. -/
theorem popMany_cachedHead (r : Ring α) (n : Nat) (seen : UInt64) :
    { r with cachedHead := seen }.popMany n =
      ((r.popMany n).1, { (r.popMany n).2 with cachedHead := seen }) := by
  induction n generalizing r with
  | zero => rfl
  | succ n ih =>
      have hpop : { r with cachedHead := seen }.pop =
          (r.pop.1, { r.pop.2 with cachedHead := seen }) := rfl
      rw [popMany, hpop]
      dsimp only
      rw [ih]
      rfl

/-- With a fresh copy of `head` the consumer would see the whole queue. -/
theorem Sound.holds_head (h : r.Sound) :
    ∃ taken seenTaken, ({ r with cachedHead := r.head } : Ring α).Holds r.toList taken seenTaken
      (taken + r.toList.length) := by
  obtain ⟨taken, seenTaken, seenPut, h⟩ := h
  exact ⟨taken, seenTaken, { h with
    cachedHead_eq := h.head_eq
    le_seenPut := Nat.le_add_right _ _
    seenPut_le := Nat.le_refl _ }⟩

/-- Taking as many items as are queued takes the whole queue, also those that the consumer has
not seen. -/
theorem Sound.popMany_length (h : r.Sound) :
    (r.popMany r.length).1 = r.toList ∧ (r.popMany r.length).2.toList = [] := by
  obtain ⟨taken, seenTaken, hseen⟩ := h.holds_head
  obtain ⟨hitems, hrest⟩ := hseen.popMany (n := r.length) (by rw [h.length_eq])
  rw [popMany_cachedHead, h.length_eq] at hitems hrest
  rw [h.length_eq]
  refine ⟨by rw [hitems, List.take_length], ?_⟩
  have hempty := hrest.toList_eq
  rw [List.drop_length] at hempty
  exact hempty

/-! ## Closing -/

/-- A ring without halves gives up its queue. -/
theorem release_kept (hsound : r.Sound) :
    r.release.1 ++ r.release.2.toList = r.toList ∧ r.release.2.Kept ∧ r.Alike r.release.2 := by
  rw [release]
  split
  · next hopen =>
    refine ⟨rfl, ⟨fun _ => hsound, ?_⟩, .refl r⟩
    intro hp hc
    rw [hp, hc] at hopen
    cases hopen
  · next hclosed =>
    obtain ⟨hitems, hempty⟩ := hsound.popMany_length
    have halike := Alike.popMany r r.length
    refine ⟨by rw [hitems, hempty, List.append_nil], ⟨?_, fun _ _ => hempty⟩, halike⟩
    intro hopen
    rw [halike.producerOpen_eq, halike.consumerOpen_eq] at hopen
    exact absurd (by simpa using hopen) hclosed

theorem Sound.closed (h : r.Sound) (producer consumer : Bool) :
    ({ r with producerOpen := producer, consumerOpen := consumer } : Ring α).Sound := by
  obtain ⟨taken, seenTaken, seenPut, h⟩ := h
  exact ⟨taken, seenTaken, seenPut, { h with }⟩

/-- Closing the producer's half gives up the queue if that was the last half. -/
theorem Kept.closeProducer (h : r.Kept) :
    r.closeProducer.1 ++ r.closeProducer.2.toList = r.toList ∧ r.closeProducer.2.Kept ∧
      r.closeProducer.2.producerOpen = false ∧
      r.closeProducer.2.consumerOpen = r.consumerOpen := by
  rw [Ring.closeProducer]
  split
  · next hopen =>
    obtain ⟨hitems, hkept, halike⟩ :=
      release_kept ((h.sound (.inl hopen)).closed false r.consumerOpen)
    exact ⟨hitems, hkept, halike.producerOpen_eq, halike.consumerOpen_eq⟩
  · next hclosed => exact ⟨rfl, h, Bool.eq_false_of_not_eq_true hclosed, rfl⟩

/-- Closing the consumer's half gives up the queue if that was the last half. -/
theorem Kept.closeConsumer (h : r.Kept) :
    r.closeConsumer.1 ++ r.closeConsumer.2.toList = r.toList ∧ r.closeConsumer.2.Kept ∧
      r.closeConsumer.2.producerOpen = r.producerOpen ∧
      r.closeConsumer.2.consumerOpen = false := by
  rw [Ring.closeConsumer]
  split
  · next hopen =>
    obtain ⟨hitems, hkept, halike⟩ :=
      release_kept ((h.sound (.inr hopen)).closed r.producerOpen false)
    exact ⟨hitems, hkept, halike.producerOpen_eq, halike.consumerOpen_eq⟩
  · next hclosed => exact ⟨rfl, h, rfl, Bool.eq_false_of_not_eq_true hclosed⟩

end EtherRelay.Ring
