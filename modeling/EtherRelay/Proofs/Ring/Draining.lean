import EtherRelay.Proofs.Ring.Contents
import Mathlib.Algebra.Order.Floor.Div

/-!
# How often a ring must be asked

The consumer keeps serving the items that its copy of `head` shows before it looks at `head`
again, so it may get a short burst although more is queued. `Ring.burstsLeft` counts the bursts
that are still to come, those of the visible items and those behind them. Each burst that is taken
is one of them, and there is at most one more than it would take if all items were visible.
-/

namespace EtherRelay.Ring

variable {α : Type} {r : Ring α} {size : Nat}

/-- The bursts of at most `size` items in which the queued items are taken out. -/
def burstsLeft (r : Ring α) (size : Nat) : Nat :=
  r.visible ⌈/⌉ size + (r.toList.length - r.visible) ⌈/⌉ size

theorem ceilDiv_eq_zero (hsize : 0 < size) {n : Nat} : n ⌈/⌉ size = 0 ↔ n = 0 := by
  rw [← Nat.le_zero, ceilDiv_le_iff_le_mul hsize, Nat.mul_zero, Nat.le_zero]

/-- One burst less is left of whatever there is. -/
theorem sub_ceilDiv (hsize : 0 < size) (n : Nat) : (n - size) ⌈/⌉ size = n ⌈/⌉ size - 1 := by
  refine eq_of_forall_ge_iff fun k => ?_
  rw [ceilDiv_le_iff_le_mul hsize, Nat.sub_le_iff_le_add, Nat.sub_le_iff_le_add,
    ceilDiv_le_iff_le_mul hsize, Nat.mul_add, Nat.mul_one]

namespace Sound

theorem visible_le_length (h : r.Sound) : r.visible ≤ r.toList.length := by
  obtain ⟨taken, seenTaken, seenPut, h⟩ := h
  obtain ⟨seen, h', _⟩ := h.refreshHead
  have hvisible : r.visible = seen - taken := h'.cachedLength_eq
  have := h'.seenPut_le
  omega

/-- Whoever looks sees something if something is there. -/
theorem visible_eq_zero (h : r.Sound) : r.visible = 0 ↔ r.toList = [] := by
  have hle := h.visible_le_length
  obtain ⟨taken, seenTaken, seenPut, h⟩ := h
  obtain ⟨seen, h', hseen⟩ := h.refreshHead
  have hvisible : r.visible = seen - taken := h'.cachedLength_eq
  rw [← List.length_eq_zero_iff]
  omega

/-- The consumer looks at `head` again after it took all that it saw. -/
theorem visible_dequeueBurst (h : r.Sound) (max : Nat) :
    (r.dequeueBurst max).2.visible =
      if r.visible ≤ max then r.toList.length - r.visible else r.visible - max := by
  obtain ⟨taken, seenTaken, seenPut, h⟩ := h
  obtain ⟨seen, h', _⟩ := h.refreshHead
  have hvisible : r.visible = seen - taken := h'.cachedLength_eq
  have hle := h'.le_seenPut
  have hput := h'.seenPut_le
  obtain ⟨_, hpop⟩ := h'.popMany (n := min r.visible max) (by omega)
  obtain ⟨seen', hafter, hseen'⟩ := hpop.refreshHead
  have hleft : (r.dequeueBurst max).2.visible = seen' - (taken + min r.visible max) :=
    hafter.cachedLength_eq
  rw [List.length_drop] at hseen'
  rw [hleft]
  split <;> omega

theorem length_dequeueBurst (h : r.Sound) (max : Nat) :
    (r.dequeueBurst max).1.length = min r.visible max := by
  have hle := h.visible_le_length
  rw [(h.dequeueBurst max).1, List.length_take]
  omega

/-- A burst is only empty if the ring is. -/
theorem dequeueBurst_eq_nil (h : r.Sound) (hsize : 0 < size) :
    (r.dequeueBurst size).1 = [] ↔ r.toList = [] := by
  rw [← List.length_eq_zero_iff, h.length_dequeueBurst, ← h.visible_eq_zero]
  omega

theorem burstsLeft_eq_zero (h : r.Sound) (hsize : 0 < size) :
    r.burstsLeft size = 0 ↔ r.toList = [] := by
  have hle := h.visible_le_length
  rw [← List.length_eq_zero_iff, burstsLeft, Nat.add_eq_zero_iff, ceilDiv_eq_zero hsize,
    ceilDiv_eq_zero hsize]
  omega

/-- Each burst is one of those that were left. -/
theorem burstsLeft_dequeueBurst (h : r.Sound) (hsize : 0 < size) :
    (r.dequeueBurst size).2.burstsLeft size = r.burstsLeft size - 1 := by
  have hle := h.visible_le_length
  have hzero := h.visible_eq_zero
  have hempty := ceilDiv_eq_zero hsize (n := r.visible)
  have hbehind := ceilDiv_eq_zero hsize (n := r.toList.length - r.visible)
  have hlength : (r.dequeueBurst size).2.toList.length =
      r.toList.length - min r.visible size := by
    rw [(h.dequeueBurst size).2.2, List.length_drop]
  rw [← List.length_eq_zero_iff] at hzero
  rw [burstsLeft, burstsLeft, h.visible_dequeueBurst, hlength]
  split
  · next hfew =>
    have hone : r.visible ⌈/⌉ size ≤ 1 := by
      rw [ceilDiv_le_iff_le_mul hsize, Nat.mul_one]
      exact hfew
    rw [Nat.min_eq_left hfew, Nat.sub_self, zero_ceilDiv]
    omega
  · next hmany =>
    have hsame : r.toList.length - size - (r.visible - size) = r.toList.length - r.visible := by
      omega
    rw [Nat.min_eq_right (by omega), hsame, sub_ceilDiv hsize]
    omega

/-- Looking twice costs at most one burst more. -/
theorem burstsLeft_le (h : r.Sound) (hsize : 0 < size) :
    r.burstsLeft size ≤ r.length ⌈/⌉ size + 1 := by
  have hle := h.visible_le_length
  rw [burstsLeft, h.length_eq]
  simp only [Nat.ceilDiv_eq_add_pred_div]
  calc (r.visible + size - 1) / size + (r.toList.length - r.visible + size - 1) / size
      ≤ (r.visible + size - 1 + (r.toList.length - r.visible + size - 1)) / size :=
        Nat.div_add_div_le_add_div
    _ ≤ (r.toList.length + size - 1 + size) / size := Nat.div_le_div_right (by omega)
    _ = (r.toList.length + size - 1) / size + 1 := Nat.add_div_right _ hsize

end Sound

/-! ## A burst into an empty ring -/

theorem visible_eq (r : Ring α) :
    r.visible = if r.cachedLength = 0 then r.length else r.cachedLength := by
  rw [visible, refreshHead]
  split <;> rfl

/-- The producer leaves the consumer's view alone. -/
theorem cachedLength_enqueueBulk (r : Ring α) (burst : List α) :
    (r.enqueueBulk burst).2.2.cachedLength = r.cachedLength := by
  have hrefresh : (r.refreshTail burst.length).cachedLength = r.cachedLength := by
    rw [refreshTail]
    split <;> rfl
  have hpush : ∀ (items : List α) (r : Ring α),
      (items.foldl push r).cachedLength = r.cachedLength := by
    intro items
    induction items with
    | nil => exact fun _ => rfl
    | cons x items ih => exact fun r => ih (r.push x)
  cases burst with
  | nil => rfl
  | cons x burst =>
      simp only [enqueueBulk]
      split
      · exact hrefresh
      · exact (hpush _ _).trans hrefresh

/-- The consumer sees all of a burst that was put into an empty ring. -/
theorem Sound.visible_enqueueBulk (h : r.Sound) (hempty : r.toList = []) {burst : List α}
    (hsound : (r.enqueueBulk burst).2.2.Sound) :
    (r.enqueueBulk burst).2.2.visible = (r.enqueueBulk burst).2.2.toList.length := by
  have hzero : r.cachedLength = 0 := by
    obtain ⟨taken, seenTaken, seenPut, h⟩ := h
    have hle := h.seenPut_le
    rw [hempty, List.length_nil] at hle
    rw [h.cachedLength_eq]
    omega
  rw [visible_eq, cachedLength_enqueueBulk, if_pos hzero, hsound.length_eq]

end EtherRelay.Ring
