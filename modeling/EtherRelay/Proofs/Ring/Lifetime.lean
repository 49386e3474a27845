import EtherRelay.Proofs.Ring.Closing
import EtherRelay.Proofs.Ring.History

/-!
# What becomes of the items of a ring

A life of a ring is a history of it in which the halves may be given up as well, in either order
and with further calls on the half that is left. It keeps what was offered, what was handed back to
the producer, and what the ring itself dropped, next to what was delivered. The main statement says
that every item that was ever offered is in exactly one of these places: the ring drops nothing
before its last half goes, and then drops just what is queued, oldest first, so that no slot is read
twice and none is left behind.
-/

namespace EtherRelay.Ring

variable {α : Type}

/-! ## Halves -/

/-- The two halves of a ring. -/
inductive Half where
  | producer
  | consumer
  deriving Repr, DecidableEq

/-- The other half. -/
def Half.other : Half → Half
  | .producer => .consumer
  | .consumer => .producer

/-- Whether a half is left. -/
def has (r : Ring α) : Half → Bool
  | .producer => r.producerOpen
  | .consumer => r.consumerOpen

/-- Give up a half; the answer holds the items that the ring gives up. -/
def close (r : Ring α) : Half → List α × Ring α
  | .producer => r.closeProducer
  | .consumer => r.closeConsumer

/-- The ring without a half, before it gives up anything. -/
def without (r : Ring α) : Half → Ring α
  | .producer => { r with producerOpen := false }
  | .consumer => { r with consumerOpen := false }

/-- The slots that a ring without halves reads to give up what is queued, in order. -/
def sweep (r : Ring α) : List Access :=
  if r.producerOpen || r.consumerOpen then [] else r.reads r.length

/-! ## Lives -/

/-- The half that a call is made on. -/
def Call.half : Call α → Half
  | .enqueue _ | .enqueueBulk _ => .producer
  | .dequeueBurst _ | .length | .isEmpty => .consumer

/-- The items that a call offers to the ring. -/
def Call.offers : Call α → List α
  | .enqueue item => [item]
  | .enqueueBulk burst => burst
  | _ => []

/-- The items that stay with the caller. -/
def handsBack (r : Ring α) : Call α → List α
  | .enqueue item => (r.enqueue item).1.toList
  | .enqueueBulk burst => (r.enqueueBulk burst).1
  | _ => []

/-- What is done with a half of a ring. -/
inductive Event (α : Type) where
  | call (call : Call α)
  | close (half : Half)
  deriving Repr, DecidableEq

/-- The half that an event needs. -/
def Event.half : Event α → Half
  | .call c => c.half
  | .close half => half

/-- What became of a ring and of all that was offered to it. -/
structure Life (α : Type) extends History α where
  /-- The items that were offered, in order. -/
  offered : List α := []
  /-- The items that stayed with the producer, in order. -/
  handedBack : List α := []
  /-- The items that the ring dropped, in order. -/
  dropped : List α := []

namespace Life

/-- Let an event take place. -/
def perform (l : Life α) : Event α → Life α
  | .call call =>
    { l with
      toHistory := l.toHistory.step call
      offered := l.offered ++ call.offers
      handedBack := l.handedBack ++ l.ring.handsBack call }
  | .close half =>
    { l with
      ring := (l.ring.close half).2
      accesses := l.accesses ++ (l.ring.without half).sweep
      dropped := l.dropped ++ (l.ring.close half).1 }

/-- Let an event take place if the half is left that it needs: whoever gave a half up has no use of
it any more. -/
def step (l : Life α) (event : Event α) : Life α :=
  if l.ring.has event.half then l.perform event else l

/-- Let events take place in order. -/
def run (l : Life α) (events : List (Event α)) : Life α := events.foldl step l

/-- What a life shows if each item has one fate. -/
structure Accounts (l : Life α) : Prop where
  /-- An item that was offered was handed back, delivered or dropped, or is still queued. -/
  fates : (l.handedBack ++ (l.delivered ++ l.dropped ++ l.ring.toList)).Perm l.offered
  /-- The ring never changes the order of the items, and the producer gets them back in order. -/
  passed_sublist : (l.delivered ++ l.dropped ++ l.ring.toList).Sublist l.offered
  handedBack_sublist : l.handedBack.Sublist l.offered
  dropped_eq_nil : ∀ half, l.ring.has half = true → l.dropped = []
  /-- The last half to go leaves what is queued to the ring, which drops it, oldest first. -/
  dropped_close : ∀ half, l.ring.has half = true → l.ring.has half.other = false →
    (l.step (.close half)).dropped = l.ring.toList
  toList_eq_nil : (∀ half, l.ring.has half = false) → l.ring.toList = []
  /-- No slot was read before it was written or overwritten before it was read. -/
  filled_accesses : (Access.filled ∅ l.accesses).isSome
  /-- In the end each item that was written was read once. -/
  filled_eq_empty : (∀ half, l.ring.has half = false) → Access.filled ∅ l.accesses = some ∅

end Life

/-! ## What the halves have to do with the contents -/

variable {r : Ring α} {half : Half} {slots : Finset Nat}

theorem Alike.has_eq {r' : Ring α} (h : r.Alike r') (half : Half) : r'.has half = r.has half := by
  cases half with
  | producer => exact h.producerOpen_eq
  | consumer => exact h.consumerOpen_eq

theorem has_without : (r.without half).has half = false := by
  cases half <;> rfl

theorem has_other_without : (r.without half).has half.other = r.has half.other := by
  cases half <;> rfl

/-- Without the last half that was left there is none. -/
theorem has_without_of_last (hother : r.has half.other = false) (half' : Half) :
    (r.without half).has half' = false := by
  have hboth : half' = half ∨ half' = half.other := by
    cases half' <;> cases half <;> simp [Half.other]
  rcases hboth with rfl | rfl
  · exact has_without
  · exact has_other_without.trans hother

@[simp] theorem toList_without : (r.without half).toList = r.toList := by
  cases half <;> rfl

@[simp] theorem capacity_without : (r.without half).capacity = r.capacity := by
  cases half <;> rfl

theorem FilledAt.without (h : r.FilledAt slots) (half : Half) :
    (r.without half).FilledAt slots := by
  cases half with
  | producer => exact h
  | consumer => exact h

theorem Sound.without (h : r.Sound) (half : Half) : (r.without half).Sound := by
  cases half with
  | producer => exact h.closed false r.consumerOpen
  | consumer => exact h.closed r.producerOpen false

theorem open_iff : (r.producerOpen || r.consumerOpen) = true ↔ ∃ half, r.has half = true := by
  rw [Bool.or_eq_true]
  constructor
  · rintro (h | h)
    · exact ⟨.producer, h⟩
    · exact ⟨.consumer, h⟩
  · rintro ⟨_ | _, h⟩
    · exact .inl h
    · exact .inr h

/-- A half can be given up once. -/
theorem close_eq_release (h : r.has half = true) : r.close half = (r.without half).release := by
  cases half with
  | producer => exact if_pos h
  | consumer => exact if_pos h

/-- A ring with a half left gives up nothing. -/
theorem close_of_has_other (h : r.has half = true) (hother : r.has half.other = true) :
    r.close half = ([], r.without half) ∧ (r.without half).sweep = [] := by
  have hopen : ((r.without half).producerOpen || (r.without half).consumerOpen) = true :=
    open_iff.mpr ⟨half.other, has_other_without.trans hother⟩
  rw [close_eq_release h, release, if_pos hopen, sweep, if_pos hopen]
  exact ⟨rfl, rfl⟩

/-- A ring without halves takes out all that is queued. -/
theorem close_of_last (h : r.has half = true) (hother : r.has half.other = false) :
    r.close half = (r.without half).popMany (r.without half).length ∧
      (r.without half).sweep = (r.without half).reads (r.without half).length := by
  have hclosed : ¬ ((r.without half).producerOpen || (r.without half).consumerOpen) = true := by
    rw [open_iff]
    rintro ⟨half', h'⟩
    rw [has_without_of_last hother] at h'
    cases h'
  rw [close_eq_release h, release, if_neg hclosed, sweep, if_neg hclosed]
  exact ⟨rfl, rfl⟩

/-! ## The sweep -/

/-- The consumer's copy of `head` plays no part in the slots that are read. -/
theorem reads_cachedHead (r : Ring α) (n : Nat) (seen : UInt64) :
    { r with cachedHead := seen }.reads n = r.reads n := by
  induction n generalizing r with
  | zero => rfl
  | succ n ih => exact congrArg (Access.read (r.slot r.tail) :: ·) (ih r.pop.2)

/-- Every slot is one of those that begin with the slot of a number. -/
theorem exists_add_mod_eq (t : Nat) {i c : Nat} (hi : i < c) : ∃ j < c, (t + j) % c = i := by
  have hc : 0 < c := Nat.lt_of_le_of_lt (Nat.zero_le i) hi
  have ht := Nat.mod_lt t hc
  have hsplit := Nat.div_add_mod t c
  refine ⟨(i + (c - t % c)) % c, Nat.mod_lt _ hc, ?_⟩
  have hsum : t + (i + (c - t % c)) = i + c * (t / c + 1) := by
    rw [Nat.mul_add, Nat.mul_one]
    omega
  rw [Nat.add_mod_mod, hsum, Nat.add_mul_mod_self_left, Nat.mod_eq_of_lt hi]

/-- A ring that holds no item has no filled slot. -/
theorem Holds.filledAt_nil {taken seenTaken seenPut : Nat}
    (h : r.Holds [] taken seenTaken seenPut) (hf : r.FilledAt slots) : slots = ∅ := by
  refine Finset.eq_empty_of_forall_notMem fun i hi => ?_
  rw [hf] at hi
  by_cases hlt : i < r.capacity
  · obtain ⟨j, hj, rfl⟩ := exists_add_mod_eq taken hlt
    rw [h.slots_eq j hj] at hi
    simp at hi
  · rw [Array.getElem?_eq_none (Nat.le_of_not_lt hlt)] at hi
    simp at hi

/-- The sweep reads exactly the slots that hold an item, each of them once. -/
theorem Sound.filled_sweep (h : r.Sound) (hf : r.FilledAt slots) :
    Access.filled slots (r.reads r.length) = some ∅ := by
  obtain ⟨taken, seenTaken, hseen⟩ := h.holds_head
  have hn : taken + r.length ≤ taken + r.toList.length := by rw [h.length_eq]
  obtain ⟨slots', hslots', hf'⟩ := hseen.filled_reads hf hn
  obtain ⟨-, hrest⟩ := hseen.popMany hn
  rw [h.length_eq, List.drop_length] at hrest
  rw [h.length_eq] at hf'
  rw [reads_cachedHead, hrest.filledAt_nil hf'] at hslots'
  exact hslots'

/-! ## What events keep -/

namespace Life

variable {l : Life α} {capacity : Nat}

/-- A life of a ring that has a half left. -/
structure Lasts (l : Life α) (capacity : Nat) : Prop where
  kept : l.toHistory.Kept capacity
  isOpen : ∃ half, l.ring.has half = true
  dropped_eq : l.dropped = []

/-- A life of a ring that is gone. -/
structure Ended (l : Life α) : Prop where
  closed : ∀ half, l.ring.has half = false
  toList_eq : l.ring.toList = []
  accepted_eq : l.delivered ++ l.dropped = l.accepted
  filled_eq : Access.filled ∅ l.accesses = some ∅

/-- What was offered was either accepted or handed back. -/
structure Parted (l : Life α) : Prop where
  perm : (l.handedBack ++ l.accepted).Perm l.offered
  handedBack_sublist : l.handedBack.Sublist l.offered
  accepted_sublist : l.accepted.Sublist l.offered

end Life

namespace History

theorem ring_enqueue (h : History α) (item : α) :
    (h.step (.enqueue item)).ring = (h.ring.enqueue item).2 := by
  simp only [step]
  split
  · next hring => rw [hring]
  · next hring => rw [hring]

theorem ring_enqueueBulk (h : History α) (burst : List α) :
    (h.step (.enqueueBulk burst)).ring = (h.ring.enqueueBulk burst).2.2 := by
  simp only [step]
  split
  · next hring => rw [hring]
  · next hring => rw [hring]

theorem alike_step (h : History α) (call : Call α) : h.ring.Alike (h.step call).ring := by
  cases call with
  | enqueue item =>
    rw [ring_enqueue]
    exact Alike.enqueue h.ring item
  | enqueueBulk burst =>
    rw [ring_enqueueBulk]
    exact Alike.enqueueBulk h.ring burst
  | dequeueBurst max => exact Alike.dequeueBurst h.ring max
  | length => exact Alike.refl h.ring
  | isEmpty => exact Alike.refl h.ring

/-- A call is accepted whole, or all that it offers stays with the caller. -/
theorem step_accepts (h : History α) (call : Call α) :
    (h.ring.handsBack call = [] ∧ (h.step call).accepted = h.accepted ++ call.offers) ∨
      (h.ring.handsBack call = call.offers ∧ (h.step call).accepted = h.accepted) := by
  cases call with
  | enqueue item =>
    by_cases hfull : (h.ring.refreshTail 1).cachedFree = 0
    · right
      simp only [handsBack, step, enqueue, if_pos hfull]
      exact ⟨rfl, trivial⟩
    · left
      simp only [handsBack, step, enqueue, if_neg hfull]
      exact ⟨rfl, rfl⟩
  | enqueueBulk burst =>
    cases burst with
    | nil => exact .inl ⟨rfl, rfl⟩
    | cons x burst =>
      by_cases hover :
          (h.ring.refreshTail (x :: burst).length).cachedFree < (x :: burst).length
      · right
        simp only [handsBack, step, enqueueBulk, if_pos hover]
        exact ⟨rfl, trivial⟩
      · left
        simp only [handsBack, step, enqueueBulk, if_neg hover]
        exact ⟨trivial, rfl⟩
  | dequeueBurst max => exact .inl ⟨rfl, (List.append_nil _).symm⟩
  | length => exact .inl ⟨rfl, (List.append_nil _).symm⟩
  | isEmpty => exact .inl ⟨rfl, (List.append_nil _).symm⟩

end History

namespace Life

variable {l : Life α} {capacity : Nat}

theorem Parted.perform (h : l.Parted) (event : Event α) : (l.perform event).Parted := by
  cases event with
  | close half => exact ⟨h.perm, h.handedBack_sublist, h.accepted_sublist⟩
  | call call =>
    have hinitial := List.sublist_append_left l.offered call.offers
    rcases l.toHistory.step_accepts call with ⟨hback, haccepted⟩ | ⟨hback, haccepted⟩
    · refine ⟨?_, ?_, ?_⟩
      · simp only [Life.perform, hback, haccepted, List.append_nil, ← List.append_assoc]
        exact h.perm.append_right _
      · simp only [Life.perform, hback, List.append_nil]
        exact h.handedBack_sublist.trans hinitial
      · simp only [Life.perform, haccepted]
        exact h.accepted_sublist.append (.refl _)
    · refine ⟨?_, ?_, ?_⟩
      · simp only [Life.perform, hback, haccepted, List.append_assoc]
        have hswap : (call.offers ++ l.accepted).Perm (l.accepted ++ call.offers) :=
          List.perm_append_comm
        refine (hswap.append_left l.handedBack).trans ?_
        rw [← List.append_assoc]
        exact h.perm.append_right _
      · simp only [Life.perform, hback]
        exact h.handedBack_sublist.append (.refl _)
      · simp only [Life.perform, haccepted]
        exact h.accepted_sublist.trans hinitial

theorem Parted.run (h : l.Parted) (events : List (Event α)) : (l.run events).Parted := by
  induction events generalizing l with
  | nil => exact h
  | cons event events ih =>
    refine ih (l := l.step event) ?_
    rw [step]
    split
    · exact h.perform event
    · exact h

theorem Lasts.call (h : l.Lasts capacity) (call : Call α) :
    (l.perform (.call call)).Lasts capacity where
  kept := History.kept_step h.kept call
  isOpen := by
    obtain ⟨half, hhalf⟩ := h.isOpen
    exact ⟨half, ((l.toHistory.alike_step call).has_eq half).trans hhalf⟩
  dropped_eq := h.dropped_eq

/-- The first half to go takes nothing with it. -/
theorem Lasts.close {half : Half} (h : l.Lasts capacity) (hhalf : l.ring.has half = true)
    (hother : l.ring.has half.other = true) : (l.perform (.close half)).Lasts capacity := by
  obtain ⟨hclose, hsweep⟩ := close_of_has_other hhalf hother
  have hperform : l.perform (.close half) = { l with ring := l.ring.without half } := by
    simp only [perform, hclose, hsweep, List.append_nil]
  rw [hperform]
  refine ⟨⟨h.kept.sound.without half, ?_, ?_, ?_⟩, ⟨half.other, ?_⟩, h.dropped_eq⟩
  · exact capacity_without.trans h.kept.capacity_eq
  · rw [toList_without]
    exact h.kept.delivered_append
  · obtain ⟨slots, hslots, hf⟩ := h.kept.filled
    exact ⟨slots, hslots, hf.without half⟩
  · exact has_other_without.trans hother

/-- With the last half the ring goes, and drops what is queued. -/
theorem Lasts.close_last {half : Half} (h : l.Lasts capacity) (hhalf : l.ring.has half = true)
    (hother : l.ring.has half.other = false) :
    (l.perform (.close half)).dropped = l.ring.toList ∧ (l.perform (.close half)).Ended := by
  obtain ⟨hclose, hsweep⟩ := close_of_last hhalf hother
  have hsound := h.kept.sound.without half
  obtain ⟨hitems, hempty⟩ := hsound.popMany_length
  have halike := Alike.popMany (l.ring.without half) (l.ring.without half).length
  have hdropped : (l.perform (.close half)).dropped = l.ring.toList := by
    simp only [perform, hclose, hitems, h.dropped_eq, List.nil_append, toList_without]
  refine ⟨hdropped, ?_, ?_, ?_, ?_⟩
  · intro half'
    have hhas : (l.perform (.close half)).ring.has half' = (l.ring.without half).has half' := by
      simp only [perform, hclose]
      exact halike.has_eq half'
    exact hhas.trans (has_without_of_last hother half')
  · simp only [perform, hclose]
    exact hempty
  · rw [hdropped]
    exact h.kept.delivered_append
  · obtain ⟨slots, hslots, hf⟩ := h.kept.filled
    simp only [perform, hsweep, Access.filled_append, hslots, Option.bind_some]
    exact hsound.filled_sweep (hf.without half)

/-- A ring either has a half left, or it is gone and nothing happens to it any more. -/
theorem Lasts.step (h : l.Lasts capacity) (event : Event α) :
    (l.step event).Lasts capacity ∨ (l.step event).Ended := by
  rw [Life.step]
  split
  · next hhalf =>
    cases event with
    | call c => exact .inl (h.call c)
    | close half =>
      cases hother : l.ring.has half.other with
      | true => exact .inl (h.close hhalf hother)
      | false => exact .inr (h.close_last hhalf hother).2
  · exact .inl h

theorem Ended.step (h : l.Ended) (event : Event α) : l.step event = l :=
  if_neg (by rw [h.closed]; exact Bool.false_ne_true)

theorem lasts_or_ended_run (h : l.Lasts capacity ∨ l.Ended) (events : List (Event α)) :
    (l.run events).Lasts capacity ∨ (l.run events).Ended := by
  induction events generalizing l with
  | nil => exact h
  | cons event events ih =>
    refine ih (l := l.step event) ?_
    rcases h with h | h
    · exact h.step event
    · rw [h.step]
      exact .inr h

theorem lasts_fresh {name : String} (hr : create name capacity = .ok r) :
    ({ ring := r } : Life α).Lasts capacity where
  kept := History.kept_fresh hr
  isOpen := ⟨.producer, (create_open hr).1⟩
  dropped_eq := rfl

/-- As long as a half is left, the ring is not gone. -/
theorem lasts_of_has {name : String} (hr : create name capacity = .ok r)
    {events : List (Event α)} {half : Half}
    (hhalf : (({ ring := r } : Life α).run events).ring.has half = true) :
    (({ ring := r } : Life α).run events).Lasts capacity := by
  rcases lasts_or_ended_run (.inl (lasts_fresh hr)) events with h | h
  · exact h
  · rw [h.closed] at hhalf
    cases hhalf

theorem Lasts.room_eq (h : l.Lasts capacity) (hcap : capacity < UInt64.size) :
    l.ring.room = capacity := by
  rw [room_eq_capacity (h.kept.capacity_eq ▸ hcap), h.kept.capacity_eq]

theorem parted_fresh (r : Ring α) : ({ ring := r } : Life α).Parted :=
  ⟨.refl _, .refl _, .refl _⟩

/-- Accepted items were delivered or dropped, or are still queued, in this order. -/
theorem passed_eq (h : l.Lasts capacity ∨ l.Ended) :
    l.delivered ++ l.dropped ++ l.ring.toList = l.accepted := by
  rcases h with h | h
  · rw [h.dropped_eq, List.append_nil]
    exact h.kept.delivered_append
  · rw [h.toList_eq, List.append_nil]
    exact h.accepted_eq

theorem Parted.accounts (hp : l.Parted) (h : l.Lasts capacity ∨ l.Ended) : l.Accounts := by
  have hpassed := passed_eq h
  refine ⟨hpassed ▸ hp.perm, hpassed ▸ hp.accepted_sublist, hp.handedBack_sublist, ?_, ?_, ?_, ?_,
    ?_⟩
  · intro half hhalf
    rcases h with h | h
    · exact h.dropped_eq
    · rw [h.closed] at hhalf
      cases hhalf
  · intro half hhalf hother
    rcases h with h | h
    · have hstep : l.step (.close half) = l.perform (.close half) := if_pos hhalf
      rw [hstep]
      exact (h.close_last hhalf hother).1
    · rw [h.closed] at hhalf
      cases hhalf
  · intro hclosed
    rcases h with h | h
    · obtain ⟨half, hhalf⟩ := h.isOpen
      rw [hclosed] at hhalf
      cases hhalf
    · exact h.toList_eq
  · rcases h with h | h
    · obtain ⟨slots, hslots, -⟩ := h.kept.filled
      rw [hslots]
      rfl
    · rw [h.filled_eq]
      rfl
  · intro hclosed
    rcases h with h | h
    · obtain ⟨half, hhalf⟩ := h.isOpen
      rw [hclosed] at hhalf
      cases hhalf
    · exact h.filled_eq

end Life

/-- Every item has one fate: for every capacity that is a power of two a ring can be made, and
whatever is done with its halves, until both are given up and after that, each item that was offered
was handed back, delivered once or dropped once, or is still queued. The ring drops nothing before
its last half goes; then it drops what is queued, oldest first, and leaves no slot behind. -/
theorem life_accounts (name : String) (capacity : UInt64)
    (hpow : isPowerOfTwo capacity.toNat = true) :
    ∃ r : Ring α, create name capacity.toNat = .ok r ∧
      ∀ events : List (Event α), (({ ring := r } : Life α).run events).Accounts := by
  obtain ⟨r, hr⟩ : ∃ r : Ring α, create name capacity.toNat = .ok r := create_eq_ok hpow
  refine ⟨r, hr, ?_⟩
  intro events
  have hlasts := Life.lasts_or_ended_run (.inl (Life.lasts_fresh hr)) events
  exact ((Life.parted_fresh r).run events).accounts hlasts

/-- The consumer leaves first, with two items queued that wrapped around, and the producer goes on
offering in vain. -/
def parting : List (Event Nat) :=
  [.call (.enqueueBulk [1, 2]), .call (.enqueue 3), .call (.dequeueBurst 1), .call (.enqueue 4),
    .close .consumer, .call (.enqueueBulk [5, 6]), .call (.dequeueBurst 2), .close .producer]

theorem life_accounts_parting :
    isPowerOfTwo (2 : UInt64).toNat = true ∧
      ∃ r : Ring Nat, create "pair" (2 : UInt64).toNat = .ok r ∧
        (({ ring := r } : Life Nat).run parting).Accounts ∧
        (({ ring := r } : Life Nat).run parting).handedBack = [3, 5, 6] ∧
        (({ ring := r } : Life Nat).run parting).delivered = [1] ∧
        (({ ring := r } : Life Nat).run parting).dropped = [2, 4] := by
  have hpow : isPowerOfTwo (2 : UInt64).toNat = true := by decide
  obtain ⟨r, hr, h⟩ := life_accounts (α := Nat) "pair" 2 hpow
  refine ⟨hpow, r, hr, h parting, ?_⟩
  obtain rfl : { name := "pair", slots := #[none, none] } = r := Except.ok.inj hr
  decide

end EtherRelay.Ring
