import EtherRelay.Proofs.Ring.Draining
import EtherRelay.Proofs.Ring.Lifetime

/-!
# What a consumer is served

The consumer looks at `head` only when its copy shows nothing, so where a burst ends depends on all
calls before. The main statement says what this comes to in every state that a ring can come to: a
burst is the front of the queue, as far as the copy shows it or, if the copy shows nothing, as far
as it goes. An empty burst means an empty ring, two bursts in a row miss nothing that was queued
before the first one, and the number of bursts that empty the ring is known in advance.
-/

namespace EtherRelay.Ring

variable {α : Type} {r : Ring α} {max : Nat}

/-- Asking for bursts of at most `max` items until one is empty: after that many bursts that were not
empty the items taken out stand behind those that were there before. -/
inductive Emptied (max : Nat) : Ring α → List α → Nat → Ring α → List α → Prop
  | stop {r : Ring α} {out : List α} (hzero : (r.dequeueInto out max).1 = 0) :
      Emptied max r out 0 (r.dequeueInto out max).2.2 (r.dequeueInto out max).2.1
  | next {r r' : Ring α} {out out' : List α} {bursts : Nat}
      (hpos : (r.dequeueInto out max).1 ≠ 0)
      (rest : Emptied max (r.dequeueInto out max).2.2 (r.dequeueInto out max).2.1 bursts r' out') :
      Emptied max r out (bursts + 1) r' out'

/-! ## One burst -/

theorem popInto_eq (r : Ring α) (out : List α) (n : Nat) :
    r.popInto out n = (out ++ (r.popMany n).1, (r.popMany n).2) := by
  induction n generalizing r out with
  | zero => rw [popInto, popMany, List.append_nil]
  | succ n ih =>
    rw [popInto, popMany]
    dsimp only
    rw [ih, List.append_assoc]

/-- A burst put behind other items is a burst. -/
theorem dequeueInto_eq (r : Ring α) (out : List α) (max : Nat) :
    r.dequeueInto out max =
      (min r.visible max, out ++ (r.dequeueBurst max).1, (r.dequeueBurst max).2) := by
  simp only [dequeueInto, popInto_eq]
  rfl

/-- The copy of `head` shows items of the queue only. -/
theorem Sound.cachedLength_le (h : r.Sound) : r.cachedLength ≤ r.toList.length := by
  obtain ⟨taken, seenTaken, seenPut, h⟩ := h
  have := h.seenPut_le
  rw [h.cachedLength_eq]
  omega

/-- What a consumer sees: what its copy shows, or all there is. -/
theorem Sound.visible_eq (h : r.Sound) :
    r.visible = if r.cachedLength = 0 then r.toList.length else r.cachedLength := by
  rw [Ring.visible_eq, h.length_eq]

/-- What is left of the view behind a burst. -/
theorem Sound.cachedLength_dequeueBurst (h : r.Sound) (max : Nat) :
    (r.dequeueBurst max).2.cachedLength = r.visible - min r.visible max := by
  obtain ⟨taken, seenTaken, seenPut, h⟩ := h
  obtain ⟨seen, h', -⟩ := h.refreshHead
  have hvisible : r.visible = seen - taken := h'.cachedLength_eq
  have := h'.le_seenPut
  obtain ⟨-, hpop⟩ := h'.popMany (n := min r.visible max) (by omega)
  have hleft : (r.dequeueBurst max).2.cachedLength = seen - (taken + min r.visible max) :=
    hpop.cachedLength_eq
  omega

/-! ## Burst after burst -/

theorem Sound.burstsLeft_eq (h : r.Sound) (max : Nat) :
    r.burstsLeft max = r.cachedLength ⌈/⌉ max + (r.toList.length - r.cachedLength) ⌈/⌉ max := by
  rw [burstsLeft, h.visible_eq]
  split
  · next hzero => rw [hzero, Nat.sub_self, Nat.sub_zero, Nat.add_comm]
  · rfl

/-- The consumer gets an empty burst in the end. -/
theorem Sound.emptied (h : r.Sound) (hmax : 0 < max) (out : List α) :
    ∃ r', Emptied max r out (r.burstsLeft max) r' (out ++ r.toList) := by
  induction hn : r.burstsLeft max generalizing r out with
  | zero =>
    have hempty := (h.burstsLeft_eq_zero hmax).mp hn
    have hvisible := h.visible_eq_zero.mpr hempty
    have hnone := (h.dequeueBurst_eq_nil hmax).mpr hempty
    have hzero : (r.dequeueInto out max).1 = 0 := by
      rw [dequeueInto_eq, hvisible, Nat.zero_min]
    have hstop := Emptied.stop hzero
    rw [dequeueInto_eq, hnone, List.append_nil] at hstop
    rw [hempty, List.append_nil]
    exact ⟨_, hstop⟩
  | succ n ih =>
    obtain ⟨hitems, hsound, hrest⟩ := h.dequeueBurst max
    have hleft : (r.dequeueBurst max).2.burstsLeft max = n := by
      rw [h.burstsLeft_dequeueBurst hmax, hn, Nat.add_sub_cancel]
    have hpos : (r.dequeueInto out max).1 ≠ 0 := by
      intro hzero
      have hnot : r.burstsLeft max ≠ 0 := by omega
      rw [Ne, h.burstsLeft_eq_zero hmax, ← h.visible_eq_zero] at hnot
      rw [dequeueInto_eq] at hzero
      omega
    obtain ⟨r', hemptied⟩ := ih hsound (out ++ (r.dequeueBurst max).1) hleft
    refine ⟨r', .next hpos ?_⟩
    rw [dequeueInto_eq]
    rw [hrest, hitems, List.append_assoc, List.take_append_drop] at hemptied
    rw [hitems]
    exact hemptied

/-- Only so many bursts empty a ring, and they take out what was queued. -/
theorem Emptied.eq {r' : Ring α} {out out' : List α} {bursts : Nat}
    (he : Emptied max r out bursts r' out') (h : r.Sound) (hmax : 0 < max) :
    bursts = r.burstsLeft max ∧ out' = out ++ r.toList ∧ r'.toList = [] := by
  induction he with
  | @stop r out hzero =>
    obtain ⟨hitems, -, hrest⟩ := h.dequeueBurst max
    rw [dequeueInto_eq] at hzero
    have hvisible : r.visible = 0 := by
      have hmin : min r.visible max = 0 := hzero
      omega
    have hempty := h.visible_eq_zero.mp hvisible
    rw [dequeueInto_eq, hitems, hrest, hempty, List.take_nil, List.drop_nil]
    exact ⟨((h.burstsLeft_eq_zero hmax).mpr hempty).symm, rfl, rfl⟩
  | @next r r' out out' bursts hpos _ ih =>
    obtain ⟨hitems, hsound, hrest⟩ := h.dequeueBurst max
    rw [dequeueInto_eq] at ih hpos
    obtain ⟨hbursts, hout, hgone⟩ := ih hsound
    have hmin : min r.visible max ≠ 0 := hpos
    have hsome : r.burstsLeft max ≠ 0 := by
      rw [Ne, h.burstsLeft_eq_zero hmax, ← h.visible_eq_zero]
      omega
    refine ⟨?_, ?_, hgone⟩
    · have hleft : bursts = r.burstsLeft max - 1 :=
        hbursts.trans (h.burstsLeft_dequeueBurst hmax)
      omega
    · have happend : out' = out ++ (r.dequeueBurst max).1 ++ (r.dequeueBurst max).2.toList := hout
      rw [happend, hitems, hrest, List.append_assoc, List.take_append_drop]

/-- What a consumer of this ring is served. -/
structure Serves (r : Ring α) : Prop where
  cachedLength_le : r.cachedLength ≤ r.toList.length
  /-- A burst is the front of the queue, as far as the copy of `head` shows it, or of the whole queue
  if the copy shows nothing. What was there before stays in front of it. -/
  dequeueInto_eq : ∀ out max,
    let n := min max (if r.cachedLength = 0 then r.toList.length else r.cachedLength)
    r.dequeueInto out max = (n, out ++ r.toList.take n, (r.dequeueBurst max).2) ∧
      (r.dequeueBurst max).1 = r.toList.take n ∧ (r.dequeueBurst max).2.toList = r.toList.drop n
  /-- The answer is the number of items that were put behind the others. -/
  length_dequeueInto : ∀ out max,
    (r.dequeueInto out max).2.1.length = out.length + (r.dequeueInto out max).1
  dequeueInto_eq_zero : ∀ out max, (r.dequeueInto out max).1 = 0 ↔ max = 0 ∨ r.toList = []
  /-- Asking again and again comes to an end after so many bursts, with all items taken out. -/
  emptied : ∀ out max, 0 < max → ∃ r', r'.toList = [] ∧
    Emptied max r out (r.cachedLength ⌈/⌉ max + (r.toList.length - r.cachedLength) ⌈/⌉ max) r'
      (out ++ r.toList)
  /-- It comes to no other end. -/
  emptied_only : ∀ out max bursts r' out', 0 < max → Emptied max r out bursts r' out' →
    bursts = r.cachedLength ⌈/⌉ max + (r.toList.length - r.cachedLength) ⌈/⌉ max ∧
      out' = out ++ r.toList ∧ r'.toList = []

theorem Sound.serves (h : r.Sound) : r.Serves where
  cachedLength_le := h.cachedLength_le
  dequeueInto_eq out max := by
    obtain ⟨hitems, -, hrest⟩ := h.dequeueBurst max
    rw [Nat.min_comm r.visible max, h.visible_eq] at hitems hrest
    rw [Ring.dequeueInto_eq, Nat.min_comm r.visible max, h.visible_eq, hitems]
    exact ⟨rfl, rfl, hrest⟩
  length_dequeueInto out max := by
    rw [Ring.dequeueInto_eq, List.length_append, h.length_dequeueBurst]
  dequeueInto_eq_zero out max := by
    rw [Ring.dequeueInto_eq, ← h.visible_eq_zero]
    change min r.visible max = 0 ↔ max = 0 ∨ r.visible = 0
    omega
  emptied out max hmax := by
    obtain ⟨r', hr'⟩ := h.emptied hmax out
    obtain ⟨-, -, hgone⟩ := hr'.eq h hmax
    rw [h.burstsLeft_eq] at hr'
    exact ⟨r', hgone, hr'⟩
  emptied_only out max bursts r' out' hmax he := by
    rw [← h.burstsLeft_eq]
    exact he.eq h hmax

/-! ## Two bursts in a row -/

theorem cachedLength_enqueue (r : Ring α) (item : α) :
    (r.enqueue item).2.cachedLength = r.cachedLength := by
  have hrefresh : (r.refreshTail 1).cachedLength = r.cachedLength := by
    rw [refreshTail]
    split <;> rfl
  rw [enqueue]
  split
  · exact hrefresh
  · exact hrefresh

namespace Life

variable {l : Life α} {capacity : Nat}

theorem accepted_step (l : Life α) (event : Event α) : l.accepted <+: (l.step event).accepted := by
  rw [Life.step]
  split
  · cases event with
    | close half => exact List.prefix_refl _
    | call c =>
      rcases l.toHistory.step_accepts c with ⟨-, haccepted⟩ | ⟨-, haccepted⟩
      · exact ⟨c.offers, haccepted.symm⟩
      · exact ⟨[], by rw [List.append_nil]; exact haccepted.symm⟩
  · exact List.prefix_refl _

/-- The producer leaves the consumer's view and its half alone. -/
theorem Lasts.step_producer (h : l.Lasts capacity) (hhalf : l.ring.has .consumer = true)
    {event : Event α} (hevent : event.half = .producer) :
    (l.step event).Lasts capacity ∧ (l.step event).ring.has .consumer = true ∧
      (l.step event).ring.cachedLength = l.ring.cachedLength := by
  rw [Life.step]
  split
  · next hproducer =>
    cases event with
    | close half =>
      obtain rfl : half = .producer := hevent
      obtain ⟨hclose, -⟩ := close_of_has_other hproducer hhalf
      have hring : (l.perform (.close .producer)).ring = l.ring.without .producer :=
        congrArg Prod.snd hclose
      refine ⟨h.close hproducer hhalf, ?_, ?_⟩
      · rw [hring]
        exact hhalf
      · rw [hring]
        rfl
    | call c =>
      refine ⟨h.call c, ((l.toHistory.alike_step c).has_eq .consumer).trans hhalf, ?_⟩
      cases c with
      | enqueue item =>
        exact (congrArg cachedLength (l.toHistory.ring_enqueue item)).trans
          (cachedLength_enqueue l.ring item)
      | enqueueBulk burst =>
        exact (congrArg cachedLength (l.toHistory.ring_enqueueBulk burst)).trans
          (cachedLength_enqueueBulk l.ring burst)
      | dequeueBurst max => cases hevent
      | length => cases hevent
      | isEmpty => cases hevent
  · exact ⟨h, hhalf, rfl⟩

/-- What a consumer has seen of the queue while the producer goes on. -/
theorem Lasts.run_producer (h : l.Lasts capacity) (hhalf : l.ring.has .consumer = true)
    {events : List (Event α)} (hevents : ∀ e ∈ events, e.half = .producer) :
    (l.run events).Lasts capacity ∧ (l.run events).ring.has .consumer = true ∧
      (l.run events).ring.cachedLength = l.ring.cachedLength ∧
      l.accepted <+: (l.run events).accepted := by
  induction events generalizing l with
  | nil => exact ⟨h, hhalf, rfl, List.prefix_refl _⟩
  | cons event events ih =>
    obtain ⟨hevent, hrest⟩ := List.forall_mem_cons.mp hevents
    obtain ⟨hstep, hhalf', hview⟩ := h.step_producer hhalf hevent
    obtain ⟨hlasts, hleft, hview', haccepted⟩ := ih hstep hhalf' hrest
    exact ⟨hlasts, hleft, hview'.trans hview, (l.accepted_step event).trans haccepted⟩

theorem Lasts.visible_le (h : l.Lasts capacity) : l.ring.visible ≤ capacity := by
  have hle := h.kept.sound.visible_le_length
  have hroom := h.kept.sound.length_le_room
  have hcap := l.ring.room_le_capacity
  rw [h.kept.capacity_eq] at hcap
  omega

/-- A burst without a bound takes out all that the consumer sees. -/
theorem Lasts.step_dequeue (h : l.Lasts capacity) (hhalf : l.ring.has .consumer = true) {max : Nat}
    (hmax : capacity ≤ max) :
    (l.step (.call (.dequeueBurst max))).Lasts capacity ∧
      (l.step (.call (.dequeueBurst max))).ring.has .consumer = true ∧
      (l.step (.call (.dequeueBurst max))).ring.cachedLength = 0 ∧
      (l.ring.cachedLength = 0 → (l.step (.call (.dequeueBurst max))).delivered = l.accepted) := by
  have hstep : l.step (.call (.dequeueBurst max)) = l.perform (.call (.dequeueBurst max)) :=
    if_pos hhalf
  have hall : min l.ring.visible max = l.ring.visible :=
    Nat.min_eq_left (h.visible_le.trans hmax)
  rw [hstep]
  refine ⟨h.call _, (Alike.dequeueBurst l.ring max).has_eq .consumer |>.trans hhalf, ?_, ?_⟩
  · have hleft := h.kept.sound.cachedLength_dequeueBurst max
    rw [hall, Nat.sub_self] at hleft
    exact hleft
  · intro hview
    have hitems := (h.kept.sound.dequeueBurst max).1
    rw [hall, h.kept.sound.visible_eq, if_pos hview, List.take_length] at hitems
    have hdelivered : (l.perform (.call (.dequeueBurst max))).delivered =
        l.delivered ++ (l.ring.dequeueBurst max).1 := rfl
    rw [hdelivered, hitems]
    exact h.kept.delivered_append

/-- Whatever the producer does between them, two bursts without a bound deliver everything that was
accepted before the first one. -/
theorem Lasts.delivered_twice (h : l.Lasts capacity) (hhalf : l.ring.has .consumer = true)
    {max max' : Nat} (hmax : capacity ≤ max) (hmax' : capacity ≤ max')
    {between : List (Event α)} (hbetween : ∀ e ∈ between, e.half = .producer) :
    l.accepted <+: (((l.step (.call (.dequeueBurst max))).run between).step
      (.call (.dequeueBurst max'))).delivered := by
  obtain ⟨hfirst, hfirst', hview, -⟩ := h.step_dequeue hhalf hmax
  obtain ⟨hlasts, hleft, hview', haccepted⟩ := hfirst.run_producer hfirst' hbetween
  obtain ⟨-, -, -, hdelivered⟩ := hlasts.step_dequeue hleft hmax'
  rw [hdelivered (hview'.trans hview)]
  exact (l.accepted_step _).trans haccepted

end Life

/-- A stale view delays items but never hides them, in every state that a ring can come to while the
consumer's half is left: what a consumer is served is told by its copy of `head` and the queue alone,
and two bursts in a row that may be as large as the ring miss nothing that was accepted before the
first one. -/
theorem life_serves (name : String) (capacity : UInt64)
    (hpow : isPowerOfTwo capacity.toNat = true) :
    ∃ r : Ring α, create name capacity.toNat = .ok r ∧
      ∀ events : List (Event α),
        let l := ({ ring := r } : Life α).run events
        l.ring.has .consumer = true →
          l.delivered ++ l.ring.toList = l.accepted ∧ l.ring.Serves ∧
          ∀ (max max' : Nat) (between : List (Event α)), capacity.toNat ≤ max →
            capacity.toNat ≤ max' → (∀ e ∈ between, e.half = .producer) →
            l.accepted <+: (((l.step (.call (.dequeueBurst max))).run between).step
              (.call (.dequeueBurst max'))).delivered := by
  obtain ⟨r, hr⟩ : ∃ r : Ring α, create name capacity.toNat = .ok r := create_eq_ok hpow
  refine ⟨r, hr, ?_⟩
  intro events l hhalf
  have hlasts := Life.lasts_of_has hr hhalf
  refine ⟨hlasts.kept.delivered_append, hlasts.kept.sound.serves, ?_⟩
  intro max max' between hmax hmax' hbetween
  exact hlasts.delivered_twice hhalf hmax hmax' hbetween

/-- The consumer has seen one of the four items that are queued. -/
def unnoticed : List (Event Nat) :=
  [.call (.enqueueBulk [1, 2]), .call (.dequeueBurst 1), .call (.enqueueBulk [3, 4, 5])]

theorem life_serves_unnoticed :
    isPowerOfTwo (4 : UInt64).toNat = true ∧
      ∃ r : Ring Nat, create "four" (4 : UInt64).toNat = .ok r ∧
        let l := ({ ring := r } : Life Nat).run unnoticed
        l.ring.has .consumer = true ∧ l.ring.cachedLength = 1 ∧ l.ring.toList = [2, 3, 4, 5] ∧
          (l.ring.dequeueInto [0] 4).1 = 1 ∧ (l.ring.dequeueInto [0] 4).2.1 = [0, 2] ∧
          ∃ r', r'.toList = [] ∧ Emptied 2 l.ring [0] 3 r' [0, 2, 3, 4, 5] := by
  have hpow : isPowerOfTwo (4 : UInt64).toNat = true := by decide
  obtain ⟨r, hr, h⟩ := life_serves (α := Nat) "four" 4 hpow
  have hfour : { name := "four", slots := #[none, none, none, none] } = r := Except.ok.inj hr
  subst hfour
  have hhalf : (({ ring := { name := "four", slots := #[none, none, none, none] } } :
      Life Nat).run unnoticed).ring.has .consumer = true := rfl
  obtain ⟨-, hserves, -⟩ := h unnoticed hhalf
  refine ⟨hpow, _, hr, hhalf, rfl, rfl, ?_, ?_, hserves.emptied [0] 2 (by decide)⟩
  · rw [(hserves.dequeueInto_eq [0] 4).1]
    rfl
  · rw [(hserves.dequeueInto_eq [0] 4).1]
    rfl

end EtherRelay.Ring
