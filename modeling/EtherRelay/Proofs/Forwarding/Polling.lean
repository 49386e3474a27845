import EtherRelay.Proofs.Forwarding.Stages

/-!
# Whose turn it is

A receiver reads one queue of its set at each poll, always the same one or one after another.
`QueueChoice.turns` lists the queues of the next polls. Wherever a rotation stands, as many polls
as there are queues read each of them, so `n` rounds of polls read each at least `n` times.
-/

namespace EtherRelay

namespace QueueChoice

variable (set : QueueSet)

/-- The queue that is read next. -/
def queue : QueueChoice → QueueId
  | .fixed queue => queue
  | .rotating rotation => rotation.queue set

/-- What is left to choose after a poll. -/
def next : QueueChoice → QueueChoice
  | .fixed queue => .fixed queue
  | .rotating rotation => .rotating (rotation.advance set)

/-- The queues that are read at all. -/
def polled : QueueChoice → List QueueId
  | .fixed queue => [queue]
  | .rotating _ => set.queues

/-- The queues of the next `n` polls. -/
def turns (c : QueueChoice) : Nat → List QueueId
  | 0 => []
  | n + 1 => c.queue set :: (c.next set).turns n

variable {set} (c : QueueChoice)

@[simp] theorem polled_next : (c.next set).polled set = c.polled set := by
  cases c <;> rfl

theorem queue_mem_polled : c.queue set ∈ c.polled set := by
  cases c with
  | fixed queue => exact List.mem_singleton_self queue
  | rotating rotation => exact List.get_mem _ _

@[simp] theorem polled_iterate (n : Nat) : ((next set)^[n] c).polled set = c.polled set := by
  induction n generalizing c with
  | zero => rfl
  | succ n ih => rw [Function.iterate_succ_apply, ih, polled_next]

theorem turns_add (m n : Nat) :
    c.turns set (m + n) = c.turns set m ++ ((next set)^[m] c).turns set n := by
  induction m generalizing c with
  | zero => rw [Nat.zero_add]; rfl
  | succ m ih =>
      rw [Nat.succ_add, turns, turns, ih, List.cons_append, Function.iterate_succ_apply]

/-- The queues of a rotation follow one another round and round. -/
theorem turns_rotating (next n : Nat) :
    (rotating ⟨next⟩).turns set n = (List.range n).map fun i =>
      set.queues.get ⟨(next + i) % set.length, Nat.mod_lt _ set.length_pos⟩ := by
  induction n generalizing next with
  | zero => rfl
  | succ n ih =>
      have hround : ∀ i, ((next + 1) % set.length + i) % set.length =
          (next + (i + 1)) % set.length := by
        intro i
        rw [Nat.mod_add_mod, Nat.add_assoc, Nat.add_comm 1 i]
      rw [turns, QueueChoice.next, Rotation.advance, ih, List.range_succ_eq_map, List.map_cons,
        List.map_map]
      simp only [hround, Function.comp_def]
      rfl

/-- As many polls as there are queues read each of them. -/
theorem mem_turns {queue : QueueId} (h : queue ∈ c.polled set) :
    queue ∈ c.turns set (c.polled set).length := by
  cases c with
  | fixed fixed => exact h
  | rotating rotation =>
      obtain ⟨next⟩ := rotation
      obtain ⟨j, hj, rfl⟩ := List.getElem_of_mem h
      have hlt := Nat.mod_lt next set.length_pos
      -- The position `j` is so many steps ahead of the one that comes next.
      have hahead : (next + (j + (set.length - next % set.length)) % set.length) % set.length
          = j := by
        have hsum : next % set.length + (j + (set.length - next % set.length)) =
            j + set.length := by omega
        rw [Nat.add_mod_mod, ← Nat.mod_add_mod, hsum, Nat.add_mod_right]
        exact Nat.mod_eq_of_lt hj
      have hmem := List.mem_range.mpr
        (Nat.mod_lt (j + (set.length - next % set.length)) set.length_pos)
      have hqueue := List.mem_map_of_mem
        (f := fun i => set.queues.get ⟨(next + i) % set.length, Nat.mod_lt _ set.length_pos⟩) hmem
      simp only [hahead] at hqueue
      rw [turns_rotating]
      exact hqueue

/-- Each round of polls reads each queue. -/
theorem le_count_turns {queue : QueueId} (h : queue ∈ c.polled set) (rounds : Nat) :
    rounds ≤ (c.turns set ((c.polled set).length * rounds)).count queue := by
  induction rounds generalizing c with
  | zero => exact Nat.zero_le _
  | succ rounds ih =>
      have hfirst := List.one_le_count_iff.mpr (c.mem_turns h)
      have hrest := ih ((QueueChoice.next set)^[(c.polled set).length] c)
        (by rwa [polled_iterate])
      rw [polled_iterate] at hrest
      rw [Nat.mul_succ, Nat.add_comm (_ * _), turns_add, List.count_append]
      omega

end QueueChoice

namespace Receiver

variable {β σ : Type} [FrameBuffer β] (r : Receiver)

theorem chooseQueue_eq :
    r.chooseQueue = (r.choice.queue r.queues, { r with choice := r.choice.next r.queues }) := by
  obtain ⟨interface, queues, choice, burstSize, relayReported, statsReported⟩ := r
  cases choice <;> rfl

/-! ## What passing a burst on leaves alone -/

theorem choice_admitProbe (lane : Lane β) (w : World β σ) (probe : β) :
    (r.admitProbe lane w probe).1.choice = r.choice := by
  rw [admitProbe]
  split
  · rfl
  · dsimp only
    split <;> rfl

theorem choice_admitProbes (lane : Lane β) (w : World β σ) (probes : List β) :
    (r.admitProbes lane w probes).1.choice = r.choice := by
  induction probes generalizing r lane w with
  | nil => rfl
  | cons probe probes ih => exact (ih _ _ _).trans (r.choice_admitProbe lane w probe)

theorem choice_admitData (lane : Lane β) (w : World β σ) (data : List β) :
    (r.admitData lane w data).1.choice = r.choice := by
  rw [admitData]
  split
  · rfl
  · dsimp only
    split <;> rfl

/-- Each poll leaves the choice one turn ahead. -/
theorem choice_poll (lane : Lane β) (w : World β σ) :
    (r.poll lane w).2.1.choice = r.choice.next r.queues := by
  have hchosen : r.chooseQueue.2.choice = r.choice.next r.queues := by rw [chooseQueue_eq]
  rw [poll_eq]
  split
  · exact hchosen
  · exact ((choice_admitData _ _ _ _).trans (choice_admitProbes _ _ _ _)).trans hchosen

/-! ## What a poll takes -/

/-- A poll takes the front of the queue whose turn it is. -/
theorem pending_poll {lane : Lane β} (hrelay : lane.relayRing.Sound)
    (hstats : lane.statsRing.Sound) (w : World β σ) (index : Nat) (queue : QueueId) :
    (r.poll lane w).2.2.2.pending index queue =
      if index = r.interface ∧ queue = r.choice.queue r.queues then
        (w.pending r.interface queue).drop r.burstSize
      else w.pending index queue := by
  have hfrees := (r.poll_passes w hrelay hstats).frees
  have hreceived := w.pending_receive r.interface r.chooseQueue.1 index queue r.burstSize
  rw [World.pending, hfrees.interfaces_eq, ← World.pending, hreceived, chooseQueue_eq]
  by_cases h : index = r.interface ∧ queue = r.choice.queue r.queues
  · rw [if_pos h, if_pos h, h.2]
  · rw [if_neg h, if_neg h]

/-- A poll that finds nothing leaves the lane alone. -/
theorem lane_poll_of_pending_eq_nil (lane : Lane β) {w : World β σ}
    (h : w.pending r.interface (r.choice.queue r.queues) = []) :
    (r.poll lane w).2.2.1 = lane := by
  have hnone : (w.receive r.interface r.chooseQueue.1 r.burstSize).1 = [] := by
    rw [World.receive_fst, chooseQueue_eq, h, List.take_nil]
  rw [poll_eq, if_pos hnone]

end Receiver

/-! ## Stages that receive nothing -/

variable {β σ : Type} [FrameBuffer β]

theorem Transmitter.pending_poll (t : Transmitter) (lane : Lane β) (w : World β σ) (index : Nat)
    (queue : QueueId) : (t.poll lane w).2.2.2.pending index queue = w.pending index queue := by
  rw [poll_eq]
  split
  · rfl
  · rw [send_eq]
    exact w.pending_transmit t.interface (t.rotation.queue t.queues) index queue _

theorem World.Frees.pending_eq {w w' : World β σ} {freed : List β} (h : w.Frees w' freed)
    (index : Nat) (queue : QueueId) : w'.pending index queue = w.pending index queue := by
  rw [World.pending, h.interfaces_eq, World.pending]

end EtherRelay
