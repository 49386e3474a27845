import EtherRelay.Proofs.Forwarding.Stages

/-!
# Who counts what

Every counter of a context has one stage that adds to it, `Counter.writer`. The other stages leave
it alone, and the receiver and the transmitter count a burst at most once when they are polled.
-/

namespace EtherRelay

variable {β σ : Type}

/-- The worker that counts it. Every counter has one. -/
def Counter.writer : Counter → WorkerRole
  | .rxBursts | .rxPackets | .relayed | .probesEnqueued | .relayOverflowDrops
  | .probeOverflowDrops => .receive
  | .txBursts | .forwarded | .txPartialDrops => .transmit
  | .probesDecoded | .malformedProbes | .reorderedHops | .publishFailures => .stats

theorem Lane.get_count_of_ne (lane : Lane β) (n : Nat) {k j : Counter} (h : j ≠ k) :
    (lane.count n k).counters.get j = lane.counters.get j := by
  rw [Lane.count, Counters.get_add, if_neg h]

variable [FrameBuffer β]

namespace Receiver

variable (r : Receiver) (lane : Lane β) (w : World β σ) {k : Counter}

theorem get_admitProbe (h : k ≠ .probesEnqueued) (h' : k ≠ .probeOverflowDrops) (probe : β) :
    (r.admitProbe lane w probe).2.1.counters.get k = lane.counters.get k := by
  rw [admitProbe]
  split
  · exact Lane.get_count_of_ne _ 1 h
  · dsimp only
    split <;> exact Lane.get_count_of_ne _ 1 h'

theorem get_admitProbes (h : k ≠ .probesEnqueued) (h' : k ≠ .probeOverflowDrops)
    (probes : List β) :
    (r.admitProbes lane w probes).2.1.counters.get k = lane.counters.get k := by
  induction probes generalizing r lane w with
  | nil => rfl
  | cons probe probes ih =>
      refine (ih _ _ _).trans ?_
      exact r.get_admitProbe lane w h h' probe

theorem get_admitData (h : k ≠ .relayed) (h' : k ≠ .relayOverflowDrops) (data : List β) :
    (r.admitData lane w data).2.1.counters.get k = lane.counters.get k := by
  rw [admitData]
  split
  · exact Lane.get_count_of_ne _ _ h
  · dsimp only
    split <;> exact Lane.get_count_of_ne _ _ h'

/-- Passing on a burst counts what was received, and then what was admitted and what was not. -/
theorem get_distribute (h : k ∉ [Counter.probesEnqueued, .probeOverflowDrops, .relayed,
    .relayOverflowDrops]) (burst : List β) :
    (r.distribute lane w burst).2.1.counters.get k =
      ((lane.count 1 .rxBursts).count burst.length .rxPackets).counters.get k := by
  have hne : ∀ j ∈ [Counter.probesEnqueued, .probeOverflowDrops, .relayed, .relayOverflowDrops],
      k ≠ j := fun j hj hk => h (hk ▸ hj)
  rw [distribute]
  refine (get_admitData _ _ _ (hne _ (by decide)) (hne _ (by decide)) _).trans ?_
  exact get_admitProbes _ _ _ (hne _ (by decide)) (hne _ (by decide)) _

/-- A poll counts one burst at most. -/
theorem get_rxBursts_poll :
    ∃ d, d ≤ 1 ∧ (r.poll lane w).2.2.1.counters.get .rxBursts =
      lane.counters.get .rxBursts + UInt64.ofNat d := by
  rw [poll]
  dsimp only
  split
  · exact ⟨0, Nat.zero_le 1, (UInt64.add_zero _).symm⟩
  · refine ⟨1, Nat.le_refl 1, (get_distribute _ _ _ (by decide) _).trans ?_⟩
    exact (Lane.get_count_of_ne _ _ (by decide)).trans
      (Counters.get_add_self lane.counters 1 .rxBursts)

/-- A poll counts nothing that is for another worker to count. -/
theorem get_poll (h : k.writer ≠ .receive) :
    (r.poll lane w).2.2.1.counters.get k = lane.counters.get k := by
  rw [poll]
  dsimp only
  split
  · rfl
  · refine (get_distribute _ _ _ ?_ _).trans ?_
    · intro hk
      revert h
      revert k
      decide
    · refine (Lane.get_count_of_ne _ _ ?_).trans (Lane.get_count_of_ne _ _ ?_) <;> rintro rfl <;>
        exact h rfl

end Receiver

namespace Transmitter

variable (t : Transmitter) (lane : Lane β) (w : World β σ) (burst : List β)

theorem get_txBursts_send :
    (t.send lane w burst).2.1.counters.get .txBursts = lane.counters.get .txBursts + 1 := by
  rw [send_eq]
  refine (Lane.get_count_of_ne _ _ (by decide)).trans ?_
  exact (Lane.get_count_of_ne _ _ (by decide)).trans
    (Counters.get_add_self lane.counters 1 .txBursts)

/-- Sending counts nothing that is for another worker to count. -/
theorem get_send {k : Counter} (h : k.writer ≠ .transmit) :
    (t.send lane w burst).2.1.counters.get k = lane.counters.get k := by
  have hne : ∀ j : Counter, j.writer = .transmit → k ≠ j := fun j hj hk => h (hk ▸ hj)
  rw [send_eq]
  refine (Lane.get_count_of_ne _ _ (hne _ rfl)).trans ?_
  exact (Lane.get_count_of_ne _ _ (hne _ rfl)).trans (Lane.get_count_of_ne _ _ (hne _ rfl))

end Transmitter

namespace Monitor

variable (lane : Lane β) (w : World β σ) {k : Counter}

theorem get_inspect (h : k.writer ≠ .stats) (probe : β) :
    (inspect lane w probe).2.1.counters.get k = lane.counters.get k := by
  have hne : ∀ j : Counter, j.writer = .stats → k ≠ j := fun j hj hk => h (hk ▸ hj)
  rw [inspect]
  dsimp only
  split
  · exact (Lane.get_count_of_ne _ _ (hne _ rfl)).trans (Lane.get_count_of_ne _ _ (hne _ rfl))
  · exact Lane.get_count_of_ne _ _ (hne _ rfl)

omit [FrameBuffer β] in
theorem get_publish [Sink σ] (h : k ≠ .publishFailures) (record : Record) :
    (publish lane w record).1.counters.get k = lane.counters.get k := by
  rw [publish]
  split
  · rfl
  · exact Lane.get_count_of_ne _ _ h

end Monitor

end EtherRelay
