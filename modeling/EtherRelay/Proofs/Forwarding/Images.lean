import EtherRelay.Proofs.Forwarding.Stages
import EtherRelay.Proofs.Ring.Images
import EtherRelay.Proofs.World.Images

/-!
# Stages that run on other frames

What the receiver and the transmitter do with a frame depends on whether it is a probe and on
nothing else in it. So they take the same decisions on the images of frames under any map that
keeps probes apart from other frames: `Carried` relates the outcomes of both runs. The monitor
does look into frames, but what it finds there changes counters of its own alone.
-/

namespace EtherRelay

variable {α β σ τ : Type} {f : α → β} {K : Counter → Prop} {S : Nat → Prop}

/-- The counters of the receive and transmit stages. -/
def Counter.IsForwarding (k : Counter) : Prop :=
  k ∉ [probesDecoded, malformedProbes, reorderedHops, publishFailures]

/-- The rings of `lane'` hold the images of what those of `lane` hold, and both count alike as far
as the counters `K` go. -/
structure Lane.Carries (f : α → β) (K : Counter → Prop) (lane : Lane α) (lane' : Lane β) :
    Prop where
  context_eq : lane'.context = lane.context
  relayRing_eq : lane'.relayRing = lane.relayRing.map f
  statsRing_eq : lane'.statsRing = lane.statsRing.map f
  get_eq : ∀ k, K k → lane'.counters.get k = lane.counters.get k

namespace Lane.Carries

variable {lane : Lane α} {lane' : Lane β}

theorem count (h : lane.Carries f K lane') (n : Nat) (c : Counter) :
    (lane.count n c).Carries f K (lane'.count n c) := by
  refine { h with get_eq := ?_ }
  intro k hk
  rw [Lane.count, Lane.count, Counters.get_add, Counters.get_add]
  split
  · next hkc => rw [h.get_eq c (hkc ▸ hk)]
  · exact h.get_eq k hk

theorem setRelay (h : lane.Carries f K lane') (ring : Ring α) :
    Lane.Carries f K { lane with relayRing := ring } { lane' with relayRing := ring.map f } :=
  { h with relayRing_eq := rfl }

theorem setStats (h : lane.Carries f K lane') (ring : Ring α) :
    Lane.Carries f K { lane with statsRing := ring } { lane' with statsRing := ring.map f } :=
  { h with statsRing_eq := rfl }

theorem refl (lane : Lane α) : lane.Carries (fun b => b) K lane where
  context_eq := rfl
  relayRing_eq := lane.relayRing.map_id.symm
  statsRing_eq := lane.statsRing.map_id.symm
  get_eq _ _ := rfl

theorem of_create {context : UInt16} {settings : Settings} {names : RingNames}
    (h : (Lane.create context settings names).1 = .ok lane)
    (h' : (Lane.create context settings names).1 = .ok lane') : lane.Carries f K lane' := by
  rw [Lane.create] at h h'
  dsimp only at h h'
  split at h
  · cases h
  · next relayRing hrelay =>
    split at h
    · cases h
    · next statsRing hstats =>
      split at h'
      · cases h'
      · next relayRing' hrelay' =>
        split at h'
        · cases h'
        · next statsRing' hstats' =>
          cases h
          cases h'
          exact ⟨rfl, Ring.map_of_create f hrelay hrelay', Ring.map_of_create f hstats hstats',
            fun _ _ => rfl⟩

end Lane.Carries

/-- Two runs of a stage give the same answer and leave related lanes and worlds. -/
structure Carried {γ : Type} (f : α → β) (K : Counter → Prop) (S : Nat → Prop)
    (out : γ × Lane α × World α σ) (out' : γ × Lane β × World β τ) : Prop where
  answer_eq : out'.1 = out.1
  lane : out.2.1.Carries f K out'.2.1
  world : out.2.2.Carries f S out'.2.2

section

variable {lane : Lane α} {lane' : Lane β} {w : World α σ} {w' : World β τ}

/-! ## The transmitter takes a burst -/

theorem Transmitter.load_carries (t : Transmitter) (h : lane.Carries f K lane') :
    (t.load lane').1 = (t.load lane).1.map f ∧ (t.load lane).2.Carries f K (t.load lane').2 := by
  rw [Transmitter.load, Transmitter.load, h.relayRing_eq, Ring.dequeueBurst_map]
  exact ⟨rfl, h.setRelay _⟩

theorem Monitor.load_carries (m : Monitor) (h : lane.Carries f K lane') :
    (m.load lane').1 = (m.load lane).1.map f ∧ (m.load lane).2.Carries f K (m.load lane').2 := by
  rw [Monitor.load, Monitor.load, h.statsRing_eq, Ring.dequeueBurst_map]
  exact ⟨rfl, h.setStats _⟩

variable [FrameBuffer α] [FrameBuffer β]

/-! ## The receiver -/

namespace Receiver

variable (r : Receiver)

theorem admitProbe_carries (hl : lane.Carries f K lane') (hw : w.Carries f S w') (probe : α) :
    Carried f K S (r.admitProbe lane w probe) (r.admitProbe lane' w' (f probe)) := by
  rw [admitProbe, admitProbe, hl.statsRing_eq, Ring.enqueue_map]
  obtain ⟨refused?, ring⟩ := lane.statsRing.enqueue probe
  have hring := hl.setStats ring
  cases refused? with
  | none => exact ⟨rfl, hring.count 1 _, hw⟩
  | some refused =>
      dsimp only [Option.map_some]
      split
      · exact ⟨rfl, hring.count 1 _, hw.of_interfaces rfl rfl⟩
      · exact ⟨rfl, hring.count 1 _, hw.of_interfaces rfl rfl⟩

/-- Probes are admitted one after the other; the runs stay related from probe to probe. -/
theorem admitProbes_carries (hl : lane.Carries f K lane') (hw : w.Carries f S w')
    (probes : List α) :
    Carried f K S (r.admitProbes lane w probes) (r.admitProbes lane' w' (probes.map f)) := by
  induction probes generalizing r lane lane' w w' with
  | nil => exact ⟨rfl, hl, hw⟩
  | cons probe probes ih =>
      have hfirst := r.admitProbe_carries hl hw probe
      have hrest := ih (r.admitProbe lane w probe).1 hfirst.lane hfirst.world
      have hstep : r.admitProbes lane' w' ((probe :: probes).map f) =
          (r.admitProbe lane' w' (f probe)).1.admitProbes (r.admitProbe lane' w' (f probe)).2.1
            (r.admitProbe lane' w' (f probe)).2.2 (probes.map f) := rfl
      rw [hstep, hfirst.answer_eq]
      exact hrest

theorem admitData_carries (hl : lane.Carries f K lane') (hw : w.Carries f S w') (data : List α) :
    Carried f K S (r.admitData lane w data) (r.admitData lane' w' (data.map f)) := by
  rw [admitData, admitData, hl.relayRing_eq, Ring.enqueueBulk_map, List.length_map]
  obtain ⟨refused, full?, ring⟩ := lane.relayRing.enqueueBulk data
  have hring := hl.setRelay ring
  cases full? with
  | none => exact ⟨rfl, hring.count _ _, hw⟩
  | some full =>
      dsimp only
      split
      · exact ⟨rfl, hring.count _ _, hw.of_interfaces rfl rfl⟩
      · exact ⟨rfl, hring.count _ _, hw.of_interfaces rfl rfl⟩

variable (hf : ∀ b, isProbe (f b) = isProbe b)
include hf

/-- Probes and other frames are told apart alike in both runs. -/
theorem distribute_carries (hl : lane.Carries f K lane') (hw : w.Carries f S w')
    (burst : List α) :
    Carried f K S (r.distribute lane w burst) (r.distribute lane' w' (burst.map f)) := by
  have hprobes : (burst.map f).filter isProbe = (burst.filter isProbe).map f := by
    rw [List.filter_map]
    congr 2
    exact funext hf
  have hdata : ((burst.map f).filter fun b => !isProbe b) =
      (burst.filter fun b => !isProbe b).map f := by
    rw [List.filter_map]
    congr 2
    funext b
    exact congrArg _ (hf b)
  have hcounted := (hl.count 1 .rxBursts).count burst.length .rxPackets
  rw [distribute, distribute, hprobes, hdata, List.length_map]
  have hadmitted := r.admitProbes_carries hcounted hw (burst.filter isProbe)
  dsimp only
  rw [hadmitted.answer_eq]
  exact admitData_carries _ hadmitted.lane hadmitted.world _

/-- A poll decides alike in both runs: the queue, how much of it is taken, and what becomes of
each frame. -/
theorem poll_carries (hl : lane.Carries f K lane') (hw : w.Carries f S w')
    (hS : S r.interface) :
    (r.poll lane' w').1 = (r.poll lane w).1 ∧
      Carried f K S (r.poll lane w).2 (r.poll lane' w').2 := by
  obtain ⟨hburst, hafter⟩ := hw.receive r.interface hS r.chooseQueue.1 r.burstSize
  rw [poll_eq, poll_eq, hburst]
  by_cases hnil : (w.receive r.interface r.chooseQueue.1 r.burstSize).1 = []
  · rw [if_pos hnil, hnil, List.map_nil, if_pos rfl]
    exact ⟨rfl, rfl, hl, hafter⟩
  · rw [if_neg hnil, if_neg (mt List.map_eq_nil_iff.mp hnil), List.length_map]
    exact ⟨rfl, distribute_carries _ hf hl hafter _⟩

end Receiver

/-! ## The transmitter -/

namespace Transmitter

variable (t : Transmitter)

theorem send_carries (hl : lane.Carries f K lane') (hw : w.Carries f S w') (hS : S t.interface)
    (burst : List α) :
    Carried f K S (t.send lane w burst) (t.send lane' w' (burst.map f)) := by
  obtain ⟨haccepted, _, hafter⟩ := hw.transmit t.interface hS (t.rotation.queue t.queues) burst
  rw [t.send_eq, t.send_eq, haccepted, List.length_map]
  exact ⟨rfl, ((hl.count _ _).count _ _).count _ _, hafter.of_interfaces rfl rfl⟩

theorem poll_carries (hl : lane.Carries f K lane') (hw : w.Carries f S w')
    (hS : S t.interface) :
    (t.poll lane' w').1 = (t.poll lane w).1 ∧
      Carried f K S (t.poll lane w).2 (t.poll lane' w').2 := by
  obtain ⟨hburst, hloaded⟩ := t.load_carries hl
  rw [poll_eq, poll_eq, hburst]
  by_cases hnil : (t.load lane).1 = []
  · rw [if_pos hnil, hnil, List.map_nil, if_pos rfl]
    exact ⟨rfl, rfl, hloaded, hw⟩
  · rw [if_neg hnil, if_neg (mt List.map_eq_nil_iff.mp hnil), List.length_map]
    exact ⟨rfl, t.send_carries hloaded hw hS _⟩

end Transmitter

/-! ## The monitor -/

namespace Monitor

variable (m : Monitor) [Sink σ] [Sink τ]

/-- Reading probes moves none of the counters of the other stages. -/
theorem get_drain (lane : Lane α) (w : World α σ) {k : Counter} (hk : k.IsForwarding) :
    (m.drain lane w).2.1.counters.get k = lane.counters.get k := by
  obtain ⟨more, hreads, hcounts, _⟩ := m.drain_counts lane w
  have hnone : more k = 0 := by
    simp only [Counter.IsForwarding, List.mem_cons, List.not_mem_nil, or_false, not_or] at hk
    exact hreads.other_eq k hk.1 hk.2.1 hk.2.2.1 hk.2.2.2
  have hbefore : (m.load lane).2.counters.Shows fun k => (lane.counters.get k).toNat := by
    intro j
    exact UInt64.ofNat_toNat.symm
  rw [hcounts.shows _ hbefore k, Pi.add_apply, hnone, Nat.add_zero, UInt64.ofNat_toNat]

/-- A drain takes as many probes in both runs. What it counts may differ. -/
theorem drain_carries (hl : lane.Carries f Counter.IsForwarding lane') (hw : w.Carries f S w') :
    (m.drain lane w).2.1.Carries f Counter.IsForwarding (m.drain lane' w').2.1 ∧
      (m.drain lane w).2.2.Carries f S (m.drain lane' w').2.2 := by
  obtain ⟨_, _, hcounts, hfrees⟩ := m.drain_counts lane w
  obtain ⟨_, _, hcounts', hfrees'⟩ := m.drain_counts lane' w'
  obtain ⟨_, hloaded⟩ := m.load_carries hl
  refine ⟨⟨?_, ?_, ?_, ?_⟩, hw.of_interfaces hfrees.interfaces_eq hfrees'.interfaces_eq⟩
  · rw [hcounts'.context_eq, hcounts.context_eq, hloaded.context_eq]
  · rw [hcounts'.relayRing_eq, hcounts.relayRing_eq, hloaded.relayRing_eq]
  · rw [hcounts'.statsRing_eq, hcounts.statsRing_eq, hloaded.statsRing_eq]
  · intro k hk
    rw [m.get_drain lane' w' hk, m.get_drain lane w hk, hl.get_eq k hk]

end Monitor

end

/-! ## New pipelines -/

/-- Pipelines for the same settings have the same stages, and the lane of one is the image of the
other. -/
theorem Pipeline.carries_of_create {context : UInt16} {settings : Settings}
    {source destination : Binding} {drainBurst : Nat} {now : UInt64} {p : Pipeline α}
    {p' : Pipeline β} (h : create context settings source destination drainBurst now = .ok p)
    (h' : create context settings source destination drainBurst now = .ok p') :
    p.lane.Carries f K p'.lane ∧ p'.receiver = p.receiver ∧ p'.transmitter = p.transmitter ∧
      p'.monitor = p.monitor := by
  obtain ⟨lane, receiver, hlane, hreceiver, rfl⟩ := create_eq h
  obtain ⟨lane', receiver', hlane', hreceiver', rfl⟩ := create_eq h'
  rw [hreceiver] at hreceiver'
  cases hreceiver'
  exact ⟨.of_create hlane hlane', rfl, rfl, rfl⟩

end EtherRelay
