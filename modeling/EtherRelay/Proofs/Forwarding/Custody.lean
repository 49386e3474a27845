import EtherRelay.Proofs.Forwarding.Stages
import EtherRelay.Proofs.Ring.Closing
import EtherRelay.Proofs.World.Conservation

/-!
# Buffers in the custody of a lane

The rings of a lane hold buffers that the pool lent. Every stage hands on what it takes out of
a ring, or frees it, and so does the lane when its stages give up their halves. Each statement
leaves room for `n` more lent buffers elsewhere, which the step does not touch.
-/

namespace EtherRelay

variable {σ : Type}

namespace Lane

/-- The pooled buffers in the rings. -/
def pooled (lane : Lane Buffer) : Nat :=
  pooledIn lane.relayRing.toList + pooledIn lane.statsRing.toList

/-- Both rings are kept, and a half is open as long as its stage is there. -/
structure Kept (lane : Lane Buffer) (receiving transmitting monitoring : Bool) : Prop where
  relay_kept : lane.relayRing.Kept
  stats_kept : lane.statsRing.Kept
  relay_producer : lane.relayRing.producerOpen = receiving
  relay_consumer : lane.relayRing.consumerOpen = transmitting
  stats_producer : lane.statsRing.producerOpen = receiving
  stats_consumer : lane.statsRing.consumerOpen = monitoring

variable {lane lane' : Lane Buffer} {w w' : World Buffer σ} {burst : List Buffer}
variable {capacity n : Nat}
variable {receiving transmitting monitoring : Bool}

theorem Fresh.kept (h : lane.Fresh) : lane.Kept true true true where
  relay_kept :=
    ⟨fun _ => h.sound .relay, fun hp => by cases (h.producerOpen_eq .relay).symm.trans hp⟩
  stats_kept :=
    ⟨fun _ => h.sound .stats, fun hp => by cases (h.producerOpen_eq .stats).symm.trans hp⟩
  relay_producer := h.producerOpen_eq .relay
  relay_consumer := h.consumerOpen_eq .relay
  stats_producer := h.producerOpen_eq .stats
  stats_consumer := h.consumerOpen_eq .stats

theorem Fresh.pooled_eq (h : lane.Fresh) : lane.pooled = 0 := by
  have hrelay : lane.relayRing.toList = [] := h.toList_eq .relay
  have hstats : lane.statsRing.toList = [] := h.toList_eq .stats
  rw [pooled, hrelay, hstats, pooledIn_nil]

namespace Kept

/-- Without stages the rings are empty. -/
theorem toList_eq (h : lane.Kept false false false) :
    lane.relayRing.toList = [] ∧ lane.statsRing.toList = [] :=
  ⟨h.relay_kept.toList_eq h.relay_producer h.relay_consumer,
    h.stats_kept.toList_eq h.stats_producer h.stats_consumer⟩

theorem relay_sound (h : lane.Kept true transmitting monitoring) : lane.relayRing.Sound :=
  h.relay_kept.sound (.inl h.relay_producer)

theorem stats_sound (h : lane.Kept true transmitting monitoring) : lane.statsRing.Sound :=
  h.stats_kept.sound (.inl h.stats_producer)

theorem passed (h : lane.Kept true transmitting monitoring) (hp : lane.Passes w burst lane' w') :
    lane'.Kept true transmitting monitoring where
  relay_kept := hp.relay_alike.kept (.inl h.relay_producer) hp.relay_sound
  stats_kept := hp.stats_alike.kept (.inl h.stats_producer) hp.stats_sound
  relay_producer := hp.relay_alike.producerOpen_eq.trans h.relay_producer
  relay_consumer := hp.relay_alike.consumerOpen_eq.trans h.relay_consumer
  stats_producer := hp.stats_alike.producerOpen_eq.trans h.stats_producer
  stats_consumer := hp.stats_alike.consumerOpen_eq.trans h.stats_consumer

/-- A burst is passed on to the rings, or freed. -/
theorem passes (h : lane.Kept true transmitting monitoring)
    (hp : lane.Passes w burst lane' w') (hw : w.Lends capacity (n + lane.pooled + pooledIn burst)) :
    lane'.Kept true transmitting monitoring ∧ w'.Lends capacity (n + lane'.pooled) := by
  refine ⟨h.passed hp, ?_⟩
  have hburst := pooledIn_perm (lane.perm_admitted_refused burst)
  refine World.Lends.frees ?_ hp.frees
  rw [pooled, hp.relay_toList, hp.stats_toList]
  simp only [pooledIn_append] at hburst ⊢
  have htotal : n + lane.pooled + pooledIn burst =
      n + (pooledIn lane.relayRing.toList + pooledIn (lane.dataAdmitted burst) +
        (pooledIn lane.statsRing.toList + pooledIn (lane.probesAdmitted burst))) +
        (pooledIn (lane.probesRefused burst) + pooledIn (lane.dataRefused burst)) := by
    rw [pooled]
    omega
  rwa [htotal] at hw

/-- What the transmitter takes leaves the lane. -/
theorem takesRelay (h : lane.Kept receiving true monitoring)
    (ht : lane.Takes .relay burst lane') :
    lane'.Kept receiving true monitoring ∧ lane.pooled = lane'.pooled + pooledIn burst := by
  have hstats : lane'.statsRing = lane.statsRing := ht.ring_eq .stats (by decide)
  have hlist : lane.relayRing.toList = burst ++ lane'.relayRing.toList := ht.toList_eq
  constructor
  · exact
      { relay_kept := ht.alike.kept (.inr h.relay_consumer) ht.sound
        stats_kept := hstats ▸ h.stats_kept
        relay_producer := ht.alike.producerOpen_eq.trans h.relay_producer
        relay_consumer := ht.alike.consumerOpen_eq.trans h.relay_consumer
        stats_producer := hstats ▸ h.stats_producer
        stats_consumer := hstats ▸ h.stats_consumer }
  · rw [pooled, pooled, hlist, hstats, pooledIn_append]
    omega

/-- What the monitor takes leaves the lane. -/
theorem takesStats (h : lane.Kept receiving transmitting true)
    (ht : lane.Takes .stats burst lane') :
    lane'.Kept receiving transmitting true ∧ lane.pooled = lane'.pooled + pooledIn burst := by
  have hrelay : lane'.relayRing = lane.relayRing := ht.ring_eq .relay (by decide)
  have hlist : lane.statsRing.toList = burst ++ lane'.statsRing.toList := ht.toList_eq
  constructor
  · exact
      { relay_kept := hrelay ▸ h.relay_kept
        stats_kept := ht.alike.kept (.inr h.stats_consumer) ht.sound
        relay_producer := hrelay ▸ h.relay_producer
        relay_consumer := hrelay ▸ h.relay_consumer
        stats_producer := ht.alike.producerOpen_eq.trans h.stats_producer
        stats_consumer := ht.alike.consumerOpen_eq.trans h.stats_consumer }
  · rw [pooled, pooled, hlist, hrelay, pooledIn_append]
    omega

/-- Counting moves no buffer. -/
theorem counts {more : Counter → Nat} (h : lane.Kept receiving transmitting monitoring)
    (hc : lane.Counts lane' more) :
    lane'.Kept receiving transmitting monitoring ∧ lane'.pooled = lane.pooled := by
  obtain ⟨hrelay, hstats, hrp, hrc, hsp, hsc⟩ := h
  rw [← hc.relayRing_eq] at hrelay hrp hrc
  rw [← hc.statsRing_eq] at hstats hsp hsc
  refine ⟨⟨hrelay, hstats, hrp, hrc, hsp, hsc⟩, ?_⟩
  rw [pooled, hc.relayRing_eq, hc.statsRing_eq, pooled]

/-! ## Giving up halves -/

theorem closeReceiver (h : lane.Kept receiving transmitting monitoring) :
    lane.closeReceiver.2.Kept false transmitting monitoring ∧
      lane.pooled = lane.closeReceiver.2.pooled + pooledIn lane.closeReceiver.1 := by
  obtain ⟨hrlist, hrkept, hrproducer, hrconsumer⟩ := h.relay_kept.closeProducer
  obtain ⟨hslist, hskept, hsproducer, hsconsumer⟩ := h.stats_kept.closeProducer
  refine ⟨⟨hrkept, hskept, hrproducer, hrconsumer.trans h.relay_consumer, hsproducer,
    hsconsumer.trans h.stats_consumer⟩, ?_⟩
  have hrelay := congrArg pooledIn hrlist
  have hstats := congrArg pooledIn hslist
  rw [pooledIn_append] at hrelay hstats
  change lane.pooled = pooledIn lane.relayRing.closeProducer.2.toList +
    pooledIn lane.statsRing.closeProducer.2.toList +
    pooledIn (lane.relayRing.closeProducer.1 ++ lane.statsRing.closeProducer.1)
  rw [pooled, pooledIn_append]
  omega

theorem closeTransmitter (h : lane.Kept receiving transmitting monitoring) :
    lane.closeTransmitter.2.Kept receiving false monitoring ∧
      lane.pooled = lane.closeTransmitter.2.pooled + pooledIn lane.closeTransmitter.1 := by
  obtain ⟨hlist, hkept, hproducer, hconsumer⟩ := h.relay_kept.closeConsumer
  refine ⟨⟨hkept, h.stats_kept, hproducer.trans h.relay_producer, hconsumer, h.stats_producer,
    h.stats_consumer⟩, ?_⟩
  have hrelay := congrArg pooledIn hlist
  rw [pooledIn_append] at hrelay
  change lane.pooled = pooledIn lane.relayRing.closeConsumer.2.toList +
    pooledIn lane.statsRing.toList + pooledIn lane.relayRing.closeConsumer.1
  rw [pooled]
  omega

theorem closeMonitor (h : lane.Kept receiving transmitting monitoring) :
    lane.closeMonitor.2.Kept receiving transmitting false ∧
      lane.pooled = lane.closeMonitor.2.pooled + pooledIn lane.closeMonitor.1 := by
  obtain ⟨hlist, hkept, hproducer, hconsumer⟩ := h.stats_kept.closeConsumer
  refine ⟨⟨h.relay_kept, hkept, h.relay_producer, h.relay_consumer,
    hproducer.trans h.stats_producer, hconsumer⟩, ?_⟩
  have hstats := congrArg pooledIn hlist
  rw [pooledIn_append] at hstats
  change lane.pooled = pooledIn lane.relayRing.toList +
    pooledIn lane.statsRing.closeConsumer.2.toList + pooledIn lane.statsRing.closeConsumer.1
  rw [pooled]
  omega

end Kept

end Lane

/-! ## Stages -/

variable {lane : Lane Buffer} {w : World Buffer σ} {capacity n : Nat}
variable {receiving transmitting monitoring : Bool}

/-- A poll moves a burst from the source interface into the rings. -/
theorem Receiver.poll_lends (r : Receiver) (h : lane.Kept true transmitting monitoring)
    (hw : w.Lends capacity (n + lane.pooled)) :
    (r.poll lane w).2.2.1.Kept true transmitting monitoring ∧
      (r.poll lane w).2.2.2.Lends capacity (n + (r.poll lane w).2.2.1.pooled) :=
  h.passes (r.poll_passes w h.relay_sound h.stats_sound) (hw.receive _ _ _)

/-- A burst in hand goes to the destination interface, or is freed. -/
theorem Transmitter.send_lends (t : Transmitter) {burst : List Buffer}
    (h : lane.Kept receiving transmitting monitoring) (hw : w.Lends capacity (n + pooledIn burst)) :
    (t.send lane w burst).2.1.Kept receiving transmitting monitoring ∧
      (t.send lane w burst).2.1.pooled = lane.pooled ∧ (t.send lane w burst).2.2.Lends capacity n := by
  have hleft := (w.left_transmit t.interface (t.rotation.queue t.queues) burst).1
  have hsent := hw.transmit t.interface (t.rotation.queue t.queues)
  rw [hleft] at hsent
  rw [t.send_eq]
  obtain ⟨hkept, hpooled⟩ := h.counts (((Lane.Counts.count lane 1 .txBursts).trans
    (.count _ (w.transmit t.interface (t.rotation.queue t.queues) burst).1 .forwarded)).trans
    (.count _ (burst.length - (w.transmit t.interface (t.rotation.queue t.queues) burst).1)
      .txPartialDrops))
  exact ⟨hkept, hpooled, hsent.release⟩

theorem Transmitter.poll_lends (t : Transmitter) (h : lane.Kept receiving true monitoring)
    (hw : w.Lends capacity (n + lane.pooled)) :
    (t.poll lane w).2.2.1.Kept receiving true monitoring ∧
      (t.poll lane w).2.2.2.Lends capacity (n + (t.poll lane w).2.2.1.pooled) := by
  obtain ⟨hloaded, hpooled⟩ :=
    h.takesRelay (t.load_takes (h.relay_kept.sound (.inr h.relay_consumer)))
  rw [hpooled, ← Nat.add_assoc] at hw
  rw [t.poll_eq]
  split
  · next hnil =>
    rw [hnil, pooledIn_nil, Nat.add_zero] at hw
    exact ⟨hloaded, hw⟩
  · obtain ⟨hkept, hsame, hsent⟩ := t.send_lends hloaded hw
    rw [← hsame] at hsent
    exact ⟨hkept, hsent⟩

/-- Probes that were drained are freed. -/
theorem Monitor.drain_lends [Sink σ] (m : Monitor) (h : lane.Kept receiving transmitting true)
    (hw : w.Lends capacity (n + lane.pooled)) :
    (m.drain lane w).2.1.Kept receiving transmitting true ∧
      (m.drain lane w).2.2.Lends capacity (n + (m.drain lane w).2.1.pooled) := by
  obtain ⟨_, _, hcounts, hfrees⟩ := m.drain_counts lane w
  obtain ⟨hloaded, hpooled⟩ :=
    h.takesStats (m.load_takes (h.stats_kept.sound (.inr h.stats_consumer)))
  obtain ⟨hkept, hsame⟩ := hloaded.counts hcounts
  rw [hpooled, ← hsame, ← Nat.add_assoc] at hw
  exact ⟨hkept, hw.frees hfrees⟩

/-! ## Pipelines -/

/-- What the owner of a pipeline can do with it. -/
inductive Pipeline.Act where
  | receive
  | transmit
  | drain
  | sample
  | publishSample
  | drop (role : WorkerRole)
  deriving Repr, DecidableEq

namespace Pipeline

/-- Both rings of a pipeline are kept, with a half for each stage that is there. -/
structure Kept (p : Pipeline Buffer) : Prop where
  lane_kept : p.lane.Kept p.receiver.isSome p.transmitter.isSome p.monitor.isSome

variable {p : Pipeline Buffer}

theorem Fresh.kept {settings : Settings} {source destination : Binding}
    (h : p.Fresh settings source destination) : p.Kept := by
  obtain ⟨r, hr, _⟩ := h.receiver_eq
  refine ⟨?_⟩
  rw [hr, h.transmitter_eq, h.monitor_isSome]
  exact h.lane_fresh.kept

namespace Kept

theorem receive (h : p.Kept) (hw : w.Lends capacity (n + p.lane.pooled)) :
    (p.receive w).2.1.Kept ∧ (p.receive w).2.2.Lends capacity (n + (p.receive w).2.1.lane.pooled) := by
  have hlane := h.lane_kept
  cases hr : p.receiver with
  | none =>
      rw [Pipeline.receive, hr]
      exact ⟨h, hw⟩
  | some r =>
      rw [hr] at hlane
      obtain ⟨hkept, hlends⟩ := r.poll_lends hlane hw
      simp only [Pipeline.receive, hr]
      exact ⟨⟨hkept⟩, hlends⟩

theorem transmit (h : p.Kept) (hw : w.Lends capacity (n + p.lane.pooled)) :
    (p.transmit w).2.1.Kept ∧
      (p.transmit w).2.2.Lends capacity (n + (p.transmit w).2.1.lane.pooled) := by
  have hlane := h.lane_kept
  cases ht : p.transmitter with
  | none =>
      rw [Pipeline.transmit, ht]
      exact ⟨h, hw⟩
  | some t =>
      rw [ht] at hlane
      obtain ⟨hkept, hlends⟩ := t.poll_lends hlane hw
      simp only [Pipeline.transmit, ht]
      exact ⟨⟨hkept⟩, hlends⟩

theorem sample (h : p.Kept) (hw : w.Lends capacity (n + p.lane.pooled)) :
    (p.sample w).2.1.Kept ∧ (p.sample w).2.2.Lends capacity (n + (p.sample w).2.1.lane.pooled) := by
  have hlane := h.lane_kept
  cases hm : p.monitor with
  | none =>
      rw [Pipeline.sample, hm]
      exact ⟨h, hw⟩
  | some m =>
      rw [hm] at hlane
      simp only [Pipeline.sample, hm]
      exact ⟨⟨hlane⟩, hw.frees_nil (m.sample_frees p.lane w)⟩

/-- A dropped stage gives up its halves. -/
theorem drop (h : p.Kept) (hw : w.Lends capacity (n + p.lane.pooled)) (role : WorkerRole) :
    (p.drop w role).2.1.Kept ∧
      (p.drop w role).2.2.Lends capacity (n + (p.drop w role).2.1.lane.pooled) := by
  have hlane := h.lane_kept
  cases role with
  | receive =>
      obtain ⟨hkept, hpooled⟩ := hlane.closeReceiver
      cases hr : p.receiver with
      | none =>
          simp only [Pipeline.drop, hr]
          exact ⟨h, hw⟩
      | some r =>
          rw [hpooled, ← Nat.add_assoc] at hw
          simp only [Pipeline.drop, hr]
          exact ⟨⟨hkept⟩, hw.release⟩
  | transmit =>
      obtain ⟨hkept, hpooled⟩ := hlane.closeTransmitter
      cases ht : p.transmitter with
      | none =>
          simp only [Pipeline.drop, ht]
          exact ⟨h, hw⟩
      | some t =>
          rw [hpooled, ← Nat.add_assoc] at hw
          simp only [Pipeline.drop, ht]
          exact ⟨⟨hkept⟩, hw.release⟩
  | stats =>
      obtain ⟨hkept, hpooled⟩ := hlane.closeMonitor
      cases hm : p.monitor with
      | none =>
          simp only [Pipeline.drop, hm]
          exact ⟨h, hw⟩
      | some m =>
          rw [hpooled, ← Nat.add_assoc] at hw
          simp only [Pipeline.drop, hm]
          exact ⟨⟨hkept⟩, hw.release⟩

variable [Sink σ]

theorem drain (h : p.Kept) (hw : w.Lends capacity (n + p.lane.pooled)) :
    (p.drain w).2.1.Kept ∧ (p.drain w).2.2.Lends capacity (n + (p.drain w).2.1.lane.pooled) := by
  have hlane := h.lane_kept
  cases hm : p.monitor with
  | none =>
      rw [Pipeline.drain, hm]
      exact ⟨h, hw⟩
  | some m =>
      rw [hm] at hlane
      obtain ⟨hkept, hlends⟩ := m.drain_lends hlane hw
      simp only [Pipeline.drain, hm]
      exact ⟨⟨hkept⟩, hlends⟩

theorem publishSample (h : p.Kept) (hw : w.Lends capacity (n + p.lane.pooled)) :
    (p.publishSample w).2.1.Kept ∧
      (p.publishSample w).2.2.Lends capacity (n + (p.publishSample w).2.1.lane.pooled) := by
  have hlane := h.lane_kept
  cases hm : p.monitor with
  | none =>
      rw [Pipeline.publishSample, hm]
      exact ⟨h, hw⟩
  | some m =>
      rw [hm] at hlane
      obtain ⟨_, _, hcounts, hfrees⟩ := m.publishSample_counts p.lane w
      obtain ⟨hkept, hsame⟩ := hlane.counts hcounts
      rw [← hsame] at hw
      simp only [Pipeline.publishSample, hm]
      exact ⟨⟨hkept⟩, hw.frees_nil hfrees⟩

end Kept

variable [Sink σ]

/-- Do one thing with a pipeline. -/
def act (p : Pipeline Buffer) (w : World Buffer σ) : Act → Pipeline Buffer × World Buffer σ
  | .receive => (p.receive w).2
  | .transmit => (p.transmit w).2
  | .drain => (p.drain w).2
  | .sample => (p.sample w).2
  | .publishSample => (p.publishSample w).2
  | .drop role => (p.drop w role).2

/-- Whatever is done with a pipeline, its buffers are accounted for. -/
theorem Kept.act (h : p.Kept) (hw : w.Lends capacity (n + p.lane.pooled)) (a : Act) :
    (p.act w a).1.Kept ∧ (p.act w a).2.Lends capacity (n + (p.act w a).1.lane.pooled) := by
  cases a with
  | receive => exact h.receive hw
  | transmit => exact h.transmit hw
  | drain => exact h.drain hw
  | sample => exact h.sample hw
  | publishSample => exact h.publishSample hw
  | drop role => exact h.drop hw role

end Pipeline

end EtherRelay
