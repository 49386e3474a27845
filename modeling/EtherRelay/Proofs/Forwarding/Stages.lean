import EtherRelay.Forwarding.Pipeline
import EtherRelay.Proofs.Forwarding.Admission
import EtherRelay.Proofs.World.Queues

/-!
# Taking frames off the rings

The transmitter and the monitor take bursts off the front of their rings, which `Lane.Takes`
describes for either ring. What they do with a burst then changes counters of the lane alone;
`Lane.Counts` says by how much. Every frame that does not stay with an interface is freed.
-/

namespace EtherRelay

variable {β σ : Type}

/-- A stage takes `burst` off the front of a ring; nothing else about the lane changes. -/
structure Lane.Takes (role : RingRole) (lane : Lane β) (burst : List β) (lane' : Lane β) :
    Prop where
  context_eq : lane'.context = lane.context
  ring_eq : ∀ other, other ≠ role → lane'.ring other = lane.ring other
  alike : (lane.ring role).Alike (lane'.ring role)
  sound : (lane'.ring role).Sound
  toList_eq : (lane.ring role).toList = burst ++ (lane'.ring role).toList
  counters_eq : lane'.counters = lane.counters

/-- Only counters of the lane change, by `more`. -/
structure Lane.Counts (lane lane' : Lane β) (more : Counter → Nat) : Prop where
  context_eq : lane'.context = lane.context
  relayRing_eq : lane'.relayRing = lane.relayRing
  statsRing_eq : lane'.statsRing = lane.statsRing
  shows : ∀ total, lane.counters.Shows total → lane'.counters.Shows (total + more)

namespace Lane.Counts

variable {lane lane' lane'' : Lane β} {more more' : Counter → Nat}

theorem refl (lane : Lane β) : lane.Counts lane 0 where
  context_eq := rfl
  relayRing_eq := rfl
  statsRing_eq := rfl
  shows _ h := h

theorem count (lane : Lane β) (n : Nat) (k : Counter) :
    lane.Counts (lane.count n k) (Pi.single k n) where
  context_eq := rfl
  relayRing_eq := rfl
  statsRing_eq := rfl
  shows _ h := h.add n k

theorem trans (h : lane.Counts lane' more) (h' : lane'.Counts lane'' more') :
    lane.Counts lane'' (more + more') where
  context_eq := h'.context_eq.trans h.context_eq
  relayRing_eq := h'.relayRing_eq.trans h.relayRing_eq
  statsRing_eq := h'.statsRing_eq.trans h.statsRing_eq
  shows total ht := by
    rw [← add_assoc]
    exact h'.shows _ (h.shows _ ht)

end Lane.Counts

/-! ## The transmitter -/

namespace Transmitter

variable (t : Transmitter) {lane : Lane β}

theorem load_takes (h : lane.relayRing.Sound) :
    lane.Takes .relay (t.load lane).1 (t.load lane).2 := by
  obtain ⟨hburst, hsound, hlist⟩ := h.dequeueBurst t.burstSize
  refine ⟨rfl, ?_, .dequeueBurst _ _, hsound, ?_, rfl⟩
  · intro other ho
    cases other with
    | relay => exact absurd rfl ho
    | stats => rfl
  · change lane.relayRing.toList = (lane.relayRing.dequeueBurst t.burstSize).1 ++
      (lane.relayRing.dequeueBurst t.burstSize).2.toList
    rw [hburst, hlist, List.take_append_drop]

theorem length_load_le (lane : Lane β) : (t.load lane).1.length ≤ t.burstSize :=
  Ring.length_dequeueBurst_le _ _

variable [FrameBuffer β]

/-- What the interface accepts is counted as forwarded; the rest of the burst is counted as
dropped, and freed. -/
theorem send_eq (lane : Lane β) (w : World β σ) (burst : List β) :
    let sent := w.transmit t.interface (t.rotation.queue t.queues) burst
    t.send lane w burst =
      ({ t with rotation := t.rotation.advance t.queues },
        ((lane.count 1 .txBursts).count sent.1 .forwarded).count (burst.length - sent.1)
          .txPartialDrops,
        sent.2.2.release (burst.drop sent.1)) := by
  have hleft := (w.left_transmit t.interface (t.rotation.queue t.queues) burst).1
  simp only [send, Rotation.pick, hleft, List.length_drop]

/-- The transmitter moves on only if there was something to send. -/
theorem poll_eq (lane : Lane β) (w : World β σ) :
    t.poll lane w =
      if (t.load lane).1 = [] then (0, t, (t.load lane).2, w)
      else ((t.load lane).1.length, t.send (t.load lane).2 w (t.load lane).1) := by
  simp only [poll, List.isEmpty_iff]

end Transmitter

/-! ## The monitor -/

namespace Monitor

/-- Counting that belongs to reading `n` probes: each of them was decoded or malformed, and
beside that only what was decoded and what could not be published is counted. -/
structure Reads (n : Nat) (more : Counter → Nat) : Prop where
  read_eq : more .probesDecoded + more .malformedProbes = n
  other_eq : ∀ k, k ≠ .probesDecoded → k ≠ .malformedProbes → k ≠ .reorderedHops →
    k ≠ .publishFailures → more k = 0

theorem Reads.add {m n : Nat} {more more' : Counter → Nat} (h : Reads m more)
    (h' : Reads n more') : Reads (m + n) (more + more') where
  read_eq := by
    rw [← h.read_eq, ← h'.read_eq, Pi.add_apply, Pi.add_apply]
    omega
  other_eq k hd hm hr hp := by
    rw [Pi.add_apply, h.other_eq k hd hm hr hp, h'.other_eq k hd hm hr hp]

theorem reads_zero : Reads 0 0 := ⟨rfl, fun _ _ _ _ _ => rfl⟩

variable (m : Monitor) {lane : Lane β}

theorem load_takes (h : lane.statsRing.Sound) :
    lane.Takes .stats (m.load lane).1 (m.load lane).2 := by
  obtain ⟨hburst, hsound, hlist⟩ := h.dequeueBurst m.burstSize
  refine ⟨rfl, ?_, .dequeueBurst _ _, hsound, ?_, rfl⟩
  · intro other ho
    cases other with
    | relay => rfl
    | stats => exact absurd rfl ho
  · change lane.statsRing.toList = (lane.statsRing.dequeueBurst m.burstSize).1 ++
      (lane.statsRing.dequeueBurst m.burstSize).2.toList
    rw [hburst, hlist, List.take_append_drop]

theorem length_load_le (lane : Lane β) : (m.load lane).1.length ≤ m.burstSize :=
  Ring.length_dequeueBurst_le _ _

variable [FrameBuffer β]

/-- A probe that was looked at is counted as decoded or as malformed. -/
theorem inspect_counts (lane : Lane β) (w : World β σ) (probe : β) :
    ∃ more, Reads 1 more ∧ lane.Counts (inspect lane w probe).2.1 more ∧
      w.Frees (inspect lane w probe).2.2 [] := by
  rw [inspect]
  split
  · next stamps _ =>
    refine ⟨Pi.single .probesDecoded 1 + Pi.single .reorderedHops stamps.latency.reordered, ?_,
      (Lane.Counts.count lane 1 _).trans (.count _ _ _), .refl w⟩
    refine ⟨rfl, ?_⟩
    intro k hd hm hr hp
    simp [hd, hr]
  · refine ⟨Pi.single .malformedProbes 1, ?_, .count lane 1 _, .note w _⟩
    refine ⟨rfl, ?_⟩
    intro k hd hm hr hp
    simp [hm]

theorem samplePort_frees (w : World β σ) (port : Binding) (extended : Bool) :
    w.Frees (samplePort w port extended).2 [] := by
  rw [samplePort]
  dsimp only
  split <;> exact ⟨rfl, rfl⟩

theorem sample_frees (lane : Lane β) (w : World β σ) : w.Frees (m.sample lane w).2.2 [] :=
  (samplePort_frees w _ _).trans (samplePort_frees _ _ _)

variable [Sink σ]

/-- A record that was not published is counted. -/
theorem publish_counts (lane : Lane β) (w : World β σ) (record : Record) :
    ∃ more, Reads 0 more ∧ lane.Counts (publish lane w record).1 more ∧
      w.Frees (publish lane w record).2 [] := by
  have hfrees := World.Frees.publish w record
  rw [publish]
  split
  · next w' h =>
    rw [h] at hfrees
    exact ⟨0, reads_zero, .refl lane, hfrees⟩
  · next w' h =>
    rw [h] at hfrees
    refine ⟨Pi.single .publishFailures 1, ?_, .count lane 1 _, hfrees⟩
    refine ⟨rfl, ?_⟩
    intro k hd hm hr hp
    simp [hp]

/-- A probe is freed, whether it could be read or not. -/
theorem drainProbe_counts (lane : Lane β) (w : World β σ) (probe : β) :
    ∃ more, Reads 1 more ∧ lane.Counts (drainProbe lane w probe).1 more ∧
      w.Frees (drainProbe lane w probe).2 [probe] := by
  obtain ⟨more, hreads, hcounts, hfrees⟩ := inspect_counts lane w probe
  rw [drainProbe]
  dsimp only
  split
  · next latency _ =>
    obtain ⟨more', hreads', hcounts', hfrees'⟩ :=
      publish_counts (inspect lane w probe).2.1 (inspect lane w probe).2.2
        (latency.record (inspect lane w probe).2.1.context)
    exact ⟨more + more', hreads.add hreads', hcounts.trans hcounts',
      (hfrees.trans hfrees').trans (.release _ _)⟩
  · exact ⟨more, hreads, hcounts, hfrees.trans (.release _ _)⟩

/-- A drain reads and frees all it took. -/
theorem drain_counts (lane : Lane β) (w : World β σ) :
    ∃ more, Reads (m.load lane).1.length more ∧
      (m.load lane).2.Counts (m.drain lane w).2.1 more ∧
      w.Frees (m.drain lane w).2.2 (m.load lane).1 := by
  rw [drain]
  dsimp only
  generalize (m.load lane).2 = lane'
  generalize (m.load lane).1 = burst
  induction burst generalizing lane' w with
  | nil => exact ⟨0, reads_zero, .refl lane', .refl w⟩
  | cons probe burst ih =>
      obtain ⟨more, hreads, hcounts, hfrees⟩ := drainProbe_counts lane' w probe
      obtain ⟨more', hreads', hcounts', hfrees'⟩ :=
        ih (drainProbe lane' w probe).2 (drainProbe lane' w probe).1
      refine ⟨more + more', ?_, hcounts.trans hcounts', hfrees.trans hfrees'⟩
      rw [List.length_cons, Nat.add_comm]
      exact hreads.add hreads'

/-- A sample that was not published is counted. -/
theorem publishSample_counts (lane : Lane β) (w : World β σ) :
    ∃ more, Reads 0 more ∧ lane.Counts (m.publishSample lane w).2.2.1 more ∧
      w.Frees (m.publishSample lane w).2.2.2 [] := by
  obtain ⟨more, hreads, hcounts, hfrees⟩ := publish_counts lane (m.sample lane w).2.2
    ((m.sample lane w).1.record lane.context)
  exact ⟨more, hreads, hcounts, (m.sample_frees lane w).trans hfrees⟩

end Monitor

/-! ## New lanes -/

namespace Settings

variable {s : Settings}

theorem validate_eq_ok (h : s.validate = .ok ()) :
    0 < s.burstSize ∧ s.burstSize ≤ maxBurst ∧ isPowerOfTwo s.ringCapacity = true ∧
      isPowerOfTwo s.statsRingCapacity = true := by
  simp only [validate, bind, Except.bind, pure, Except.pure, throw, throwThe,
    MonadExceptOf.throw] at h
  grind

end Settings

namespace Lane

variable {context : UInt16} {settings : Settings} {names : RingNames} {lane : Lane β}

/-- A lane with open and empty rings that counted nothing. -/
structure Fresh (lane : Lane β) : Prop where
  sound : ∀ role, (lane.ring role).Sound
  toList_eq : ∀ role, (lane.ring role).toList = []
  producerOpen_eq : ∀ role, (lane.ring role).producerOpen = true
  consumerOpen_eq : ∀ role, (lane.ring role).consumerOpen = true
  counters_eq : lane.counters = {}

theorem create_fresh (h : (create context settings names).1 = .ok lane) : lane.Fresh := by
  rw [create] at h
  simp only at h
  split at h
  · cases h
  · next relayRing hrelay =>
    split at h
    · cases h
    · next statsRing hstats =>
      cases h
      obtain ⟨hrsound, hrlist, _⟩ := Ring.create_sound hrelay
      obtain ⟨hssound, hslist, _⟩ := Ring.create_sound hstats
      have hropen := Ring.create_open hrelay
      have hsopen := Ring.create_open hstats
      refine ⟨?_, ?_, ?_, ?_, rfl⟩ <;> intro role <;> cases role
      all_goals simp only [ring, hrsound, hssound, hrlist, hslist, hropen, hsopen]

theorem create_context (h : (create context settings names).1 = .ok lane) :
    lane.context = context := by
  rw [create] at h
  simp only at h
  split at h
  · cases h
  · split at h
    · cases h
    · cases h
      rfl

/-- Valid settings make a lane. -/
theorem create_eq_ok (h : settings.validate = .ok ()) :
    ∃ lane : Lane β, (create context settings names).1 = .ok lane := by
  obtain ⟨_, _, hrelay, hstats⟩ := Settings.validate_eq_ok h
  rw [create]
  dsimp only
  split
  · next e he =>
    rw [Ring.create, if_pos hrelay] at he
    cases he
  · split
    · next e he =>
      rw [Ring.create, if_pos hstats] at he
      cases he
    · exact ⟨_, rfl⟩

end Lane

/-! ## New pipelines -/

namespace Receiver

variable {settings : Settings} {source : Binding} {r : Receiver}

theorem create_reads (h : create settings source = .ok r) :
    r.interface = source.interface ∧ r.queues = source.queues ∧
      r.burstSize = settings.burstSize := by
  simp only [create, bind, Except.bind, pure, Except.pure] at h
  grind

/-- A receiver can be made if the receive policy fits the source queues. -/
theorem create_eq_ok (h : settings.validateSourceQueues source.queues.length = .ok ()) :
    ∃ r, create settings source = .ok r := by
  rw [create, h]
  rw [Settings.validateSourceQueues] at h
  cases hp : settings.rxQueuePolicy with
  | roundRobin => exact ⟨_, rfl⟩
  | fixed index =>
      have hlt : index < source.queues.queues.length := by
        by_contra hle
        simp [hp, QueueSet.length, Nat.le_of_not_lt hle, throw, throwThe,
          MonadExceptOf.throw] at h
      simp [QueueSet.get?, List.getElem?_eq_getElem hlt, bind, Except.bind, pure, Except.pure]

end Receiver

namespace Pipeline

variable {context : UInt16} {settings : Settings} {source destination : Binding}
variable {drainBurst : Nat} {now : UInt64} {p : Pipeline β}

/-- A pipeline with all its stages whose lane did nothing yet. -/
structure Fresh (settings : Settings) (source destination : Binding) (p : Pipeline β) : Prop where
  lane_fresh : p.lane.Fresh
  receiver_eq : ∃ r, p.receiver = some r ∧ r.interface = source.interface ∧
    r.burstSize = settings.burstSize
  transmitter_eq : p.transmitter = some (Transmitter.create settings destination)
  monitor_isSome : p.monitor.isSome

/-- What a new pipeline is made of. -/
theorem create_eq
    (h : create context settings source destination drainBurst now = .ok p) :
    ∃ lane receiver, (Lane.create context settings {}).1 = .ok lane ∧
      Receiver.create settings source = .ok receiver ∧
      p = { lane
            receiver := some receiver
            transmitter := some (Transmitter.create settings destination)
            monitor := some (Monitor.create settings source destination now drainBurst)
            statsPeriodNs := settings.statsPeriodNs } := by
  rw [create] at h
  cases hlane : (Lane.create context settings {} : Except RingError (Lane β) × RingNames).1 with
  | error e => simp [hlane, Except.mapError, bind, Except.bind] at h
  | ok lane =>
      cases hr : Receiver.create settings source with
      | error e => simp [hlane, hr, Except.mapError, bind, Except.bind] at h
      | ok r =>
          simp only [hlane, hr, Except.mapError, bind, Except.bind, pure, Except.pure,
            Except.ok.injEq] at h
          exact ⟨lane, r, rfl, rfl, h.symm⟩

theorem create_fresh
    (h : create context settings source destination drainBurst now = .ok p) :
    p.Fresh settings source destination := by
  obtain ⟨lane, r, hlane, hr, rfl⟩ := create_eq h
  obtain ⟨hinterface, _, hburst⟩ := Receiver.create_reads hr
  exact ⟨Lane.create_fresh hlane, ⟨r, rfl, hinterface, hburst⟩, rfl, rfl⟩

/-- Valid settings whose receive policy fits the source queues make a pipeline. -/
theorem create_eq_ok (h : settings.validate = .ok ())
    (hq : settings.validateSourceQueues source.queues.length = .ok ()) :
    ∃ p : Pipeline β, create context settings source destination drainBurst now = .ok p := by
  obtain ⟨lane, hlane⟩ : ∃ lane : Lane β, (Lane.create context settings {}).1 = .ok lane :=
    Lane.create_eq_ok h
  obtain ⟨r, hr⟩ := Receiver.create_eq_ok hq
  simp [create, hlane, hr, Except.mapError, bind, Except.bind, pure, Except.pure]

end Pipeline

end EtherRelay
