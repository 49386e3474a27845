import EtherRelay.Proofs.Context.Turns
import EtherRelay.Proofs.World.Traffic

/-!
# What the actions of a context reach

An action of a worker takes frames from the source of its context or transmits frames on the
destination, and counts as many. It touches no other interface, lets no time pass, and offers the
sink nothing but records of its own context. `Lane.Flows` says all this of a step, and carries the
numbers of frames that were received and sent.

It is proved once for each stage. From there it passes on to the workers and to the context, whose
workers stay at the interfaces that the context is bound to.
-/

namespace EtherRelay

variable {β σ : Type}

/-- The sink was offered records of one context and nothing else. -/
inductive Sink.Offered [Sink σ] (context : UInt16) (s : σ) : σ → Prop where
  | none : Offered context s s
  | latency {s' : σ} (h : Offered context s s') (latency : Probe.Latency) :
      Offered context s (Sink.publish s' (latency.record context).line).2
  | sample {s' : σ} (h : Offered context s s') (sample : Sample) :
      Offered context s (Sink.publish s' (sample.record context).line).2

theorem Sink.Offered.trans [Sink σ] {context : UInt16} {s s' s'' : σ}
    (h : Sink.Offered context s s') (h' : Sink.Offered context s' s'') :
    Sink.Offered context s s'' := by
  induction h' with
  | none => exact h
  | latency _ latency ih => exact .latency ih latency
  | sample _ sample ih => exact .sample ih sample

/-- A stage of the context that owns the lane receives and sends so many frames, between these two
interfaces. -/
structure Lane.Flows [Sink σ] (source destination received sent : Nat) (lane : Lane β)
    (w : World β σ) (lane' : Lane β) (w' : World β σ) : Prop extends
    World.Hauls source destination received sent w w' where
  context_eq : lane'.context = lane.context
  get_rxPackets : lane'.counters.get .rxPackets =
    lane.counters.get .rxPackets + UInt64.ofNat received
  get_forwarded : lane'.counters.get .forwarded =
    lane.counters.get .forwarded + UInt64.ofNat sent
  wallNs_eq : w'.wallNs = w.wallNs
  offered : Sink.Offered lane.context w.sink w'.sink

/-- The counters that do not tell how many frames were received or sent. -/
def Counter.IsAside (k : Counter) : Prop := k ≠ rxPackets ∧ k ≠ forwarded

instance : DecidablePred Counter.IsAside :=
  fun k => inferInstanceAs (Decidable (k ≠ .rxPackets ∧ k ≠ .forwarded))

section

variable [Sink σ] {source destination received sent : Nat}
variable {lane lane' lane'' : Lane β} {w w' w'' : World β σ}

namespace Lane.Flows

/-- A step that leaves the interfaces and the numbers of frames as they are. -/
theorem aside (hcontext : lane'.context = lane.context)
    (hcounters : lane'.counters = lane.counters) (hinterfaces : w'.interfaces = w.interfaces)
    (hwallNs : w'.wallNs = w.wallNs) (hsink : w'.sink = w.sink) :
    Flows source destination 0 0 lane w lane' w' where
  toHauls := .of_interfaces hinterfaces
  context_eq := hcontext
  get_rxPackets := by rw [hcounters]; exact (UInt64.add_zero _).symm
  get_forwarded := by rw [hcounters]; exact (UInt64.add_zero _).symm
  wallNs_eq := hwallNs
  offered := hsink ▸ .none

theorem refl (lane : Lane β) (w : World β σ) : Flows source destination 0 0 lane w lane w :=
  .aside rfl rfl rfl rfl rfl

theorem trans {received' sent' : Nat} (h : Flows source destination received sent lane w lane' w')
    (h' : Flows source destination received' sent' lane' w' lane'' w'') :
    Flows source destination (received + received') (sent + sent') lane w lane'' w'' where
  toHauls := h.toHauls.trans h'.toHauls
  context_eq := h'.context_eq.trans h.context_eq
  get_rxPackets := by
    rw [h'.get_rxPackets, h.get_rxPackets, UInt64.ofNat_add, UInt64.add_assoc]
  get_forwarded := by
    rw [h'.get_forwarded, h.get_forwarded, UInt64.ofNat_add, UInt64.add_assoc]
  wallNs_eq := h'.wallNs_eq.trans h.wallNs_eq
  offered := h.offered.trans (h.context_eq ▸ h'.offered)

theorem count (h : Flows source destination received sent lane w lane' w') (n : Nat)
    {k : Counter} (hk : k.IsAside) :
    Flows source destination received sent lane w (lane'.count n k) w' := by
  refine { h with get_rxPackets := ?_, get_forwarded := ?_ }
  · rw [Lane.count, Counters.get_add, if_neg (Ne.symm hk.1), h.get_rxPackets]
  · rw [Lane.count, Counters.get_add, if_neg (Ne.symm hk.2), h.get_forwarded]

/-- What happens to the world beside its interfaces, its sink and its time. -/
theorem thenAside (h : Flows source destination received sent lane w lane' w')
    (hinterfaces : w''.interfaces = w'.interfaces) (hwallNs : w''.wallNs = w'.wallNs)
    (hsink : w''.sink = w'.sink) : Flows source destination received sent lane w lane' w'' := by
  have hboth := h.trans (.aside rfl rfl hinterfaces hwallNs hsink)
  rwa [Nat.add_zero, Nat.add_zero] at hboth

theorem note (h : Flows source destination received sent lane w lane' w') (e : Event) :
    Flows source destination received sent lane w lane' (w'.note e) :=
  h.thenAside rfl rfl rfl

theorem release [FrameBuffer β] (h : Flows source destination received sent lane w lane' w')
    (buffers : List β) : Flows source destination received sent lane w lane' (w'.release buffers) :=
  h.thenAside rfl rfl rfl

/-- The worker of the stage goes down at an interface of its context. -/
theorem markFaulted (h : Flows source destination received sent lane w lane' w') {index : Nat}
    (hindex : index = source ∨ index = destination) :
    Flows source destination received sent lane w lane' (w'.markFaulted index) := by
  have hmarked : World.Hauls source destination 0 0 w' (w'.markFaulted index) := by
    refine .modifyInterface hindex ?_ ?_ ?_ w' <;> exact fun _ => rfl
  exact { h with toHauls := h.toHauls.trans hmarked }

/-- Rings change, and nothing else. -/
theorem rings (h : Flows source destination received sent lane w lane' w')
    (hcontext : lane''.context = lane'.context) (hcounters : lane''.counters = lane'.counters) :
    Flows source destination received sent lane w lane'' w' := by
  have hboth := h.trans (.aside hcontext hcounters rfl rfl rfl)
  rwa [Nat.add_zero, Nat.add_zero] at hboth

end Lane.Flows

/-! ## The stages -/

variable [FrameBuffer β]

namespace Receiver

variable (r : Receiver)

theorem admitProbe_flows (lane : Lane β) (w : World β σ) (probe : β) :
    Lane.Flows source destination 0 0 lane w (r.admitProbe lane w probe).2.1
      (r.admitProbe lane w probe).2.2 := by
  rw [admitProbe]
  obtain ⟨refused?, ring⟩ := lane.statsRing.enqueue probe
  have hring : Lane.Flows source destination 0 0 lane w { lane with statsRing := ring } w :=
    (Lane.Flows.refl lane w).rings rfl rfl
  cases refused? with
  | none => exact hring.count 1 (by decide)
  | some refused =>
      dsimp only
      split
      · exact (hring.count 1 (by decide)).release _
      · exact ((hring.count 1 (by decide)).release _).note _

theorem admitProbes_flows (lane : Lane β) (w : World β σ) (probes : List β) :
    Lane.Flows source destination 0 0 lane w (r.admitProbes lane w probes).2.1
      (r.admitProbes lane w probes).2.2 := by
  induction probes generalizing r lane w with
  | nil => exact .refl lane w
  | cons probe probes ih => exact (r.admitProbe_flows lane w probe).trans (ih _ _ _)

theorem admitData_flows (lane : Lane β) (w : World β σ) (data : List β) :
    Lane.Flows source destination 0 0 lane w (r.admitData lane w data).2.1
      (r.admitData lane w data).2.2 := by
  rw [admitData]
  obtain ⟨refused, full?, ring⟩ := lane.relayRing.enqueueBulk data
  have hring : Lane.Flows source destination 0 0 lane w { lane with relayRing := ring } w :=
    (Lane.Flows.refl lane w).rings rfl rfl
  cases full? with
  | none => exact hring.count _ (by decide)
  | some full =>
      dsimp only
      split
      · exact (hring.count _ (by decide)).release _
      · exact ((hring.count _ (by decide)).release _).note _

/-- A poll takes as many frames from the source as it answers. -/
theorem poll_flows (lane : Lane β) (w : World β σ) (destination : Nat) :
    Lane.Flows r.interface destination (r.poll lane w).1 0 lane w (r.poll lane w).2.2.1
      (r.poll lane w).2.2.2 := by
  have hhauls := World.Hauls.receive w r.interface destination r.chooseQueue.1 r.burstSize
  have hsame : (w.receive r.interface r.chooseQueue.1 r.burstSize).2.wallNs = w.wallNs ∧
      (w.receive r.interface r.chooseQueue.1 r.burstSize).2.sink = w.sink := by
    rw [World.receive]
    split <;> exact ⟨rfl, rfl⟩
  rw [poll_eq]
  generalize w.receive r.interface r.chooseQueue.1 r.burstSize = taken at hhauls hsame
  split
  · next hnil =>
    rw [hnil] at hhauls
    exact
      { (Lane.Flows.refl lane w : Lane.Flows r.interface destination 0 0 _ _ _ _) with
        toHauls := hhauls
        wallNs_eq := hsame.1
        offered := hsame.2 ▸ .none }
  · have hcounted : Lane.Flows r.interface destination taken.1.length 0 lane w
        ((lane.count 1 .rxBursts).count taken.1.length .rxPackets) taken.2 :=
      { toHauls := hhauls
        context_eq := rfl
        get_rxPackets := rfl
        get_forwarded := (UInt64.add_zero _).symm
        wallNs_eq := hsame.1
        offered := hsame.2 ▸ .none }
    exact hcounted.trans
      ((r.chooseQueue.2.admitProbes_flows _ _ _).trans (admitData_flows _ _ _ _))

end Receiver

/-- What the interface accepts is sent and counted. -/
theorem Transmitter.send_flows (t : Transmitter) (lane : Lane β) (w : World β σ) (burst : List β)
    (source : Nat) :
    ∃ sent, Lane.Flows source t.interface 0 sent lane w (t.send lane w burst).2.1
      (t.send lane w burst).2.2 := by
  have hhauls := World.Hauls.transmit w source t.interface (t.rotation.queue t.queues) burst
  have hsame : (w.transmit t.interface (t.rotation.queue t.queues) burst).2.2.wallNs = w.wallNs ∧
      (w.transmit t.interface (t.rotation.queue t.queues) burst).2.2.sink = w.sink := by
    rw [World.transmit]
    split <;> exact ⟨rfl, rfl⟩
  rw [send_eq]
  refine ⟨(w.transmit t.interface (t.rotation.queue t.queues) burst).1, ?_⟩
  have hcounted : Lane.Flows source t.interface 0
      (w.transmit t.interface (t.rotation.queue t.queues) burst).1 lane w
      ((lane.count 1 .txBursts).count (w.transmit t.interface (t.rotation.queue t.queues) burst).1
        .forwarded) (w.transmit t.interface (t.rotation.queue t.queues) burst).2.2 :=
    { toHauls := hhauls
      context_eq := rfl
      get_rxPackets := (UInt64.add_zero _).symm
      get_forwarded := rfl
      wallNs_eq := hsame.1
      offered := hsame.2 ▸ .none }
  exact (hcounted.count _ (by decide)).release _

namespace Monitor

theorem inspect_flows (lane : Lane β) (w : World β σ) (probe : β) :
    Lane.Flows source destination 0 0 lane w (inspect lane w probe).2.1
      (inspect lane w probe).2.2 := by
  rw [inspect]
  split
  · exact ((Lane.Flows.refl lane w).count 1 (by decide)).count _ (by decide)
  · exact ((Lane.Flows.refl lane w).count 1 (by decide)).note _

omit [FrameBuffer β] in
/-- The record is offered, whether the sink takes it or not. -/
theorem publish_flows (lane : Lane β) (w : World β σ) {record : Record}
    (h : ∀ s : σ, Sink.Offered lane.context s (Sink.publish s record.line).2) :
    Lane.Flows source destination 0 0 lane w (publish lane w record).1
      (publish lane w record).2 := by
  have hoffered : Lane.Flows source destination 0 0 lane w lane (w.publish record).2 :=
    { (Lane.Flows.refl lane w : Lane.Flows source destination 0 0 _ _ _ _) with
      toHauls := .of_interfaces rfl
      wallNs_eq := rfl
      offered := h w.sink }
  rw [publish]
  split
  · next w' heq =>
    rw [heq] at hoffered
    exact hoffered
  · next w' heq =>
    rw [heq] at hoffered
    exact hoffered.count 1 (by decide)

omit [FrameBuffer β] in
theorem samplePort_flows (lane : Lane β) (w : World β σ) (port : Binding) (extended : Bool) :
    Lane.Flows source destination 0 0 lane w lane (samplePort w port extended).2 := by
  rw [samplePort]
  dsimp only
  split <;> exact (Lane.Flows.refl lane w).thenAside rfl rfl rfl

omit [FrameBuffer β] in
theorem sample_flows (m : Monitor) (lane : Lane β) (w : World β σ) :
    Lane.Flows source destination 0 0 lane w lane (m.sample lane w).2.2 :=
  (samplePort_flows lane w m.source m.extendedHardware).trans
    (samplePort_flows lane _ m.destination m.extendedHardware)

end Monitor

/-! ## The workers -/

theorem ReceiveWorker.step_flows (stop : Bool) (r : ReceiveWorker) (lane : Lane β)
    (w : World β σ) (destination : Nat) :
    ∃ received, Lane.Flows r.stage.interface destination received 0 lane w
      (r.step stop lane w).2.1 (r.step stop lane w).2.2 := by
  rw [ReceiveWorker.step]
  split
  · split
    · exact ⟨0, (Lane.Flows.refl lane w).note _⟩
    · exact ⟨0, .refl lane w⟩
  · split
    · have hclosed : Lane.Flows r.stage.interface destination 0 0 lane w lane.closeReceiver.2 w :=
        (Lane.Flows.refl lane w).rings rfl rfl
      exact ⟨0, (hclosed.markFaulted (.inl rfl)).release _⟩
    · exact ⟨_, r.stage.poll_flows lane w destination⟩
  · exact ⟨0, .refl lane w⟩
  · exact ⟨0, .refl lane w⟩

theorem TransmitWorker.step_flows (stop : Bool) (t : TransmitWorker β) (lane : Lane β)
    (w : World β σ) (source : Nat) :
    ∃ sent, Lane.Flows source t.stage.interface 0 sent lane w (t.step stop lane w).2.1
      (t.step stop lane w).2.2 := by
  rw [TransmitWorker.step]
  split
  · split
    · exact ⟨0, (Lane.Flows.refl lane w).note _⟩
    · exact ⟨0, .refl lane w⟩
  · exact ⟨0, (Lane.Flows.refl lane w).rings rfl rfl⟩
  · split
    · have hclosed : Lane.Flows source t.stage.interface 0 0 lane w lane.closeTransmitter.2 w :=
        (Lane.Flows.refl lane w).rings rfl rfl
      exact ⟨0, ((hclosed.markFaulted (.inr rfl)).release _).release _⟩
    · exact t.stage.send_flows lane w _ source
  · exact ⟨0, .refl lane w⟩
  · exact ⟨0, .refl lane w⟩

namespace StatsWorker

variable (s : StatsWorker β)

theorem sampleIfDue_flows (lane : Lane β) (w : World β σ) :
    Lane.Flows s.stage.source.interface s.stage.destination.interface 0 0 lane w
      (s.sampleIfDue lane w).2.1 (s.sampleIfDue lane w).2.2 := by
  have hclosed : Lane.Flows s.stage.source.interface s.stage.destination.interface 0 0 lane w
      lane.closeMonitor.2 w := (Lane.Flows.refl lane w).rings rfl rfl
  rw [sampleIfDue]
  dsimp only
  split
  · exact .refl lane w
  · split
    · exact (hclosed.markFaulted (.inl rfl)).release _
    · split
      · have hsampled := hclosed.trans
          (Monitor.samplePort_flows lane.closeMonitor.2 w s.stage.source s.stage.extendedHardware)
        exact (hsampled.markFaulted (.inr rfl)).release _
      · exact s.stage.sample_flows lane w

theorem step_flows (stop : Bool) (lane : Lane β) (w : World β σ) :
    Lane.Flows s.stage.source.interface s.stage.destination.interface 0 0 lane w
      (s.step stop lane w).2.1 (s.step stop lane w).2.2 := by
  rw [step]
  split
  · split
    · exact (Lane.Flows.refl lane w).note _
    · exact .refl lane w
  · exact (Lane.Flows.refl lane w).rings rfl rfl
  · exact s.sampleIfDue_flows lane w
  · next probe rest _ =>
    have hinspected : Lane.Flows s.stage.source.interface s.stage.destination.interface 0 0 lane w
        (Monitor.inspect lane w probe).2.1 (Monitor.inspect lane w probe).2.2 :=
      Monitor.inspect_flows lane w probe
    split
    · next heq =>
      rw [heq] at hinspected
      exact hinspected
    · next heq =>
      rw [heq] at hinspected
      exact hinspected.release _
  · next latency probe rest _ =>
    exact (Monitor.publish_flows lane w fun _ => .latency .none latency).release _
  · next sample _ => exact Monitor.publish_flows lane w fun _ => .sample .none sample
  · exact .refl lane w
  · exact .refl lane w

end StatsWorker

/-! ## Where the workers are -/

omit [Sink σ] in
theorem ReceiveWorker.interface_step (stop : Bool) (r : ReceiveWorker) (lane : Lane β)
    (w : World β σ) : (r.step stop lane w).1.stage.interface = r.stage.interface := by
  rw [ReceiveWorker.step]
  split
  · split <;> rfl
  · split
    · rfl
    · exact (r.stage.poll_alike w lane).interface_eq
  · rfl
  · rfl

omit [Sink σ] in
theorem TransmitWorker.interface_step (stop : Bool) (t : TransmitWorker β) (lane : Lane β)
    (w : World β σ) : (t.step stop lane w).1.stage.interface = t.stage.interface := by
  rw [TransmitWorker.step]
  split
  · split <;> rfl
  · rfl
  · split
    · rfl
    · rw [t.stage.send_eq]
  · rfl
  · rfl

/-- Only the time of the last sample changes in a monitor. -/
theorem StatsWorker.ports_step (stop : Bool) (s : StatsWorker β) (lane : Lane β) (w : World β σ) :
    (s.step stop lane w).1.stage.source = s.stage.source ∧
      (s.step stop lane w).1.stage.destination = s.stage.destination := by
  rw [StatsWorker.step]
  split
  · split <;> exact ⟨rfl, rfl⟩
  · exact ⟨rfl, rfl⟩
  · rw [StatsWorker.sampleIfDue]
    dsimp only
    split
    · exact ⟨rfl, rfl⟩
    · split
      · exact ⟨rfl, rfl⟩
      · split <;> exact ⟨rfl, rfl⟩
  · split <;> exact ⟨rfl, rfl⟩
  · exact ⟨rfl, rfl⟩
  · exact ⟨rfl, rfl⟩
  · exact ⟨rfl, rfl⟩
  · exact ⟨rfl, rfl⟩

/-- The workers are at the ends that these bindings name. -/
structure Workers.At (source destination : Binding) (k : Workers β) : Prop where
  receive_eq : k.receive.stage.interface = source.interface
  transmit_eq : k.transmit.stage.interface = destination.interface
  stats_source_eq : k.stats.stage.source = source
  stats_destination_eq : k.stats.stage.destination = destination

namespace Workers.At

variable {source destination : Binding} {k : Workers β}

theorem step (h : k.At source destination) (stop : Bool) (lane : Lane β) (w : World β σ)
    (role : WorkerRole) : (k.step stop lane w role).1.At source destination := by
  cases role with
  | receive =>
      exact { h with receive_eq := (k.receive.interface_step stop lane w).trans h.receive_eq }
  | transmit =>
      exact { h with transmit_eq := (k.transmit.interface_step stop lane w).trans h.transmit_eq }
  | stats =>
      obtain ⟨hsource, hdestination⟩ := k.stats.ports_step stop lane w
      exact
        { h with
          stats_source_eq := hsource.trans h.stats_source_eq
          stats_destination_eq := hdestination.trans h.stats_destination_eq }

theorem step_flows (h : k.At source destination) (stop : Bool) (lane : Lane β) (w : World β σ)
    (role : WorkerRole) :
    ∃ received sent, Lane.Flows source.interface destination.interface received sent lane w
      (k.step stop lane w role).2.1 (k.step stop lane w role).2.2 := by
  cases role with
  | receive =>
      obtain ⟨received, hflows⟩ := k.receive.step_flows stop lane w destination.interface
      rw [h.receive_eq] at hflows
      exact ⟨received, 0, hflows⟩
  | transmit =>
      obtain ⟨sent, hflows⟩ := k.transmit.step_flows stop lane w source.interface
      rw [h.transmit_eq] at hflows
      exact ⟨0, sent, hflows⟩
  | stats =>
      have hflows := k.stats.step_flows stop lane w
      rw [h.stats_source_eq, h.stats_destination_eq] at hflows
      exact ⟨0, 0, hflows⟩

end Workers.At

namespace Context

/-- The stages of a context are at the interfaces that it is bound to. -/
def Wired (c : Context β) : Prop :=
  match c.body with
  | .created receiver transmitter =>
    receiver.interface = c.source.interface ∧ transmitter.interface = c.destination.interface
  | .running k => k.At c.source c.destination
  | _ => True

/-- Two states of a context that has the same name and the same ends in both. -/
structure SameEnds (c c' : Context β) : Prop where
  id_eq : c'.id = c.id
  source_eq : c'.source = c.source
  destination_eq : c'.destination = c.destination
  sourceId_eq : c'.sourceId = c.sourceId
  destinationId_eq : c'.destinationId = c.destinationId

variable {c c' : Context β}

omit [FrameBuffer β] [Sink σ] in
/-- A new context takes the names of its ends from the world. -/
theorem wired_create {id : UInt16} {source destination : Binding} {settings : Settings}
    {names : RingNames} (h : (create id source destination settings names w).1 = .ok c) :
    c.Wired ∧ c.id = id ∧ c.lane.counters = {} ∧
      c.sourceId = w.interfaceId c.source.interface ∧
      c.destinationId = w.interfaceId c.destination.interface := by
  rw [create] at h
  split at h
  · cases h
  · split at h
    · cases h
    · next lane _ hlane =>
      have hcontext := Lane.create_context (congrArg Prod.fst hlane)
      have hfresh := Lane.create_fresh (congrArg Prod.fst hlane)
      split at h
      · cases h
      · next receiver hreceiver =>
        cases h
        exact ⟨⟨(Receiver.create_reads hreceiver).1, rfl⟩, hcontext, hfresh.counters_eq, rfl, rfl⟩

/-- An action of a worker is a flow between the ends of its context. -/
theorem stepWorker_flows (h : c.Wired) (role : WorkerRole) (w : World β σ) :
    (c.stepWorker role w).1.Wired ∧ c.SameEnds (c.stepWorker role w).1 ∧
      ∃ received sent, Lane.Flows c.source.interface c.destination.interface received sent
        c.lane w (c.stepWorker role w).1.lane (c.stepWorker role w).2 := by
  cases hbody : c.body with
  | running k =>
      rw [Wired, hbody] at h
      obtain ⟨received, sent, hflows⟩ :=
        h.step_flows c.lifecycle.stopRequested c.lane { w with log := [] } role
      have hsilent : Lane.Flows c.source.interface c.destination.interface 0 0 c.lane w c.lane
          { w with log := [] } := .aside rfl rfl rfl rfl rfl
      rw [stepWorker_eq hbody]
      exact ⟨h.step _ _ _ role, ⟨hflows.context_eq, rfl, rfl, rfl, rfl⟩, _, _,
        (hsilent.trans hflows).thenAside rfl rfl rfl⟩
  | _ =>
      have hstep : c.stepWorker role w = (c, w) := by
        simp only [stepWorker, hbody]
      rw [hstep]
      exact ⟨h, ⟨rfl, rfl, rfl, rfl, rfl⟩, 0, 0, .refl _ _⟩

end Context

end

end EtherRelay
