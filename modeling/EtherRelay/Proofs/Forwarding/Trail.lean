import EtherRelay.Proofs.Forwarding.Delivery
import EtherRelay.Proofs.Forwarding.Ledger
import EtherRelay.Proofs.Probe.Latency

/-!
# Probes on their way to the sink

A trail runs any sequence of calls on a pipeline whose sink keeps every record, and keeps the
probes that were admitted to the stats ring and those that were drained from it. The main
statement says that the drained probes are the first of the admitted ones, that each of them
left one latency record or was counted as malformed, and that the records are in the order of
their probes.

The receiver decides by the header of a frame and the monitor by the whole frame. They agree on
headers, so nothing is malformed but a probe that is too short for its counters.
-/

namespace EtherRelay

variable {β σ : Type}

/-! ## Steps that publish nothing -/

namespace World

variable (w : World β σ) (index : Nat) (queue : QueueId)

theorem sink_receive (max : Nat) : (w.receive index queue max).2.sink = w.sink := by
  rw [receive]
  split <;> rfl

theorem sink_takeTransmitted : (w.takeTransmitted index queue).2.sink = w.sink := by
  rw [takeTransmitted]
  split <;> rfl

variable [FrameBuffer β]

theorem sink_inject (burst : List β) : (w.inject index queue burst).2.sink = w.sink := by
  rw [inject]
  split <;> rfl

theorem sink_transmit (burst : List β) : (w.transmit index queue burst).2.2.sink = w.sink := by
  rw [transmit]
  split <;> rfl

end World

namespace Receiver

variable [FrameBuffer β] (r : Receiver) (lane : Lane β) (w : World β σ)

theorem sink_admitProbe (probe : β) : (r.admitProbe lane w probe).2.2.sink = w.sink := by
  rw [admitProbe]
  split
  · rfl
  · dsimp only
    split <;> rfl

theorem sink_admitProbes (probes : List β) :
    (r.admitProbes lane w probes).2.2.sink = w.sink := by
  induction probes generalizing r lane w with
  | nil => rfl
  | cons probe probes ih => exact (ih _ _ _).trans (r.sink_admitProbe lane w probe)

theorem sink_admitData (data : List β) : (r.admitData lane w data).2.2.sink = w.sink := by
  rw [admitData]
  split
  · rfl
  · dsimp only
    split <;> rfl

theorem sink_distribute (burst : List β) : (r.distribute lane w burst).2.2.sink = w.sink :=
  (sink_admitData _ _ _ _).trans (r.sink_admitProbes _ w _)

end Receiver

/-! ## New pipelines -/

variable {context : UInt16} {settings : Settings}

theorem Pipeline.create_context {source destination : Binding} {drainBurst : Nat} {now : UInt64}
    {p : Pipeline β} (h : create context settings source destination drainBurst now = .ok p) :
    p.lane.context = context := by
  obtain ⟨lane, r, hlane, _, rfl⟩ := create_eq h
  exact Lane.create_context hlane

/-! ## Steps of a lane -/

variable [FrameBuffer β]

namespace Lane

/-- Whether the counters of a probe can be read. -/
def readable (probe : β) : Bool := (Probe.Stamps.decode (FrameBuffer.frame probe)).isOk

/-- A step admits the probes of `admitted` to the stats ring and reads those of `drained`. Both
are counted, and the sink gets one line for each of the read probes that is readable. -/
structure Traces (admitted drained : List β) (lane : Lane β) (w : World β MemorySink)
    (lane' : Lane β) (w' : World β MemorySink) : Prop where
  context_eq : lane'.context = lane.context
  enqueued_eq : lane'.counters.probesEnqueued =
    lane.counters.probesEnqueued + UInt64.ofNat admitted.length
  decoded_eq : lane'.counters.probesDecoded =
    lane.counters.probesDecoded + UInt64.ofNat (drained.filter readable).length
  malformed_eq : lane'.counters.malformedProbes =
    lane.counters.malformedProbes + UInt64.ofNat (drained.filter (!readable ·)).length
  failures_eq : lane'.counters.publishFailures = lane.counters.publishFailures
  closed_eq : w'.sink.closed = w.sink.closed
  records_eq : w'.sink.recordsFor latencyMeasurement = w.sink.recordsFor latencyMeasurement ++
    (drained.filter readable).map fun probe =>
      Probe.latencyLine lane.context (FrameBuffer.frame probe)

namespace Traces

variable {admitted admitted' drained drained' : List β} {lane lane' lane'' : Lane β}
variable {w w' w'' : World β MemorySink}

/-- A step that leaves alone the counters of probes, and the sink. -/
theorem of_eq (hcontext : lane'.context = lane.context)
    (henqueued : lane'.counters.probesEnqueued = lane.counters.probesEnqueued)
    (hdecoded : lane'.counters.probesDecoded = lane.counters.probesDecoded)
    (hmalformed : lane'.counters.malformedProbes = lane.counters.malformedProbes)
    (hfailures : lane'.counters.publishFailures = lane.counters.publishFailures)
    (hsink : w'.sink = w.sink) : Traces [] [] lane w lane' w' where
  context_eq := hcontext
  enqueued_eq := henqueued.trans (UInt64.add_zero _).symm
  decoded_eq := hdecoded.trans (UInt64.add_zero _).symm
  malformed_eq := hmalformed.trans (UInt64.add_zero _).symm
  failures_eq := hfailures
  closed_eq := by rw [hsink]
  records_eq := by rw [hsink]; exact (List.append_nil _).symm

theorem refl (hsink : w'.sink = w.sink) : Traces [] [] lane w lane w' :=
  of_eq rfl rfl rfl rfl rfl hsink

theorem trans (h : Traces admitted drained lane w lane' w')
    (h' : Traces admitted' drained' lane' w' lane'' w'') :
    Traces (admitted ++ admitted') (drained ++ drained') lane w lane'' w'' where
  context_eq := h'.context_eq.trans h.context_eq
  enqueued_eq := by
    rw [h'.enqueued_eq, h.enqueued_eq, List.length_append, UInt64.ofNat_add, UInt64.add_assoc]
  decoded_eq := by
    rw [h'.decoded_eq, h.decoded_eq, List.filter_append, List.length_append, UInt64.ofNat_add,
      UInt64.add_assoc]
  malformed_eq := by
    rw [h'.malformed_eq, h.malformed_eq, List.filter_append, List.length_append,
      UInt64.ofNat_add, UInt64.add_assoc]
  failures_eq := h'.failures_eq.trans h.failures_eq
  closed_eq := h'.closed_eq.trans h.closed_eq
  records_eq := by
    rw [h'.records_eq, h.records_eq, h.context_eq, List.filter_append, List.map_append,
      List.append_assoc]

end Traces

end Lane

namespace Receiver

variable (r : Receiver) {lane : Lane β} (w : World β MemorySink)

/-- A poll admits the probes of its burst for which the stats ring has room. -/
theorem poll_traces (hrelay : lane.relayRing.Sound) (hstats : lane.statsRing.Sound) :
    Lane.Traces
      (lane.probesAdmitted (w.receive r.interface r.chooseQueue.1 r.burstSize).1) [] lane w
      (r.poll lane w).2.2.1 (r.poll lane w).2.2.2 := by
  have hreceived := w.sink_receive r.interface r.chooseQueue.1 r.burstSize
  rw [poll_eq]
  split
  · next hnil =>
    rw [hnil]
    simpa [Lane.probesAdmitted] using Lane.Traces.refl hreceived
  · generalize (w.receive r.interface r.chooseQueue.1 r.burstSize).1 = burst
    have hd := r.chooseQueue.2.distribute_distributes
      (w.receive r.interface r.chooseQueue.1 r.burstSize).2 burst hrelay hstats
    have hsink := (r.chooseQueue.2.sink_distribute lane
      (w.receive r.interface r.chooseQueue.1 r.burstSize).2 burst).trans hreceived
    refine ⟨hd.context_eq, ?_, ?_, ?_, ?_, by rw [hsink], by rw [hsink]; simp⟩
    all_goals
      rw [hd.counters_eq]
      simp [Counters.add]

end Receiver

namespace Transmitter

variable (t : Transmitter) (lane : Lane β) (w : World β MemorySink)

theorem poll_traces :
    Lane.Traces [] [] lane w (t.poll lane w).2.2.1 (t.poll lane w).2.2.2 := by
  rw [poll_eq]
  split
  · exact .of_eq rfl rfl rfl rfl rfl rfl
  · have hsink := w.sink_transmit t.interface (t.rotation.queue t.queues) (t.load lane).1
    rw [send_eq]
    dsimp only
    refine .of_eq rfl ?_ ?_ ?_ ?_ hsink
    all_goals
      simp only [Lane.count, Counters.add]
      rfl

theorem statsRing_poll : (t.poll lane w).2.2.1.statsRing = lane.statsRing := by
  rw [poll_eq]
  split
  · rfl
  · rw [send_eq]
    rfl

end Transmitter

namespace Monitor

variable (m : Monitor) (lane : Lane β) (w : World β MemorySink)

omit [FrameBuffer β] in
/-- An open sink takes every record. -/
theorem publish_open (h : w.sink.closed = false) (record : Record) :
    publish lane w record = (lane, { w with sink := (w.sink.publish record.line).2 }) := by
  simp [publish, World.publish, Sink.publish, MemorySink.publish, h]

/-- A readable probe leaves its line, and any other one is counted as malformed. -/
theorem drainProbe_traces (h : w.sink.closed = false) (probe : β) :
    Lane.Traces [] [probe] lane w (drainProbe lane w probe).1 (drainProbe lane w probe).2 := by
  cases hdecode : Probe.Stamps.decode (FrameBuffer.frame probe) with
  | ok stamps =>
      have hreadable : [probe].filter Lane.readable = [probe] := by
        simp [Lane.readable, hdecode, Except.isOk, Except.toBool]
      have hnone : [probe].filter (!Lane.readable ·) = [] := by
        simp [Lane.readable, hdecode, Except.isOk, Except.toBool]
      have hline := Probe.line_of_decode hdecode lane.context
      have hrecords := MemorySink.recordsFor_publish (r := stamps.latency.record lane.context) h rfl
      simp only [drainProbe, inspect, hdecode, publish_open _ _ h]
      refine ⟨rfl, ?_, ?_, ?_, rfl, ?_, ?_⟩
      · exact (UInt64.add_zero _).symm
      · rw [hreadable]
        rfl
      · rw [hnone]
        exact (UInt64.add_zero _).symm
      · simp [World.release, MemorySink.publish, h]
      · rw [hreadable, List.map_singleton, ← hline]
        exact hrecords
  | error e =>
      have hreadable : [probe].filter Lane.readable = [] := by
        simp [Lane.readable, hdecode, Except.isOk, Except.toBool]
      have hnone : [probe].filter (!Lane.readable ·) = [probe] := by
        simp [Lane.readable, hdecode, Except.isOk, Except.toBool]
      simp only [drainProbe, inspect, hdecode]
      refine ⟨rfl, ?_, ?_, ?_, rfl, rfl, ?_⟩
      · exact (UInt64.add_zero _).symm
      · rw [hreadable]
        exact (UInt64.add_zero _).symm
      · rw [hnone]
        rfl
      · rw [hreadable]
        exact (List.append_nil _).symm

/-- Probes are read one after another. -/
theorem drainAll_traces (h : w.sink.closed = false) (burst : List β) :
    Lane.Traces [] burst lane w
      (burst.foldl (fun (lane, w) probe => drainProbe lane w probe) (lane, w)).1
      (burst.foldl (fun (lane, w) probe => drainProbe lane w probe) (lane, w)).2 := by
  induction burst generalizing lane w with
  | nil => exact .refl rfl
  | cons probe burst ih =>
      have hfirst := drainProbe_traces lane w h probe
      exact hfirst.trans (ih (drainProbe lane w probe).1 (drainProbe lane w probe).2
        (hfirst.closed_eq.trans h))

theorem drain_traces (h : w.sink.closed = false) :
    Lane.Traces [] (m.load lane).1 lane w (m.drain lane w).2.1 (m.drain lane w).2.2 := by
  have hload : Lane.Traces [] [] lane w (m.load lane).2 w := .of_eq rfl rfl rfl rfl rfl rfl
  exact hload.trans (drainAll_traces (m.load lane).2 w h (m.load lane).1)

omit [FrameBuffer β] in
theorem samplePort_sink (port : Binding) (extended : Bool) :
    (samplePort w port extended).2.sink = w.sink := by
  rw [samplePort]
  dsimp only
  split <;> rfl

omit [FrameBuffer β] in
theorem sample_sink : (m.sample lane w).2.2.sink = w.sink :=
  (samplePort_sink _ _ _).trans (samplePort_sink _ _ _)

/-- A sample that is published is no latency record. -/
theorem publishSample_traces (h : w.sink.closed = false) :
    Lane.Traces [] [] lane w (m.publishSample lane w).2.2.1 (m.publishSample lane w).2.2.2 := by
  have hsink := m.sample_sink lane w
  have hopen : (m.sample lane w).2.2.sink.closed = false := hsink ▸ h
  have hrecords := MemorySink.recordsFor_publish_stats
    (r := (m.sample lane w).1.record lane.context) hopen rfl
  simp only [publishSample, publish_open _ _ hopen]
  refine ⟨rfl, (UInt64.add_zero _).symm, (UInt64.add_zero _).symm, (UInt64.add_zero _).symm, rfl,
    ?_, ?_⟩
  · simp [MemorySink.publish, hopen, h]
  · rw [List.filter_nil, List.map_nil, List.append_nil, hrecords, hsink]

end Monitor

/-! ## Trails -/

namespace Trail

/-- A call on a pipeline or on an interface around it, samples included. -/
inductive Call (β : Type) where
  | deliver (call : Delivery.Call β)
  | sample
  | publishSample

end Trail

/-- A delivery to a sink that keeps its records, with the probes that came by so far. -/
structure Trail (β : Type) where
  delivery : Delivery β MemorySink
  /-- The probes that were admitted to the stats ring. -/
  admitted : List β := []
  /-- The probes that were taken out of the stats ring. -/
  drained : List β := []

namespace Trail

/-- What a call makes of a delivery. -/
def after (d : Delivery β MemorySink) : Call β → Delivery β MemorySink
  | .deliver call => d.step call
  | .sample =>
    let (_, pipeline, world) := d.pipeline.sample d.world
    { d with pipeline, world }
  | .publishSample =>
    let (_, pipeline, world) := d.pipeline.publishSample d.world
    { d with pipeline, world }

/-- The probes that a call puts behind those that wait in the stats ring. -/
def admits (d : Delivery β MemorySink) : Call β → List β
  | .deliver .receive =>
    (d.step .receive).pipeline.lane.statsRing.toList.drop d.pipeline.lane.statsRing.toList.length
  | _ => []

/-- The probes that a call takes out of the stats ring. -/
def drains (d : Delivery β MemorySink) : Call β → List β
  | .deliver .drain => (d.pipeline.monitor.map fun m => (m.load d.pipeline.lane).1).getD []
  | _ => []

/-- Make one call. -/
def step (t : Trail β) (call : Call β) : Trail β where
  delivery := after t.delivery call
  admitted := t.admitted ++ admits t.delivery call
  drained := t.drained ++ drains t.delivery call

/-- Make calls in order. -/
def run (t : Trail β) (calls : List (Call β)) : Trail β := calls.foldl step t

/-- A call on a delivery that admits `admitted` and drains `drained`. -/
structure Advances (d d' : Delivery β MemorySink) (admitted drained : List β) : Prop where
  accounts : ∃ burstSize received, d'.pipeline.Accounts burstSize received
  traces : Lane.Traces admitted drained d.pipeline.lane d.world d'.pipeline.lane d'.world
  queued_append : d.pipeline.lane.statsRing.toList ++ admitted =
    drained ++ d'.pipeline.lane.statsRing.toList
  received_append : ∃ new, d'.received = d.received ++ new ∧
    admitted.Sublist ((new.map Prod.snd).filter Receiver.isProbe)

variable {d : Delivery β MemorySink} {burstSize received : Nat}

/-- A call that leaves the lane alone and publishes nothing. -/
theorem advances_of_eq {d' : Delivery β MemorySink}
    (h : d.pipeline.Accounts burstSize received) (hpipeline : d'.pipeline = d.pipeline)
    (hsink : d'.world.sink = d.world.sink) (hreceived : d'.received = d.received) :
    Advances d d' [] [] where
  accounts := ⟨burstSize, received, hpipeline ▸ h⟩
  traces := by
    rw [hpipeline]
    exact .refl hsink
  queued_append := by rw [hpipeline, List.append_nil, List.nil_append]
  received_append := ⟨[], by rw [hreceived, List.append_nil], .refl _⟩

theorem advances_receive (h : d.pipeline.Accounts burstSize received) :
    Advances d (d.step .receive) (admits d (.deliver .receive)) [] := by
  have haccounts := h.receive d.world
  cases hr : d.pipeline.receiver with
  | none =>
      have hsame : d.step .receive = d := by
        simp [Delivery.step, Pipeline.receive, hr]
      have hnone : admits d (.deliver .receive) = [] := by
        rw [admits, hsame, List.drop_length]
      rw [hsame, hnone]
      exact advances_of_eq h rfl rfl rfl
  | some r =>
      have hpasses := r.poll_passes d.world h.lane_accounts.relay_sound
        h.lane_accounts.stats_sound
      have htraces := r.poll_traces d.world h.lane_accounts.relay_sound
        h.lane_accounts.stats_sound
      have hlane : (d.step .receive).pipeline.lane = (r.poll d.pipeline.lane d.world).2.2.1 := by
        simp [Delivery.step, Pipeline.receive, hr]
      have hworld : (d.step .receive).world = (r.poll d.pipeline.lane d.world).2.2.2 := by
        simp [Delivery.step, Pipeline.receive, hr]
      have hreceived : (d.step .receive).received = d.received ++ Delivery.polled r d.world := by
        simp [Delivery.step, hr]
      -- What is new at the end of the stats ring is what the poll admitted.
      have hadmits : admits d (.deliver .receive) = d.pipeline.lane.probesAdmitted
          (d.world.receive r.interface r.chooseQueue.1 r.burstSize).1 := by
        rw [admits, hlane, hpasses.stats_toList, List.drop_left]
      refine ⟨⟨_, _, haccounts⟩, ?_, ?_, _, hreceived, ?_⟩
      · rw [hlane, hworld, hadmits]
        exact htraces
      · rw [hlane, hadmits, hpasses.stats_toList, List.nil_append]
      · rw [hadmits, Delivery.polled, Delivery.map_snd_tag]
        exact List.take_sublist _ _

theorem advances_transmit (h : d.pipeline.Accounts burstSize received) :
    Advances d (d.step .transmit) [] [] := by
  have haccounts := h.transmit d.world
  cases ht : d.pipeline.transmitter with
  | none =>
      have hsame : d.step .transmit = d := by
        simp [Delivery.step, Pipeline.transmit, ht]
      rw [hsame]
      exact advances_of_eq h rfl rfl rfl
  | some t =>
      have hlane : (d.step .transmit).pipeline.lane =
          (t.poll d.pipeline.lane d.world).2.2.1 := by
        simp [Delivery.step, Pipeline.transmit, ht]
      have hworld : (d.step .transmit).world = (t.poll d.pipeline.lane d.world).2.2.2 := by
        simp [Delivery.step, Pipeline.transmit, ht]
      refine ⟨⟨_, _, haccounts⟩, ?_, ?_, [], (List.append_nil _).symm, .refl _⟩
      · rw [hlane, hworld]
        exact t.poll_traces d.pipeline.lane d.world
      · rw [hlane, t.statsRing_poll, List.append_nil, List.nil_append]

theorem advances_drain (h : d.pipeline.Accounts burstSize received)
    (hopen : d.world.sink.closed = false) :
    Advances d (d.step .drain) [] (drains d (.deliver .drain)) := by
  have haccounts := h.drain d.world
  cases hm : d.pipeline.monitor with
  | none =>
      have hsame : d.step .drain = d := by
        simp [Delivery.step, Pipeline.drain, hm]
      rw [hsame, drains, hm]
      exact advances_of_eq h rfl rfl rfl
  | some m =>
      have hlane : (d.step .drain).pipeline.lane = (m.drain d.pipeline.lane d.world).2.1 := by
        simp [Delivery.step, Pipeline.drain, hm]
      have hworld : (d.step .drain).world = (m.drain d.pipeline.lane d.world).2.2 := by
        simp [Delivery.step, Pipeline.drain, hm]
      have htakes := m.load_takes h.lane_accounts.stats_sound
      have hlist : d.pipeline.lane.statsRing.toList =
          (m.load d.pipeline.lane).1 ++ (m.load d.pipeline.lane).2.statsRing.toList :=
        htakes.toList_eq
      obtain ⟨_, _, hcounts, _⟩ := m.drain_counts d.pipeline.lane d.world
      have hdrains : drains d (.deliver .drain) = (m.load d.pipeline.lane).1 := by
        rw [drains, hm]
        rfl
      refine ⟨⟨_, _, haccounts⟩, ?_, ?_, [], (List.append_nil _).symm, .refl _⟩
      · rw [hlane, hworld, hdrains]
        exact m.drain_traces d.pipeline.lane d.world hopen
      · rw [hlane, hdrains, hcounts.statsRing_eq, List.append_nil, hlist]

theorem advances_sample (h : d.pipeline.Accounts burstSize received) :
    Advances d (after d .sample) [] [] := by
  have haccounts := h.sample d.world
  cases hm : d.pipeline.monitor with
  | none =>
      have hsame : after d .sample = d := by
        simp [after, Pipeline.sample, hm]
      rw [hsame]
      exact advances_of_eq h rfl rfl rfl
  | some m =>
      have hlane : (after d .sample).pipeline.lane = d.pipeline.lane := by
        simp [after, Pipeline.sample, hm]
      have hworld : (after d .sample).world = (m.sample d.pipeline.lane d.world).2.2 := by
        simp [after, Pipeline.sample, hm]
      refine ⟨⟨_, _, haccounts⟩, ?_, ?_, [], (List.append_nil _).symm, .refl _⟩
      · rw [hlane, hworld]
        exact .refl (m.sample_sink d.pipeline.lane d.world)
      · rw [hlane, List.append_nil, List.nil_append]

theorem advances_publishSample (h : d.pipeline.Accounts burstSize received)
    (hopen : d.world.sink.closed = false) : Advances d (after d .publishSample) [] [] := by
  have haccounts := h.publishSample d.world
  cases hm : d.pipeline.monitor with
  | none =>
      have hsame : after d .publishSample = d := by
        simp [after, Pipeline.publishSample, hm]
      rw [hsame]
      exact advances_of_eq h rfl rfl rfl
  | some m =>
      have hlane : (after d .publishSample).pipeline.lane =
          (m.publishSample d.pipeline.lane d.world).2.2.1 := by
        simp [after, Pipeline.publishSample, hm]
      have hworld : (after d .publishSample).world =
          (m.publishSample d.pipeline.lane d.world).2.2.2 := by
        simp [after, Pipeline.publishSample, hm]
      obtain ⟨_, _, hcounts, _⟩ := m.publishSample_counts d.pipeline.lane d.world
      refine ⟨⟨_, _, haccounts⟩, ?_, ?_, [], (List.append_nil _).symm, .refl _⟩
      · rw [hlane, hworld]
        exact m.publishSample_traces d.pipeline.lane d.world hopen
      · rw [hlane, hcounts.statsRing_eq, List.append_nil, List.nil_append]

/-- Every call admits probes at the end of the stats ring and drains them from its front. -/
theorem advances (h : d.pipeline.Accounts burstSize received)
    (hopen : d.world.sink.closed = false) (call : Call β) :
    Advances d (after d call) (admits d call) (drains d call) := by
  cases call with
  | sample => exact advances_sample h
  | publishSample => exact advances_publishSample h hopen
  | deliver call =>
      cases call with
      | receive => exact advances_receive h
      | transmit => exact advances_transmit h
      | drain => exact advances_drain h hopen
      | inject interface queue burst =>
          have hsink := d.world.sink_inject interface queue burst
          refine advances_of_eq h ?_ ?_ ?_ <;> dsimp only [after, Delivery.step] <;> split <;>
            first | rfl | exact hsink
      | setTxLimit interface queue limit => exact advances_of_eq h rfl rfl rfl
      | takeTransmitted interface queue =>
          have hsink := d.world.sink_takeTransmitted interface queue
          refine advances_of_eq h ?_ ?_ ?_ <;> dsimp only [after, Delivery.step] <;> split <;>
            first | rfl | exact hsink

/-! ## Runs -/

/-- What the calls so far made of a lane and a world with an open sink. -/
structure Kept (lane : Lane β) (w : World β MemorySink) (t : Trail β) : Prop where
  accounts : ∃ burstSize received, t.delivery.pipeline.Accounts burstSize received
  open_eq : t.delivery.world.sink.closed = false
  traces : Lane.Traces t.admitted t.drained lane w t.delivery.pipeline.lane t.delivery.world
  admitted_eq : t.admitted = t.drained ++ t.delivery.pipeline.lane.statsRing.toList
  admitted_sublist :
    t.admitted.Sublist ((t.delivery.received.map Prod.snd).filter Receiver.isProbe)

variable {t : Trail β} {lane : Lane β} {w : World β MemorySink}

theorem Kept.step (h : t.Kept lane w) (call : Call β) : (t.step call).Kept lane w := by
  obtain ⟨burstSize, received, haccounts⟩ := h.accounts
  have hnext := advances haccounts h.open_eq call
  obtain ⟨new, hreceived, hsub⟩ := hnext.received_append
  refine ⟨hnext.accounts, hnext.traces.closed_eq.trans h.open_eq, h.traces.trans hnext.traces,
    ?_, ?_⟩
  · rw [Trail.step, h.admitted_eq, List.append_assoc, hnext.queued_append, List.append_assoc]
  · rw [Trail.step]
    dsimp only
    rw [hreceived, List.map_append, List.filter_append]
    exact h.admitted_sublist.append hsub

theorem Kept.run (h : t.Kept lane w) (calls : List (Call β)) : (t.run calls).Kept lane w := by
  induction calls generalizing t with
  | nil => exact h
  | cons call calls ih => exact ih (h.step call)

/-- A delivery before any call, and no probe that came by. -/
def start (source destination : Binding) (pipeline : Pipeline β) (w : World β MemorySink) :
    Trail β where
  delivery := .start source destination pipeline w

/-- What became of the probes of a context whose sink had the latency records `earlier`. -/
structure Traced (context : UInt16) (earlier : List String) (t : Trail β) : Prop where
  /-- Only probes that were received are admitted, and in the order in which they came. -/
  admitted_sublist :
    t.admitted.Sublist ((t.delivery.received.map Prod.snd).filter Receiver.isProbe)
  /-- The first of the admitted probes were drained, and the others still wait. -/
  admitted_eq : t.admitted = t.drained ++ t.delivery.pipeline.lane.statsRing.toList
  /-- Each readable probe among the drained ones left one record. -/
  records_eq : t.delivery.world.sink.recordsFor latencyMeasurement =
    earlier ++ (t.drained.filter Lane.readable).map fun probe =>
      Probe.latencyLine context (FrameBuffer.frame probe)
  /-- Each of the others was counted once as malformed. -/
  malformed_eq : t.delivery.pipeline.lane.counters.malformedProbes =
    UInt64.ofNat (t.drained.filter (!Lane.readable ·)).length
  decoded_eq : t.delivery.pipeline.lane.counters.probesDecoded =
    UInt64.ofNat (t.drained.filter Lane.readable).length
  enqueued_eq : t.delivery.pipeline.lane.counters.probesEnqueued =
    UInt64.ofNat t.admitted.length
  failures_eq : t.delivery.pipeline.lane.counters.publishFailures = 0
  /-- A probe is readable just if it is long enough. -/
  readable_iff : ∀ probe ∈ t.admitted,
    Lane.readable probe = true ↔ 66 ≤ (FrameBuffer.frame probe).length
  /-- A probe has its header, and nothing but its length can be wrong with it. -/
  error_eq : ∀ probe ∈ t.admitted, ∀ e, Probe.Stamps.decode (FrameBuffer.frame probe) = .error e →
    18 ≤ (FrameBuffer.frame probe).length ∧ (FrameBuffer.frame probe).length < 66 ∧
      e = .truncated (FrameBuffer.frame probe).length 66

/-- What passes the header check of the receiver passes that of the monitor. -/
theorem isProbe_cases {probe : β} (h : Receiver.isProbe probe = true) :
    18 ≤ (FrameBuffer.frame probe).length ∧
      (66 ≤ (FrameBuffer.frame probe).length ∧ Lane.readable probe = true ∨
        (FrameBuffer.frame probe).length < 66 ∧ Lane.readable probe = false ∧
          Probe.Stamps.decode (FrameBuffer.frame probe) =
            .error (.truncated (FrameBuffer.frame probe).length 66)) := by
  refine ⟨(Probe.isProbe_eq_true_iff.mp h).1, ?_⟩
  have hdecode := Probe.decode_of_isProbe h
  by_cases hshort : (FrameBuffer.frame probe).length < Probe.frameLength
  · rw [if_pos hshort] at hdecode
    exact .inr ⟨hshort, by rw [Lane.readable, hdecode]; rfl, hdecode⟩
  · rw [if_neg hshort] at hdecode
    exact .inl ⟨Nat.le_of_not_lt hshort, by rw [Lane.readable, hdecode]; rfl⟩

theorem Kept.traced (h : t.Kept lane w) (hcounters : lane.counters = {}) :
    t.Traced lane.context (w.sink.recordsFor latencyMeasurement) := by
  have hprobe : ∀ probe ∈ t.admitted, Receiver.isProbe probe = true := by
    intro probe hmem
    exact (List.mem_filter.mp (h.admitted_sublist.subset hmem)).2
  refine
    { admitted_sublist := h.admitted_sublist
      admitted_eq := h.admitted_eq
      records_eq := h.traces.records_eq
      malformed_eq := ?_
      decoded_eq := ?_
      enqueued_eq := ?_
      failures_eq := ?_
      readable_iff := ?_
      error_eq := ?_ }
  · rw [h.traces.malformed_eq, hcounters, UInt64.zero_add]
  · rw [h.traces.decoded_eq, hcounters, UInt64.zero_add]
  · rw [h.traces.enqueued_eq, hcounters, UInt64.zero_add]
  · rw [h.traces.failures_eq, hcounters]
  · intro probe hmem
    obtain ⟨_, ⟨hlong, hreadable⟩ | ⟨hshort, hreadable, _⟩⟩ := isProbe_cases (hprobe probe hmem)
    · exact iff_of_true hreadable hlong
    · rw [hreadable]
      exact iff_of_false Bool.false_ne_true (Nat.not_le.mpr hshort)
  · intro probe hmem e he
    obtain ⟨hheader, ⟨_, hreadable⟩ | ⟨hshort, _, hdecode⟩⟩ := isProbe_cases (hprobe probe hmem)
    · rw [Lane.readable, he] at hreadable
      cases hreadable
    · exact ⟨hheader, hshort, Except.error.inj (he.symm.trans hdecode)⟩

/-- A pipeline that did nothing yet, and a sink that is open. -/
theorem kept_fresh {settings : Settings} {source destination : Binding} {p : Pipeline β}
    (h : p.Fresh settings source destination) (hopen : w.sink.closed = false) :
    (start source destination p w).Kept p.lane w := by
  have hqueued : p.lane.statsRing.toList = [] := h.lane_fresh.toList_eq .stats
  exact ⟨⟨_, _, h.accounts⟩, hopen, .refl rfl, hqueued.symm, .refl _⟩

/-- Every probe has one fate. For all valid settings whose receive policy fits the source queues
there is a pipeline, and whatever calls follow, the probes that it admitted left their records in
order, were counted as malformed, or still wait. -/
theorem run_traced (context : UInt16) (settings : Settings) (source destination : Binding)
    (drainBurst : Nat) (now : UInt64) (w : World β MemorySink)
    (hvalid : settings.validate = .ok ())
    (hpolicy : settings.validateSourceQueues source.queues.length = .ok ())
    (hopen : w.sink.closed = false) :
    ∃ p, Pipeline.create context settings source destination drainBurst now = .ok p ∧
      ∀ calls : List (Call β), ((start source destination p w).run calls).Traced context
        (w.sink.recordsFor latencyMeasurement) := by
  obtain ⟨p, hp⟩ : ∃ p : Pipeline β,
      Pipeline.create context settings source destination drainBurst now = .ok p :=
    Pipeline.create_eq_ok hvalid hpolicy
  have hfresh := Pipeline.create_fresh hp
  refine ⟨p, hp, ?_⟩
  intro calls
  rw [← Pipeline.create_context hp]
  exact ((kept_fresh hfresh hopen).run calls).traced hfresh.lane_fresh.counters_eq

/-- Two new interfaces and an open sink. -/
def probedPorts : World Buffer MemorySink where
  interfaces := [.create ⟨0, "left"⟩ 1 1, .create ⟨1, "right"⟩ 1 1]
  sink := {}
  clock := { hz := Clock.monotonicHz }
  pool := .create 16

/-- The statement at the default settings, between two new interfaces. -/
theorem run_traced_twoPorts :
    ∃ p, Pipeline.create 1 {} { interface := 0, queues := .single 0 }
        { interface := 1, queues := .single 0 } 32 0 = .ok p ∧
      ∀ calls : List (Call Buffer),
        ((start { interface := 0, queues := .single 0 } { interface := 1, queues := .single 0 } p
          probedPorts).run calls).Traced 1 [] :=
  run_traced 1 {} _ _ 32 0 probedPorts rfl rfl rfl

/-- Of two drained probes the second one has no counters, and leaves no record. -/
example :
    (Pipeline.create 1 {} { interface := 0, queues := .single 0 }
        { interface := 1, queues := .single 0 } 32 0).toOption.map (fun p =>
      ((start { interface := 0, queues := .single 0 } { interface := 1, queues := .single 0 } p
        probedPorts).run
          [.deliver (.inject 0 0
              [.ofFrame (Probe.Stamps.frame ⟨⟨5, 7⟩, ⟨3, 1⟩, ⟨2, 4⟩⟩),
                .ofFrame Probe.Stamps.frameHeader]),
            .deliver .receive, .deliver .drain]).delivery.world.sink.records) =
      some ["Latency_stats(ctx-1),hop(0)=2024,hop(1)=988\n"] := by
  decide +kernel

end Trail

end EtherRelay
