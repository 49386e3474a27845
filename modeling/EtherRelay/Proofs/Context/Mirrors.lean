import EtherRelay.Proofs.Context.Flow
import EtherRelay.Proofs.Forwarding.Images
import EtherRelay.Proofs.Forwarding.Trail

/-!
# A context in two worlds

Two worlds may agree on the interfaces of a context and differ in everything around them: other
interfaces, the counter blocks, the cycle clock, and what other contexts told the sink. A context
does the same in both. Only its samples say other things, since they report the counter blocks and
the cycles.

An `Outlook` names the context that is looked at, its interfaces, the counters that have to agree,
and which sinks look alike to it. Counters that depend on the answers of the sink agree only for
sinks that answer alike.
-/

namespace EtherRelay

variable {β σ : Type}

/-- What is compared of two worlds around a context. -/
structure Outlook (σ : Type) [Sink σ] where
  context : UInt16
  Counts : Counter → Prop
  Reaches : Nat → Prop
  /-- Sinks that look alike to the context. -/
  Agree : σ → σ → Prop
  agree_refl : ∀ s, Agree s s
  agree_latency : ∀ {s s'} (latency : Probe.Latency), Agree s s' →
    Agree (Sink.publish s (latency.record context).line).2
      (Sink.publish s' (latency.record context).line).2
  agree_sample : ∀ {s s'} (sample sample' : Sample), Agree s s' →
    Agree (Sink.publish s (sample.record context).line).2
      (Sink.publish s' (sample'.record context).line).2
  answer_eq : Counts .publishFailures → ∀ {s s'} (line line' : String), Agree s s' →
    (Sink.publish s' line').1 = (Sink.publish s line).1
  /-- The context does not see what others offer the sink. -/
  agree_offered : ∀ {owner s s₁ s'}, owner ≠ context → Sink.Offered owner s s₁ → Agree s s' →
    Agree s₁ s'

/-! ## Workers -/

/-- The same place of the loop, whatever a sample says. -/
inductive StatsPlace.Alike : StatsPlace β → StatsPlace β → Prop where
  | same (place : StatsPlace β) : Alike place place
  | publishing (sample sample' : Sample) : Alike (.publishing sample) (.publishing sample')

/-- Workers at the same place, which may have sampled at other cycles. -/
inductive StatsWorker.Alike (s : StatsWorker β) : StatsWorker β → Prop where
  | sampled {place : StatsPlace β} (h : s.place.Alike place) (cycles : UInt64) :
      Alike s { s with place, stage := { s.stage with previousCycles := cycles } }

/-- The workers are in the same state, but for what the stats worker samples. -/
structure Workers.Alike (k k' : Workers β) : Prop where
  receive_eq : k'.receive = k.receive
  transmit_eq : k'.transmit = k.transmit
  stats : k.stats.Alike k'.stats

/-- Both contexts are in the same phase of their life, and their workers are alike. -/
inductive ContextBody.Alike : ContextBody β → ContextBody β → Prop where
  | idle {body : ContextBody β} (h : ∀ k, body ≠ .running k) : Alike body body
  | running {k k' : Workers β} (h : k.Alike k') : Alike (.running k) (.running k')

/-- Two states of a context that differ in its samples alone, and in counters other than `K`. -/
structure Context.Mirrors (K : Counter → Prop) (c c' : Context β) : Prop where
  sourceId_eq : c'.sourceId = c.sourceId
  destinationId_eq : c'.destinationId = c.destinationId
  source_eq : c'.source = c.source
  destination_eq : c'.destination = c.destination
  settings_eq : c'.settings = c.settings
  lifecycle_eq : c'.lifecycle = c.lifecycle
  lane : c.lane.Carries (fun b => b) K c'.lane
  body : c.body.Alike c'.body

theorem StatsWorker.Alike.refl (s : StatsWorker β) : s.Alike s :=
  .sampled (.same s.place) s.stage.previousCycles

theorem ContextBody.Alike.refl (body : ContextBody β) : body.Alike body := by
  cases body with
  | running k => exact .running ⟨rfl, rfl, .refl _⟩
  | _ => exact .idle fun _ => nofun

theorem Context.Mirrors.refl {K : Counter → Prop} (c : Context β) : c.Mirrors K c :=
  ⟨rfl, rfl, rfl, rfl, rfl, rfl, .refl c.lane, .refl c.body⟩

theorem Lane.Carries.rings_eq {K : Counter → Prop} {lane lane' : Lane β}
    (h : lane.Carries (fun b => b) K lane') :
    lane'.relayRing = lane.relayRing ∧ lane'.statsRing = lane.statsRing :=
  ⟨h.relayRing_eq.trans (Ring.map_id _), h.statsRing_eq.trans (Ring.map_id _)⟩

theorem Receiver.sink_poll [FrameBuffer β] (r : Receiver) (lane : Lane β) (w : World β σ) :
    (r.poll lane w).2.2.2.sink = w.sink := by
  rw [poll_eq]
  split
  · exact w.sink_receive _ _ _
  · exact (sink_distribute _ _ _ _).trans (w.sink_receive _ _ _)

/-! ## Both worlds -/

/-- What a context finds around it in one world and in the other. -/
structure Outlook.Around [Sink σ] (o : Outlook σ) (w w' : World β σ) : Prop where
  carries : w.Carries (fun b => b) o.Reaches w'
  wallNs_eq : w'.wallNs = w.wallNs
  agree : o.Agree w.sink w'.sink

/-- A context and what it finds around it, in both worlds. -/
structure Outlook.Mirrors [Sink σ] (o : Outlook σ) (lane : Lane β) (w : World β σ)
    (lane' : Lane β) (w' : World β σ) : Prop extends o.Around w w' where
  context_eq : lane.context = o.context
  lane : lane.Carries (fun b => b) o.Counts lane'

/-- Sampling a port reads the interface and the counter block, and lets no time pass. -/
theorem Monitor.samplePort_rests (w : World β σ) (port : Binding) (extended : Bool) :
    (samplePort w port extended).2.interfaces = w.interfaces ∧
      (samplePort w port extended).2.wallNs = w.wallNs ∧
      (samplePort w port extended).2.sink = w.sink := by
  rw [samplePort]
  dsimp only
  split <;> exact ⟨rfl, rfl, rfl⟩

theorem Monitor.sample_rests (m : Monitor) (lane : Lane β) (w : World β σ) :
    (m.sample lane w).2.2.interfaces = w.interfaces ∧
      (m.sample lane w).2.2.wallNs = w.wallNs ∧ (m.sample lane w).2.2.sink = w.sink := by
  obtain ⟨hinterfaces, hwallNs, hsink⟩ := samplePort_rests w m.source m.extendedHardware
  obtain ⟨hinterfaces', hwallNs', hsink'⟩ := samplePort_rests
    (samplePort w m.source m.extendedHardware).2 m.destination m.extendedHardware
  exact ⟨hinterfaces'.trans hinterfaces, hwallNs'.trans hwallNs, hsink'.trans hsink⟩

namespace Outlook

section

variable [Sink σ] {o : Outlook σ} {w w' w₁ w₁' : World β σ}

theorem Around.aside (h : o.Around w w')
    (hw : w₁.interfaces = w.interfaces ∧ w₁.wallNs = w.wallNs ∧ w₁.sink = w.sink)
    (hw' : w₁'.interfaces = w'.interfaces ∧ w₁'.wallNs = w'.wallNs ∧ w₁'.sink = w'.sink) :
    o.Around w₁ w₁' where
  carries := h.carries.of_interfaces hw.1 hw'.1
  wallNs_eq := by rw [hw'.2.1, hw.2.1, h.wallNs_eq]
  agree := by
    rw [hw.2.2, hw'.2.2]
    exact h.agree

/-- Something happens in the first world that the context does not notice. -/
theorem Around.left (h : o.Around w w')
    (hinterfaces : ∀ j, o.Reaches j → w₁.interfaces[j]? = w.interfaces[j]?)
    (hwallNs : w₁.wallNs = w.wallNs) (hagree : o.Agree w₁.sink w'.sink) : o.Around w₁ w' where
  carries := h.carries.elsewhere hinterfaces fun _ _ => rfl
  wallNs_eq := h.wallNs_eq.trans hwallNs.symm
  agree := hagree

namespace Mirrors

variable {lane lane' : Lane β}

theorem note (h : o.Mirrors lane w lane' w') (e e' : Event) :
    o.Mirrors lane (w.note e) lane' (w'.note e') :=
  { h with toAround := h.aside ⟨rfl, rfl, rfl⟩ ⟨rfl, rfl, rfl⟩ }

theorem release [FrameBuffer β] (h : o.Mirrors lane w lane' w') (buffers buffers' : List β) :
    o.Mirrors lane (w.release buffers) lane' (w'.release buffers') :=
  { h with toAround := h.aside ⟨rfl, rfl, rfl⟩ ⟨rfl, rfl, rfl⟩ }

theorem markFaulted (h : o.Mirrors lane w lane' w') (index : Nat) :
    o.Mirrors lane (w.markFaulted index) lane' (w'.markFaulted index) :=
  { h with carries := h.carries.markFaulted index }

theorem count (h : o.Mirrors lane w lane' w') (n : Nat) (k : Counter) :
    o.Mirrors (lane.count n k) w (lane'.count n k) w' :=
  { h with lane := h.lane.count n k }

/-- Rings are closed alike. -/
theorem close (h : o.Mirrors lane w lane' w') :
    o.Mirrors lane.closeReceiver.2 w lane'.closeReceiver.2 w' ∧
      o.Mirrors lane.closeTransmitter.2 w lane'.closeTransmitter.2 w' ∧
      o.Mirrors lane.closeMonitor.2 w lane'.closeMonitor.2 w' := by
  obtain ⟨hrelay, hstats⟩ := h.lane.rings_eq
  refine ⟨{ h with lane := ?_ }, { h with lane := ?_ }, { h with lane := ?_ }⟩
  · rw [Lane.closeReceiver, Lane.closeReceiver, hrelay, hstats]
    exact { h.lane with
      relayRing_eq := (Ring.map_id _).symm, statsRing_eq := (Ring.map_id _).symm }
  · rw [Lane.closeTransmitter, Lane.closeTransmitter, hrelay]
    exact { h.lane with relayRing_eq := (Ring.map_id _).symm }
  · rw [Lane.closeMonitor, Lane.closeMonitor, hstats]
    exact { h.lane with statsRing_eq := (Ring.map_id _).symm }

/-- One of the lanes counts something that is not looked at. -/
theorem countUnseen (h : o.Mirrors lane w lane' w') {k : Counter} (hk : ¬o.Counts k) (n : Nat) :
    o.Mirrors (lane.count n k) w lane' w' ∧ o.Mirrors lane w (lane'.count n k) w' := by
  have hne : ∀ j, o.Counts j → j ≠ k := by
    rintro j hj rfl
    exact hk hj
  refine ⟨{ h with lane := { h.lane with get_eq := ?_ } },
    { h with lane := { h.lane with get_eq := ?_ } }⟩ <;> intro j hj
  · rw [Lane.count, Counters.get_add, if_neg (hne j hj), h.lane.get_eq j hj]
  · rw [Lane.count, Counters.get_add, if_neg (hne j hj), h.lane.get_eq j hj]

/-- Refusals are counted alike if they are looked at. -/
theorem publish (h : o.Mirrors lane w lane' w') {record record' : Record}
    (hagree : o.Agree (Sink.publish w.sink record.line).2 (Sink.publish w'.sink record'.line).2) :
    o.Mirrors (Monitor.publish lane w record).1 (Monitor.publish lane w record).2
      (Monitor.publish lane' w' record').1 (Monitor.publish lane' w' record').2 := by
  have hoffered : o.Mirrors lane (w.publish record).2 lane' (w'.publish record').2 :=
    { h with agree := hagree }
  have hanswer : o.Counts .publishFailures → (w'.publish record').1 = (w.publish record).1 :=
    fun hk => o.answer_eq hk record.line record'.line h.agree
  rw [Monitor.publish, Monitor.publish]
  generalize w.publish record = offered at hoffered hanswer
  generalize w'.publish record' = offered' at hoffered hanswer
  obtain ⟨_ | _, w₁⟩ := offered <;> obtain ⟨_ | _, w₁'⟩ := offered'
  · exact hoffered.count 1 _
  · have hunseen : ¬o.Counts .publishFailures := fun hk => by cases hanswer hk
    exact (hoffered.countUnseen hunseen 1).1
  · have hunseen : ¬o.Counts .publishFailures := fun hk => by cases hanswer hk
    exact (hoffered.countUnseen hunseen 1).2
  · exact hoffered

/-! ## The stages -/

variable [FrameBuffer β]

theorem poll (h : o.Mirrors lane w lane' w') (r : Receiver) (hr : o.Reaches r.interface) :
    (r.poll lane' w').2.1 = (r.poll lane w).2.1 ∧
      o.Mirrors (r.poll lane w).2.2.1 (r.poll lane w).2.2.2 (r.poll lane' w').2.2.1
        (r.poll lane' w').2.2.2 := by
  obtain ⟨_, hstage, hlane, hcarries⟩ := r.poll_carries (fun _ => rfl) h.lane h.carries hr
  have hflows := r.poll_flows lane w r.interface
  have hflows' := r.poll_flows lane' w' r.interface
  refine ⟨hstage, ⟨hcarries, ?_, ?_⟩, hflows.context_eq.trans h.context_eq, hlane⟩
  · rw [hflows'.wallNs_eq, hflows.wallNs_eq, h.wallNs_eq]
  · rw [r.sink_poll, r.sink_poll]
    exact h.agree

theorem send (h : o.Mirrors lane w lane' w') (t : Transmitter) (ht : o.Reaches t.interface)
    (burst : List β) :
    (t.send lane' w' burst).1 = (t.send lane w burst).1 ∧
      o.Mirrors (t.send lane w burst).2.1 (t.send lane w burst).2.2 (t.send lane' w' burst).2.1
        (t.send lane' w' burst).2.2 := by
  obtain ⟨hstage, hlane, hcarries⟩ := t.send_carries h.lane h.carries ht burst
  rw [List.map_id'] at hstage hlane hcarries
  obtain ⟨_, hflows⟩ := t.send_flows lane w burst t.interface
  obtain ⟨_, hflows'⟩ := t.send_flows lane' w' burst t.interface
  have hsink : ∀ (l : Lane β) (v : World β σ), (t.send l v burst).2.2.sink = v.sink := by
    intro l v
    rw [t.send_eq]
    exact v.sink_transmit _ _ _
  refine ⟨hstage, ⟨hcarries, ?_, ?_⟩, hflows.context_eq.trans h.context_eq, hlane⟩
  · rw [hflows'.wallNs_eq, hflows.wallNs_eq, h.wallNs_eq]
  · rw [hsink, hsink]
    exact h.agree

theorem inspect (h : o.Mirrors lane w lane' w') (probe : β) :
    (Monitor.inspect lane' w' probe).1 = (Monitor.inspect lane w probe).1 ∧
      o.Mirrors (Monitor.inspect lane w probe).2.1 (Monitor.inspect lane w probe).2.2
        (Monitor.inspect lane' w' probe).2.1 (Monitor.inspect lane' w' probe).2.2 := by
  rw [Monitor.inspect, Monitor.inspect]
  split
  · exact ⟨rfl, (h.count 1 _).count _ _⟩
  · exact ⟨rfl, (h.count 1 _).note _ _⟩

omit [FrameBuffer β] in
theorem sample (h : o.Mirrors lane w lane' w') (m m' : Monitor) :
    o.Mirrors lane (m.sample lane w).2.2 lane' (m'.sample lane' w').2.2 :=
  { h with toAround := h.aside (m.sample_rests lane w) (m'.sample_rests lane' w') }

/-! ## The workers -/

theorem stepReceive (h : o.Mirrors lane w lane' w') (stop : Bool) (r : ReceiveWorker)
    (hr : o.Reaches r.stage.interface) :
    (r.step stop lane' w').1 = (r.step stop lane w).1 ∧
      o.Mirrors (r.step stop lane w).2.1 (r.step stop lane w).2.2 (r.step stop lane' w').2.1
        (r.step stop lane' w').2.2 := by
  rw [ReceiveWorker.step, ReceiveWorker.step]
  split
  · split
    · exact ⟨rfl, h.note _ _⟩
    · exact ⟨rfl, h⟩
  · rw [h.carries.failsOn_eq hr]
    split
    · exact ⟨rfl, (h.close.1.markFaulted _).release _ _⟩
    · obtain ⟨hstage, hafter⟩ := h.poll r.stage hr
      exact ⟨congrArg (ReceiveWorker.mk · .ready) hstage, hafter⟩
  · exact ⟨rfl, h⟩
  · exact ⟨rfl, h⟩

theorem stepTransmit (h : o.Mirrors lane w lane' w') (stop : Bool) (t : TransmitWorker β)
    (ht : o.Reaches t.stage.interface) :
    (t.step stop lane' w').1 = (t.step stop lane w).1 ∧
      o.Mirrors (t.step stop lane w).2.1 (t.step stop lane w).2.2 (t.step stop lane' w').2.1
        (t.step stop lane' w').2.2 := by
  rw [TransmitWorker.step, TransmitWorker.step]
  split
  · split
    · exact ⟨rfl, h.note _ _⟩
    · exact ⟨rfl, h⟩
  · obtain ⟨hburst, hloaded⟩ := t.stage.load_carries h.lane
    rw [List.map_id'] at hburst
    dsimp only
    rw [hburst]
    exact ⟨rfl, { h with lane := hloaded }⟩
  · next burst _ =>
    rw [h.carries.failsOn_eq ht]
    split
    · exact ⟨rfl, ((h.close.2.1.markFaulted _).release _ _).release _ _⟩
    · obtain ⟨hstage, hafter⟩ := h.send t.stage ht burst
      exact ⟨congrArg (TransmitWorker.mk · .ready) hstage, hafter⟩
  · exact ⟨rfl, h⟩
  · exact ⟨rfl, h⟩

theorem sampleIfDue (h : o.Mirrors lane w lane' w') {s s' : StatsWorker β} (hs : s.Alike s')
    (hsource : o.Reaches s.stage.source.interface)
    (hdestination : o.Reaches s.stage.destination.interface) :
    (s.sampleIfDue lane w).1.Alike (s'.sampleIfDue lane' w').1 ∧
      o.Mirrors (s.sampleIfDue lane w).2.1 (s.sampleIfDue lane w).2.2
        (s'.sampleIfDue lane' w').2.1 (s'.sampleIfDue lane' w').2.2 := by
  obtain ⟨_, cycles⟩ := hs
  rw [StatsWorker.sampleIfDue, StatsWorker.sampleIfDue]
  dsimp only
  rw [h.wallNs_eq, h.carries.failsOn_eq hsource, h.carries.failsOn_eq hdestination]
  split
  · exact ⟨.sampled (.same _) cycles, h⟩
  · split
    · exact ⟨.sampled (.same _) cycles, (h.close.2.2.markFaulted _).release _ _⟩
    · split
      · have hsampled : o.Mirrors lane.closeMonitor.2
            (Monitor.samplePort w s.stage.source s.stage.extendedHardware).2
            lane'.closeMonitor.2
            (Monitor.samplePort w' s.stage.source s.stage.extendedHardware).2 :=
          { h.close.2.2 with
            toAround := h.aside (Monitor.samplePort_rests _ _ _)
              (Monitor.samplePort_rests _ _ _) }
        exact ⟨.sampled (.same _) cycles, (hsampled.markFaulted _).release _ _⟩
      · exact ⟨.sampled (.publishing _ _) _, h.sample _ _⟩

theorem stepStats (h : o.Mirrors lane w lane' w') (stop : Bool) {s s' : StatsWorker β}
    (hs : s.Alike s') (hsource : o.Reaches s.stage.source.interface)
    (hdestination : o.Reaches s.stage.destination.interface) :
    (s.step stop lane w).1.Alike (s'.step stop lane' w').1 ∧
      o.Mirrors (s.step stop lane w).2.1 (s.step stop lane w).2.2 (s'.step stop lane' w').2.1
        (s'.step stop lane' w').2.2 := by
  have hdue := h.sampleIfDue hs hsource hdestination
  have hpublished (sample sample' : Sample) : o.Mirrors
      (Monitor.publish lane w (sample.record lane.context)).1
      (Monitor.publish lane w (sample.record lane.context)).2
      (Monitor.publish lane' w' (sample'.record lane'.context)).1
      (Monitor.publish lane' w' (sample'.record lane'.context)).2 := by
    rw [h.lane.context_eq, h.context_eq]
    exact h.publish (o.agree_sample sample sample' h.agree)
  have hreported (latency : Probe.Latency) : o.Mirrors
      (Monitor.publish lane w (latency.record lane.context)).1
      (Monitor.publish lane w (latency.record lane.context)).2
      (Monitor.publish lane' w' (latency.record lane'.context)).1
      (Monitor.publish lane' w' (latency.record lane'.context)).2 := by
    rw [h.lane.context_eq, h.context_eq]
    exact h.publish (o.agree_latency latency h.agree)
  obtain ⟨hplace, cycles⟩ := hs
  obtain ⟨stage, place, periodNs, nextSampleNs⟩ := s
  dsimp only at hplace hdue ⊢
  rw [StatsWorker.step, StatsWorker.step]
  cases hplace with
  | publishing sample sample' =>
      dsimp only
      rw [(hpublished sample sample').wallNs_eq]
      exact ⟨.sampled (.same _) cycles, hpublished sample sample'⟩
  | same =>
      dsimp only
      split
      · split
        · exact ⟨.sampled (.same _) cycles, h.note _ _⟩
        · exact ⟨.sampled (.same _) cycles, h⟩
      · obtain ⟨hburst, hloaded⟩ := stage.load_carries h.lane
        rw [List.map_id'] at hburst
        have hburst' : (Monitor.load { stage with previousCycles := cycles } lane').1 =
            (stage.load lane).1 := hburst
        rw [hburst']
        exact ⟨.sampled (.same _) cycles, { h with lane := hloaded }⟩
      · exact hdue
      · next probe rest =>
        obtain ⟨hlatency, hinspected⟩ := h.inspect probe
        generalize Monitor.inspect lane w probe = inspected at hlatency hinspected
        generalize Monitor.inspect lane' w' probe = inspected' at hlatency hinspected
        obtain ⟨_ | latency, _, _⟩ := inspected <;> obtain ⟨_, _, _⟩ := inspected' <;>
          cases hlatency
        · exact ⟨.sampled (.same _) cycles, hinspected.release _ _⟩
        · exact ⟨.sampled (.same _) cycles, hinspected⟩
      · next latency probe rest =>
        exact ⟨.sampled (.same _) cycles, (hreported latency).release _ _⟩
      · next sample =>
        rw [(hpublished sample sample).wallNs_eq]
        exact ⟨.sampled (.same _) cycles, hpublished sample sample⟩
      · exact ⟨.sampled (.same _) cycles, h⟩
      · exact ⟨.sampled (.same _) cycles, h⟩

theorem stepWorkers (h : o.Mirrors lane w lane' w') (stop : Bool) {k k' : Workers β}
    (hk : k.Alike k') {source destination : Binding} (hat : k.At source destination)
    (hsource : o.Reaches source.interface) (hdestination : o.Reaches destination.interface)
    (role : WorkerRole) :
    (k.step stop lane w role).1.Alike (k'.step stop lane' w' role).1 ∧
      o.Mirrors (k.step stop lane w role).2.1 (k.step stop lane w role).2.2
        (k'.step stop lane' w' role).2.1 (k'.step stop lane' w' role).2.2 := by
  rw [← hat.receive_eq] at hsource
  rw [← hat.transmit_eq] at hdestination
  obtain ⟨receive, transmit, stats⟩ := k
  obtain ⟨receive', transmit', stats'⟩ := k'
  obtain ⟨rfl, rfl, hstats⟩ := hk
  cases role with
  | receive =>
      obtain ⟨hsame, hafter⟩ := h.stepReceive stop receive' hsource
      exact ⟨⟨hsame, rfl, hstats⟩, hafter⟩
  | transmit =>
      obtain ⟨hsame, hafter⟩ := h.stepTransmit stop transmit' hdestination
      exact ⟨⟨rfl, hsame, hstats⟩, hafter⟩
  | stats =>
      rw [hat.receive_eq, ← hat.stats_source_eq] at hsource
      rw [hat.transmit_eq, ← hat.stats_destination_eq] at hdestination
      obtain ⟨halike, hafter⟩ := h.stepStats stop hstats hsource hdestination
      exact ⟨⟨rfl, rfl, halike⟩, hafter⟩

end Mirrors

/-- A worker acts on the same context in two worlds. -/
theorem stepWorker [FrameBuffer β] {c c' : Context β} (hc : c.Mirrors o.Counts c')
    (hw : o.Around w w') (hid : c.id = o.context) (hwired : c.Wired)
    (hsource : o.Reaches c.source.interface) (hdestination : o.Reaches c.destination.interface)
    (role : WorkerRole) :
    (c.stepWorker role w).1.Mirrors o.Counts (c'.stepWorker role w').1 ∧
      o.Around (c.stepWorker role w).2 (c'.stepWorker role w').2 := by
  have hbodies := hc.body
  generalize hbody : c.body = body at hbodies
  generalize hbody' : c'.body = body' at hbodies
  cases hbodies with
  | idle hidle =>
      rw [Context.stepWorker, Context.stepWorker, hbody, hbody']
      split
      · next k => exact absurd rfl (hidle k)
      · exact ⟨hc, hw⟩
  | running hk =>
      rw [Context.Wired, hbody] at hwired
      have hstart : o.Mirrors c.lane { w with log := [] } c'.lane { w' with log := [] } :=
        { hw.aside ⟨rfl, rfl, rfl⟩ ⟨rfl, rfl, rfl⟩ with context_eq := hid, lane := hc.lane }
      obtain ⟨halike, hafter⟩ := hstart.stepWorkers c.lifecycle.stopRequested hk hwired hsource
        hdestination role
      rw [Context.stepWorker_eq hbody, Context.stepWorker_eq hbody', hc.lifecycle_eq]
      exact ⟨{ hc with lifecycle_eq := rfl, lane := hafter.lane, body := .running halike },
        hafter.toAround.aside ⟨rfl, rfl, rfl⟩ ⟨rfl, rfl, rfl⟩⟩

end

end Outlook

end EtherRelay
