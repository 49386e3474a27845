import EtherRelay.Proofs.Forwarding.Trail

/-!
# Forwarding apart from its telemetry

Nothing in a context looks at the sink, or at the count of the records that the sink refused, but
the step that publishes. So any other step gives the same result around another sink and with
another count: `recast` replaces both, and each step commutes with it. That such a step leaves both
alone follows, since to replace them by themselves changes nothing.
-/

namespace EtherRelay

variable {β σ τ : Type}

/-! ## Other counts and other sinks -/

namespace Counters

variable (c : Counters) (n : UInt64)

/-- The same counters with another count of refused records. -/
def withFailures (n : UInt64) : Counters := { c with publishFailures := n }

theorem withFailures_add (k : Nat) {j : Counter} (h : j ≠ .publishFailures) :
    (c.withFailures n).add k j = (c.add k j).withFailures n := by
  cases j with
  | publishFailures => exact absurd rfl h
  | _ => rfl

end Counters

namespace Lane

variable (lane : Lane β) (n : UInt64)

/-- The same lane with another count of refused records. -/
def withFailures (n : UInt64) : Lane β :=
  { lane with counters := lane.counters.withFailures n }

theorem withFailures_count (k : Nat) {j : Counter} (h : j ≠ .publishFailures) :
    (lane.withFailures n).count k j = (lane.count k j).withFailures n := by
  rw [count, count, withFailures, withFailures, lane.counters.withFailures_add n k h]

end Lane

namespace World

variable (w : World β σ) (s : τ)

/-- The same world around another sink. -/
def withSink (s : τ) : World β τ := { w with sink := s }

theorem receive_withSink (index : Nat) (queue : QueueId) (max : Nat) :
    (w.withSink s).receive index queue max =
      (w.receive index queue max).map id (withSink · s) := by
  simp only [receive, withSink]
  cases w.interfaces[index]? <;> rfl

theorem transmit_withSink [FrameBuffer β] (index : Nat) (queue : QueueId) (burst : List β) :
    (w.withSink s).transmit index queue burst =
      (w.transmit index queue burst).map id (Prod.map id (withSink · s)) := by
  simp only [transmit, withSink]
  cases w.interfaces[index]? <;> rfl

end World

namespace Lane

/-- A lane and its world with another count of refused records, around another sink. -/
def recast (n : UInt64) (s : τ) (x : Lane β × World β σ) : Lane β × World β τ :=
  (x.1.withFailures n, x.2.withSink s)

end Lane

/-! ## The receiver -/

namespace Receiver

variable [FrameBuffer β] (r : Receiver) (lane : Lane β) (w : World β σ) (n : UInt64) (s : τ)

theorem admitProbe_recast (probe : β) :
    r.admitProbe (lane.withFailures n) (w.withSink s) probe =
      (r.admitProbe lane w probe).map id (Lane.recast n s) := by
  simp only [admitProbe, Lane.withFailures]
  split
  · rfl
  · split <;> rfl

theorem admitProbes_recast (probes : List β) :
    r.admitProbes (lane.withFailures n) (w.withSink s) probes =
      (r.admitProbes lane w probes).map id (Lane.recast n s) := by
  induction probes generalizing r lane w with
  | nil => rfl
  | cons probe probes ih =>
      have hprobe := r.admitProbe_recast lane w n s probe
      exact (congrArg (fun x : Receiver × Lane β × World β τ =>
        x.1.admitProbes x.2.1 x.2.2 probes) hprobe).trans (ih _ _ _)

theorem admitData_recast (data : List β) :
    r.admitData (lane.withFailures n) (w.withSink s) data =
      (r.admitData lane w data).map id (Lane.recast n s) := by
  simp only [admitData, Lane.withFailures]
  split
  · rfl
  · split <;> rfl

theorem distribute_recast (burst : List β) :
    r.distribute (lane.withFailures n) (w.withSink s) burst =
      (r.distribute lane w burst).map id (Lane.recast n s) := by
  have hprobes := r.admitProbes_recast ((lane.count 1 .rxBursts).count burst.length .rxPackets) w n
    s (burst.filter isProbe)
  rw [← Lane.withFailures_count _ _ _ (by decide), ← Lane.withFailures_count _ _ _ (by decide)]
    at hprobes
  rw [distribute, distribute, hprobes]
  exact admitData_recast _ _ _ n s _

/-- A poll receives and passes on the same frames. -/
theorem poll_recast :
    r.poll (lane.withFailures n) (w.withSink s) =
      (r.poll lane w).map id (Prod.map id (Lane.recast n s)) := by
  rw [poll_eq, poll_eq, w.receive_withSink]
  dsimp only [Prod.map, id]
  split
  · rfl
  · rw [distribute_recast]
    rfl

theorem poll_rests :
    (r.poll lane w).2.2 =
      Lane.recast lane.counters.publishFailures w.sink (r.poll lane w).2.2 :=
  congrArg (·.2.2) (r.poll_recast lane w lane.counters.publishFailures w.sink)

end Receiver

/-! ## The transmitter -/

namespace Transmitter

variable [FrameBuffer β] (t : Transmitter) (lane : Lane β) (w : World β σ) (n : UInt64) (s : τ)

theorem send_recast (burst : List β) :
    t.send (lane.withFailures n) (w.withSink s) burst =
      (t.send lane w burst).map id (Lane.recast n s) := by
  rw [send_eq, send_eq, w.transmit_withSink]
  rfl

/-- A poll takes and sends the same frames. -/
theorem poll_recast :
    t.poll (lane.withFailures n) (w.withSink s) =
      (t.poll lane w).map id (Prod.map id (Lane.recast n s)) := by
  have hload : t.load (lane.withFailures n) = (t.load lane).map id (Lane.withFailures · n) := rfl
  rw [poll_eq, poll_eq, hload]
  dsimp only [Prod.map, id]
  split
  · rfl
  · rw [send_recast]
    rfl

theorem poll_rests :
    (t.poll lane w).2.2 =
      Lane.recast lane.counters.publishFailures w.sink (t.poll lane w).2.2 :=
  congrArg (·.2.2) (t.poll_recast lane w lane.counters.publishFailures w.sink)

end Transmitter

/-! ## The monitor -/

/-- The same sample with another count of refused records. -/
def Sample.withFailures (sample : Sample) (n : UInt64) : Sample :=
  { sample with relay := sample.relay.withFailures n }

/-- The record of a sample does not show that count. -/
theorem Sample.record_withFailures (sample : Sample) (n : UInt64) (context : UInt16) :
    (sample.withFailures n).record context = sample.record context := rfl

namespace Monitor

variable (m : Monitor) (lane : Lane β) (w : World β σ) (n : UInt64) (s : τ)

/-- A probe is read the same way. -/
theorem inspect_recast [FrameBuffer β] (probe : β) :
    inspect (lane.withFailures n) (w.withSink s) probe =
      (inspect lane w probe).map id (Lane.recast n s) := by
  simp only [inspect]
  split <;> rfl

theorem inspect_rests [FrameBuffer β] (probe : β) :
    (inspect lane w probe).2 =
      Lane.recast lane.counters.publishFailures w.sink (inspect lane w probe).2 :=
  congrArg (·.2) (inspect_recast lane w lane.counters.publishFailures w.sink probe)

theorem samplePort_withSink (port : Binding) (extended : Bool) :
    samplePort (w.withSink s) port extended =
      (samplePort w port extended).map id (World.withSink · s) := by
  rw [samplePort, samplePort]
  dsimp only
  split <;> rfl

/-- A sample shows the same but for that count. -/
theorem sample_recast :
    m.sample (lane.withFailures n) (w.withSink s) =
      (m.sample lane w).map (Sample.withFailures · n) (Prod.map id (World.withSink · s)) := by
  rw [sample, samplePort_withSink]
  dsimp only [Prod.map]
  rw [samplePort_withSink]
  rfl

end Monitor

end EtherRelay
