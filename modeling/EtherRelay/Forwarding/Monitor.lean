import EtherRelay.Forwarding.Lane
/-!
# Monitors

A monitor turns the probes of the stats ring into latency records, and samples the counters of
a context together with those of both its interfaces and their counter blocks. Every probe it
takes is freed, whether it could be read or not. A record that the sink refuses is counted and
forgotten.
-/

namespace EtherRelay

/-- The stats stage of a context. -/
structure Monitor where
  source : Binding
  destination : Binding
  extendedHardware : Bool
  /-- The most probes that one drain takes. -/
  burstSize : Nat
  /-- The clock reading of the previous sample. -/
  previousCycles : UInt64
  deriving Repr, DecidableEq

namespace Monitor

variable {β σ : Type} [FrameBuffer β] [Sink σ]

/-- A monitor whose first interval starts at the clock reading `now`. -/
def create (settings : Settings) (source destination : Binding) (now : UInt64)
    (burstSize : Nat) : Monitor where
  source := source
  destination := destination
  extendedHardware := settings.extendedHardware
  burstSize := burstSize
  previousCycles := now

/-! ## Probes -/

/-- Take the next probes out of the stats ring. -/
def load (m : Monitor) (lane : Lane β) : List β × Lane β :=
  let (burst, statsRing) := lane.statsRing.dequeueBurst m.burstSize
  (burst, { lane with statsRing })

/-- Read one probe: its latency, or a count and a report that it is malformed. -/
def inspect (lane : Lane β) (w : World β σ) (probe : β) :
    Option Probe.Latency × Lane β × World β σ :=
  let frame := FrameBuffer.frame probe
  match Probe.Stamps.decode frame with
  | .ok stamps =>
    let latency := stamps.latency
    (some latency, (lane.count 1 .probesDecoded).count latency.reordered .reorderedHops, w)
  | .error e =>
    (none, lane.count 1 .malformedProbes,
      w.note (.malformedProbe lane.context frame.length e))

/-- Offer a record to the sink; a refusal is counted. -/
def publish (lane : Lane β) (w : World β σ) (record : Record) : Lane β × World β σ :=
  match w.publish record with
  | (.ok (), w) => (lane, w)
  | (.error _, w) => (lane.count 1 .publishFailures, w)

/-- Read, report and free one probe. -/
def drainProbe (lane : Lane β) (w : World β σ) (probe : β) : Lane β × World β σ :=
  let (latency?, lane, w) := inspect lane w probe
  let (lane, w) := match latency? with
    | some latency => publish lane w (latency.record lane.context)
    | none => (lane, w)
  (lane, w.release [probe])

/-- Read, report and free the next probes. The answer is how many there were. -/
def drain (m : Monitor) (lane : Lane β) (w : World β σ) : Nat × Lane β × World β σ :=
  let (burst, lane) := m.load lane
  (burst.length, burst.foldl (fun (lane, w) probe => drainProbe lane w probe) (lane, w))

/-! ## Samples -/

/-- Sample one end: its interface, and its counter block if it has one. -/
def samplePort (w : World β σ) (port : Binding) (extended : Bool) : PortSample × World β σ :=
  let interface := w.interfaceId port.interface
  let counters := w.interfaceCounters port.interface
  match port.hardware with
  | none => ({ interface, counters, hardware := none }, w)
  | some layout =>
    let (snapshot, w) := w.snapshot layout extended
    ({ interface, counters, hardware := some snapshot }, w)

/-- Sample everything and start a new interval. -/
def sample (m : Monitor) (lane : Lane β) (w : World β σ) : Sample × Monitor × World β σ :=
  let (source, w) := samplePort w m.source m.extendedHardware
  let (destination, w) := samplePort w m.destination m.extendedHardware
  let now := w.clock.cycles
  ({ source, destination, relay := lane.counters
     deltaNs := Clock.deltaNs m.previousCycles now w.clock.hz },
    { m with previousCycles := now }, w)

/-- Sample everything and publish it. -/
def publishSample (m : Monitor) (lane : Lane β) (w : World β σ) :
    Sample × Monitor × Lane β × World β σ :=
  let (sample, m, w) := m.sample lane w
  let (lane, w) := publish lane w (sample.record lane.context)
  (sample, m, lane, w)

end Monitor

end EtherRelay
