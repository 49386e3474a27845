import EtherRelay.Queues
import EtherRelay.Workbench.Configuration
import EtherRelay.Workbench.Random
import EtherRelay.World
/-!
# Generated traffic

A generator makes bursts of frames for one interface. A data frame has fixed addresses, an IPv4
type and random content. Every so many frames it makes a latency probe instead, stamped as if it
had crossed three hops; the latency of each hop is random. A burst goes to the next queue of the
queue set.

Which frames are made does not depend on the pool: a frame is made even if there is no buffer for
it, and then counted as such.
-/

namespace EtherRelay.Workbench

/-- What became of the generated frames. -/
structure TrafficStats where
  dataFrames : UInt64 := 0
  probes : UInt64 := 0
  /-- Frames that the receive queue had no room for. -/
  rxOverflows : UInt64 := 0
  /-- Frames that there was no buffer for. -/
  poolExhausted : UInt64 := 0
  deriving Repr, DecidableEq

/-- A made frame. -/
structure Made where
  isProbe : Bool
  frame : Bytes
  deriving Repr, DecidableEq

/-- A source of traffic for one interface. -/
structure Generator (ρ : Type := Random) where
  random : ρ
  interface : Nat
  queues : QueueSet
  rotation : Rotation := {}
  /-- The length of a data frame behind its header. -/
  contentLength : Nat
  burst : Nat
  probeEvery : UInt64
  /-- The least and the greatest latency of a hop. -/
  latencyNs : UInt64 × UInt64
  /-- The frames made so far. -/
  generated : UInt64 := 0
  /-- The time at which the generator was made. -/
  originNs : Nat := 0
  stats : TrafficStats := {}
  deriving Repr

namespace Generator

variable {ρ : Type} [RandomSource ρ]

/-- Locally administered addresses and the IPv4 type. -/
def header : Bytes := [0x02, 0, 0, 0, 0, 0x02, 0x02, 0, 0, 0, 0, 0x01, 0x08, 0x00]

/-- The shortest frame that is made. -/
def minFrameLength : Nat := 60

/-- A generator for an interface. At least one frame makes a burst, and the bounds of the
latency may come in either order. -/
def create (seed : UInt64) (interface : Nat) (queues : QueueSet) (plan : TrafficPlan)
    (nowNs : Nat) : Generator ρ where
  random := RandomSource.ofSeed seed
  interface := interface
  queues := queues
  contentLength := max plan.frameSize minFrameLength - header.length
  burst := max plan.burst 1
  probeEvery := plan.probeEvery
  latencyNs := (min plan.hopLatencyNs.1 plan.hopLatencyNs.2,
    max plan.hopLatencyNs.1 plan.hopLatencyNs.2)
  originNs := nowNs

/-- The counters of a hop at a time. -/
def hopAt (ns : UInt64) : Probe.Hop :=
  let period := UInt64.ofNat Probe.syncPeriodNs
  ⟨ns / period, ns % period / UInt64.ofNat Probe.tickPeriodNs⟩

/-- The stamps of a probe that left the oldest hop now and reached each other hop later. -/
def stamps (g : Generator ρ) (nowNs : Nat) : Probe.Stamps × Generator ρ :=
  let oldest := UInt64.ofNat (nowNs - g.originNs)
  let (first, random) := RandomSource.between g.random g.latencyNs.1 g.latencyNs.2
  let (second, random) := RandomSource.between random g.latencyNs.1 g.latencyNs.2
  let middle := oldest + first
  (⟨hopAt (middle + second), hopAt middle, hopAt oldest⟩, { g with random })

/-- Make the next frame. -/
def makeFrame (g : Generator ρ) (nowNs : Nat) : Made × Generator ρ :=
  let g := { g with generated := g.generated + 1 }
  if g.probeEvery ≠ 0 ∧ g.generated % g.probeEvery = 0 then
    let (stamps, g) := g.stamps nowNs
    (⟨true, stamps.frame⟩, g)
  else
    let (content, random) := RandomSource.bytes g.random g.contentLength
    (⟨false, header ++ content⟩, { g with random })

/-- Make several frames. -/
def makeFrames (nowNs : Nat) : (count : Nat) → Generator ρ → List Made × Generator ρ
  | 0, g => ([], g)
  | count + 1, g =>
    let (made, g) := g.makeFrame nowNs
    let (rest, g) := makeFrames nowNs count g
    (made :: rest, g)

end Generator

namespace TrafficStats

/-- Count a frame that got a buffer, or one that did not. -/
def count (s : TrafficStats) (isProbe buffered : Bool) : TrafficStats :=
  if !buffered then { s with poolExhausted := s.poolExhausted + 1 }
  else if isProbe then { s with probes := s.probes + 1 }
  else { s with dataFrames := s.dataFrames + 1 }

end TrafficStats

namespace Generator

/-- Put frames into buffers of the pool, as far as there are any. -/
def fill (pool : Pool) (stats : TrafficStats) :
    List Made → List Buffer × Pool × TrafficStats
  | [] => ([], pool, stats)
  | made :: rest =>
    let (buffer, pool) := pool.allocFrame made.frame
    let (buffers, pool, stats) := fill pool (stats.count made.isProbe buffer.isSome) rest
    (buffer.toList ++ buffers, pool, stats)

variable {ρ : Type} [RandomSource ρ] {σ : Type}

/-- Make a burst and let it arrive at the next queue. -/
def injectBurst (g : Generator ρ) (w : World Buffer σ) : Generator ρ × World Buffer σ :=
  let (made, g) := makeFrames w.wallNs g.burst g
  let (buffers, pool, stats) := fill w.pool g.stats made
  let (queue, rotation) := g.rotation.pick g.queues
  let (accepted, w) := { w with pool }.inject g.interface queue buffers
  let missed := UInt64.ofNat (buffers.length - accepted)
  ({ g with rotation, stats := { stats with rxOverflows := stats.rxOverflows + missed } }, w)

/-- Let bursts arrive until a deadline, or until somebody who is asked before each burst wants
to stop, here after `bursts` bursts. The answer is how often that was asked. -/
def injectUntil (g : Generator ρ) (expired : Bool) (bursts : Nat) (w : World Buffer σ) :
    Nat × Generator ρ × World Buffer σ :=
  if expired then (0, g, w)
  else
    let (g, w) := bursts.repeat (fun (g, w) => injectBurst g w) (g, w)
    (bursts + 1, g, w)

end Generator

end EtherRelay.Workbench
