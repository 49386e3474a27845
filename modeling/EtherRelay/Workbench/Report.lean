import EtherRelay.Context
import EtherRelay.Number.Seconds
import EtherRelay.Workbench.Traffic
/-!
# Run reports

The summary at the end of a run, as lines of text: the contexts by id, the interfaces, the
generated traffic, and the buffer pool.
-/

namespace EtherRelay.Workbench.Report

/-- The least time for which a rate is computed, a quarter of a femtosecond. -/
def leastSeconds : Double := ⟨Nat.pow 2 52, -104⟩

/-- How many packets per second make `count` packets in the given time. -/
def rate (count : UInt64) (ns : Nat) : Nat :=
  ((Double.ofNat count.toNat).div ((Double.ofNanoseconds ns).max leastSeconds)).round

/-- One context. -/
def context (elapsedNs : Nat) (r : ContextReport) : List String :=
  let c := r.counters
  let failures :=
    if c.publishFailures = 0 then []
    else [s!"  * Telemetry records that could not be published: {c.publishFailures.toNat}"]
  let queued :=
    if UInt64.ofNat (r.abandonedRelay + r.abandonedStats) = 0 then []
    else [s!"  * Still queued at shutdown: {r.abandonedRelay} in the relay ring, " ++
      s!"{r.abandonedStats} in the stats ring"]
  [s!"* ctx-{r.id.toNat} ({r.source.text} -> {r.destination.text})",
    s!"  * Forwarded packets: {c.forwarded.toNat} ({rate c.forwarded elapsedNs} packets/s)",
    s!"    | {c.rxPackets.toNat} received in {c.rxBursts.toNat} bursts, " ++
      s!"{c.forwarded.toNat} transmitted in {c.txBursts.toNat} bursts",
    s!"    | {c.relayOverflowDrops.toNat} dropped because the relay ring was full",
    s!"    | {c.txPartialDrops.toNat} dropped because the destination queue accepted only " ++
      "part of a burst",
    s!"  * Latency probes: {c.probesDecoded.toNat} decoded ({c.malformedProbes.toNat} " ++
      s!"malformed, {c.probeOverflowDrops.toNat} dropped because the stats ring was full)",
    s!"    | {c.reorderedHops.toNat} hop pairs with timestamps going backwards"]
    ++ failures ++ queued

/-- All contexts, the least id first. -/
def contexts (reports : List ContextReport) (elapsedNs : Nat) : List String :=
  "--- Forwarding contexts ---" ::
    (reports.mergeSort fun a b => a.id ≤ b.id).flatMap (context elapsedNs)

/-- The counters of interfaces. -/
def interfaces (all : List (InterfaceId × InterfaceCounters)) : List String :=
  "--- Interfaces ---" :: all.flatMap fun (id, c) =>
    [s!"* {id.text}",
      s!"  * Received: {c.rxPackets.toNat} packets ({c.rxBytes.toNat} bytes), " ++
        s!"{c.rxErrors.toNat} missed",
      s!"  * Transmitted: {c.txPackets.toNat} packets ({c.txBytes.toNat} bytes), " ++
        s!"{c.txErrors.toNat} refused"]

/-- The traffic generated for each source port. -/
def traffic (all : List (UInt16 × TrafficStats)) : List String :=
  "--- Generated traffic ---" :: all.flatMap fun (port, s) =>
    [s!"* port {port.toNat}: {s.dataFrames.toNat} data frames, {s.probes.toNat} probes",
      s!"  | {s.rxOverflows.toNat} frames did not fit in the receive queues",
      s!"  | {s.poolExhausted.toNat} frames not generated because the buffer pool was empty"]

/-- The buffer pool. -/
def pool (p : Pool) : List String :=
  let s := p.stats
  ["--- Buffer pool ---",
    s!"* {s.capacity} buffers, {s.allocated.toNat} allocations, {s.freed.toNat} releases, " ++
      s!"{s.exhausted.toNat} failed allocations",
    s!"* Buffers still in use: {s.inUse.toNat}"]

end EtherRelay.Workbench.Report
