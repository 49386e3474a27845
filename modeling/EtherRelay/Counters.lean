/-!
# The counters of a forwarding context

Thirteen cumulative counters, each of which wraps at `2 ^ 64`. `Counters.add` is the only way
to change one, and the lemmas say that it changes that one alone.
-/

namespace EtherRelay

/-- What is counted. -/
inductive Counter where
  | rxBursts | rxPackets | relayed | probesEnqueued | relayOverflowDrops | probeOverflowDrops
  | txBursts | forwarded | txPartialDrops
  | probesDecoded | malformedProbes | reorderedHops | publishFailures
  deriving Repr, DecidableEq

namespace Counter

/-- The counters in the order in which they are listed. -/
def all : List Counter :=
  [rxBursts, rxPackets, relayed, probesEnqueued, relayOverflowDrops, probeOverflowDrops,
    txBursts, forwarded, txPartialDrops,
    probesDecoded, malformedProbes, reorderedHops, publishFailures]

/-- The name of the counter in records and reports. -/
def name : Counter → String
  | rxBursts => "rx_bursts"
  | rxPackets => "rx_packets"
  | relayed => "relayed"
  | probesEnqueued => "probes_enqueued"
  | relayOverflowDrops => "relay_overflow_drops"
  | probeOverflowDrops => "probe_overflow_drops"
  | txBursts => "tx_bursts"
  | forwarded => "forwarded"
  | txPartialDrops => "tx_partial_drops"
  | probesDecoded => "probes_decoded"
  | malformedProbes => "malformed_probes"
  | reorderedHops => "reordered_hops"
  | publishFailures => "publish_failures"

/-- The counters that telemetry carries, in its order. -/
def reported : List Counter :=
  [forwarded, relayOverflowDrops, probeOverflowDrops, txPartialDrops, probesDecoded,
    malformedProbes, reorderedHops, rxBursts, txBursts]

end Counter

/-- The values of all counters. -/
structure Counters where
  rxBursts : UInt64 := 0
  rxPackets : UInt64 := 0
  relayed : UInt64 := 0
  probesEnqueued : UInt64 := 0
  relayOverflowDrops : UInt64 := 0
  probeOverflowDrops : UInt64 := 0
  txBursts : UInt64 := 0
  forwarded : UInt64 := 0
  txPartialDrops : UInt64 := 0
  probesDecoded : UInt64 := 0
  malformedProbes : UInt64 := 0
  reorderedHops : UInt64 := 0
  publishFailures : UInt64 := 0
  deriving Repr, DecidableEq

namespace Counters

/-- The value of one counter. -/
def get (c : Counters) : Counter → UInt64
  | .rxBursts => c.rxBursts
  | .rxPackets => c.rxPackets
  | .relayed => c.relayed
  | .probesEnqueued => c.probesEnqueued
  | .relayOverflowDrops => c.relayOverflowDrops
  | .probeOverflowDrops => c.probeOverflowDrops
  | .txBursts => c.txBursts
  | .forwarded => c.forwarded
  | .txPartialDrops => c.txPartialDrops
  | .probesDecoded => c.probesDecoded
  | .malformedProbes => c.malformedProbes
  | .reorderedHops => c.reorderedHops
  | .publishFailures => c.publishFailures

/-- Count `n` more of one kind. -/
def add (c : Counters) (n : Nat) : Counter → Counters
  | .rxBursts => { c with rxBursts := c.rxBursts + UInt64.ofNat n }
  | .rxPackets => { c with rxPackets := c.rxPackets + UInt64.ofNat n }
  | .relayed => { c with relayed := c.relayed + UInt64.ofNat n }
  | .probesEnqueued => { c with probesEnqueued := c.probesEnqueued + UInt64.ofNat n }
  | .relayOverflowDrops => { c with relayOverflowDrops := c.relayOverflowDrops + UInt64.ofNat n }
  | .probeOverflowDrops => { c with probeOverflowDrops := c.probeOverflowDrops + UInt64.ofNat n }
  | .txBursts => { c with txBursts := c.txBursts + UInt64.ofNat n }
  | .forwarded => { c with forwarded := c.forwarded + UInt64.ofNat n }
  | .txPartialDrops => { c with txPartialDrops := c.txPartialDrops + UInt64.ofNat n }
  | .probesDecoded => { c with probesDecoded := c.probesDecoded + UInt64.ofNat n }
  | .malformedProbes => { c with malformedProbes := c.malformedProbes + UInt64.ofNat n }
  | .reorderedHops => { c with reorderedHops := c.reorderedHops + UInt64.ofNat n }
  | .publishFailures => { c with publishFailures := c.publishFailures + UInt64.ofNat n }

theorem get_add (c : Counters) (n : Nat) (k j : Counter) :
    (c.add n k).get j = if j = k then c.get k + UInt64.ofNat n else c.get j := by
  cases k <;> cases j <;> rfl

@[simp] theorem get_add_self (c : Counters) (n : Nat) (k : Counter) :
    (c.add n k).get k = c.get k + UInt64.ofNat n := by
  simp [get_add]

/-- All values in the order of `Counter.all`. -/
def values (c : Counters) : List UInt64 := Counter.all.map c.get

/-- The frames that were freed instead of forwarded. -/
def totalDrops (c : Counters) : UInt64 :=
  c.relayOverflowDrops + c.probeOverflowDrops + c.txPartialDrops + c.malformedProbes

/-- The counters that telemetry carries, with their names. -/
def reported (c : Counters) : List (String × UInt64) :=
  Counter.reported.map fun k => (k.name, c.get k)

end Counters

end EtherRelay
