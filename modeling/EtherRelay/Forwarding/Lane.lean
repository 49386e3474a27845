import EtherRelay.Counters
import EtherRelay.Ring
import EtherRelay.World
/-!
# Lanes

A lane is what the three stages of a context share: the relay ring from receiver to
transmitter, the stats ring from receiver to monitor, and the counters.
-/

namespace EtherRelay

/-- One end of a context: an interface, its queues, and the counter block to sample with it. -/
structure Binding where
  /-- The position of the interface in the world. -/
  interface : Nat
  queues : QueueSet
  hardware : Option Hardware.Layout := none
  deriving Repr, DecidableEq

/-- The rings and counters of one context. -/
structure Lane (β : Type) where
  context : UInt16
  relayRing : Ring β
  statsRing : Ring β
  counters : Counters := {}
  deriving Repr

namespace Lane

variable {β : Type}

/-- A lane with empty rings of the sizes that the settings ask for. -/
def create (context : UInt16) (settings : Settings) (names : RingNames) :
    Except RingError (Lane β) × RingNames :=
  let (relayName, names) := names.fresh RingRole.relay.kind context
  match Ring.create relayName settings.ringCapacity with
  | .error e => (.error e, names)
  | .ok relayRing =>
    let (statsName, names) := names.fresh RingRole.stats.kind context
    match Ring.create statsName settings.statsRingCapacity with
    | .error e => (.error e, names)
    | .ok statsRing => (.ok { context, relayRing, statsRing }, names)

/-- Count `n` more of one kind. -/
def count (lane : Lane β) (n : Nat) (c : Counter) : Lane β :=
  { lane with counters := lane.counters.add n c }

/-- Give up the receiver's halves of both rings; the answer holds what the rings give up. -/
def closeReceiver (lane : Lane β) : List β × Lane β :=
  let (relayed, relayRing) := lane.relayRing.closeProducer
  let (probes, statsRing) := lane.statsRing.closeProducer
  (relayed ++ probes, { lane with relayRing, statsRing })

/-- Give up the transmitter's half of the relay ring. -/
def closeTransmitter (lane : Lane β) : List β × Lane β :=
  let (relayed, relayRing) := lane.relayRing.closeConsumer
  (relayed, { lane with relayRing })

/-- Give up the monitor's half of the stats ring. -/
def closeMonitor (lane : Lane β) : List β × Lane β :=
  let (probes, statsRing) := lane.statsRing.closeConsumer
  (probes, { lane with statsRing })

end Lane

end EtherRelay
