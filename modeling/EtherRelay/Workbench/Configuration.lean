import EtherRelay.Interface.Identity
import EtherRelay.Interface
import EtherRelay.Settings
/-!
# Workbench configurations

What a run of the workbench is set up from: the settings of the relay, the simulated ports, the
contexts between them, the traffic to generate, and the device events to raise on the way.
Nothing here has been checked for consistency: ports may be missing or declared twice, and a
list of queues may be empty.
-/

namespace EtherRelay.Workbench

/-- A simulated port. -/
structure PortPlan where
  name : String := ""
  port : UInt16 := 0
  rxQueues : UInt16 := 1
  txQueues : UInt16 := 1
  rxDepth : Nat := Interface.defaultRxDepth
  /-- The most frames that one call to transmit accepts. -/
  txLimit : Option Nat := none
  /-- The counter block that also counts the traffic of the port. -/
  cmac : Option UInt8 := none
  deriving Repr, DecidableEq

/-- One end of a context. -/
structure EndPlan where
  port : UInt16 := 0
  queues : List QueueId := []
  deriving Repr, DecidableEq

/-- A context between two ports. -/
structure ContextPlan where
  id : UInt16 := 0
  source : EndPlan := {}
  destination : EndPlan := {}
  deriving Repr, DecidableEq

/-- The traffic that arrives at the source port of every context. -/
structure TrafficPlan where
  packetsPerSecond : UInt64 := 100000
  /-- The frames that arrive at once. -/
  burst : Nat := 16
  /-- Every so many frames one is a latency probe; none if zero. -/
  probeEvery : UInt64 := 1000
  /-- The length of a data frame. -/
  frameSize : Nat := 64
  /-- The number of buffers in the pool that all ports share. -/
  poolSize : Nat := 16384
  /-- The bounds between which the latency of a hop lies, in either order. -/
  hopLatencyNs : UInt64 × UInt64 := (500, 5000)
  deriving Repr, DecidableEq

/-- A device event to raise during the run. -/
structure DeviceEventPlan where
  /-- The milliseconds since the start of the run. -/
  atMs : UInt64 := 0
  port : UInt16 := 0
  kind : DeviceEventKind := .removed
  deriving Repr, DecidableEq

/-- A whole run. -/
structure Configuration where
  relay : Settings := {}
  interfaces : List PortPlan := []
  contexts : List ContextPlan := []
  traffic : TrafficPlan := {}
  events : List DeviceEventPlan := []
  deriving Repr, DecidableEq

/-- The queue set that one end of a context names. -/
def EndPlan.queueSet (e : EndPlan) : Except ConfigError QueueSet := QueueSet.ofList e.queues

end EtherRelay.Workbench
