import EtherRelay.Json.Members
import EtherRelay.Workbench.Configuration
/-!
# Configuration files

The fields of a configuration and their names, order and usual values. A file holds one
configuration as JSON text. Periods are given in milliseconds.
-/

namespace EtherRelay.Workbench

open JsonReader

/-- What becomes of a receive policy that is given by its name alone. -/
def policyAlone : RxQueuePolicy → JsonReader RxQueuePolicy
  | .fixed _ => fail (.unfit "invalid type: unit variant, expected struct variant")
  | .roundRobin => pure .roundRobin

/-- The content of a receive policy: the position of the queue, or nothing. -/
def policyContent : RxQueuePolicy → JsonReader RxQueuePolicy
  | .fixed index => do
    let index ← record "struct variant RxQueuePolicyJson::Fixed" index
      [.needed "index" size fun _ n => n]
    pure (.fixed index)
  | .roundRobin => do
    nothing
    pure .roundRobin

/-- A receive policy: a name, or `fixed` with the position of the queue. -/
def rxQueuePolicy : JsonReader RxQueuePolicy :=
  choice [("fixed", .fixed 0), ("roundRobin", .roundRobin)] policyAlone policyContent

/-- A backoff policy. -/
def backoff : JsonReader BackoffPolicy :=
  choice [("spin", .spin), ("spinThenYield", .spinThenYield)] pure fun p => do
    nothing
    pure p

/-- A number of milliseconds, as nanoseconds. -/
def milliseconds : JsonReader Nat := do pure ((← word64).toNat * 1000000)

/-- The settings of the relay. -/
def settings : JsonReader Settings :=
  record "struct RelayJsonConfig" {}
    [.usual "burst_size" size fun s n => { s with burstSize := n },
      .usual "ring_capacity" size fun s n => { s with ringCapacity := n },
      .usual "stats_ring_capacity" size fun s n => { s with statsRingCapacity := n },
      .usual "stats_period_ms" milliseconds fun s n => { s with statsPeriodNs := n },
      .usual "probe_poll_interval_ms" milliseconds fun s n => { s with probePollNs := n },
      .usual "rx_queue_policy" rxQueuePolicy fun s p => { s with rxQueuePolicy := p },
      .usual "backoff" backoff fun s p => { s with backoff := p },
      .usual "extended_hardware_counters" boolean fun s b => { s with extendedHardware := b }]

/-- A simulated port. -/
def portPlan : JsonReader PortPlan :=
  record "struct InterfaceJson" {}
    [.needed "name" string fun p s => { p with name := s },
      .needed "port" word16 fun p n => { p with port := n },
      .usual "rx_queues" word16 fun p n => { p with rxQueues := n },
      .usual "tx_queues" word16 fun p n => { p with txQueues := n },
      .usual "rx_depth" size fun p n => { p with rxDepth := n },
      .usual "tx_limit" (optional size) fun p n => { p with txLimit := n },
      .usual "cmac" (optional byte) fun p n => { p with cmac := n }]

/-- One end of a context. -/
def endPlan : JsonReader EndPlan :=
  record "struct PortQueuesJson" {}
    [.needed "port" word16 fun e n => { e with port := n },
      .needed "queues" (list word16) fun e q => { e with queues := q }]

/-- A context. -/
def contextPlan : JsonReader ContextPlan :=
  record "struct ContextJson" {}
    [.needed "id" word16 fun c n => { c with id := n },
      .needed "source" endPlan fun c e => { c with source := e },
      .needed "destination" endPlan fun c e => { c with destination := e }]

/-- The traffic. -/
def trafficPlan : JsonReader TrafficPlan :=
  record "struct TrafficJson" {}
    [.usual "packets_per_second" word64 fun t n => { t with packetsPerSecond := n },
      .usual "burst" size fun t n => { t with burst := n },
      .usual "probe_every" word64 fun t n => { t with probeEvery := n },
      .usual "frame_size" size fun t n => { t with frameSize := n },
      .usual "pool_size" size fun t n => { t with poolSize := n },
      .usual "hop_latency_ns" (pair word64) fun t p => { t with hopLatencyNs := p }]

/-- The kind of a device event. -/
def eventKind : JsonReader DeviceEventKind := do
  let name ← string
  match [DeviceEventKind.removed, .reset].find? (·.text == name) with
  | some kind => pure kind
  | none =>
    fail (.unfit s!"unknown device event `{name}` (expected `removed` or `reset`)")

/-- A device event. -/
def eventPlan : JsonReader DeviceEventPlan :=
  record "struct DeviceEventJson" {}
    [.needed "at_ms" word64 fun e n => { e with atMs := n },
      .needed "port" word16 fun e n => { e with port := n },
      .needed "kind" eventKind fun e k => { e with kind := k }]

/-- A whole configuration. -/
def configuration : JsonReader Configuration :=
  record "struct WorkbenchJsonConfig" {}
    [.usual "relay" settings fun c s => { c with relay := s },
      .needed "interfaces" (list portPlan) fun c p => { c with interfaces := p },
      .needed "contexts" (list contextPlan) fun c p => { c with contexts := p },
      .usual "traffic" trafficPlan fun c t => { c with traffic := t },
      .usual "events" (list eventPlan) fun c e => { c with events := e }]

/-- Why a file gives no configuration. -/
inductive LoadError where
  | unreadable
  /-- It is a folder, which can be opened but not read. -/
  | folder
  | invalid (e : JsonError)
  deriving Repr, DecidableEq

/-- The text shown for a failure with the file at `path`. -/
def LoadError.message (path : String) : LoadError → String
  | .unreadable => s!"failed to open config file at {path}"
  | .folder | .invalid _ => s!"failed to parse config file at {path}"

namespace Configuration

/-- Read a configuration from the content of its file. -/
def ofFile (content : Bytes) : Except LoadError Configuration :=
  (configuration.run content).mapError .invalid

/-- Read a description of traffic alone, its fields in the order of their names. -/
def loadTraffic (text : Bytes) : Except JsonError TrafficPlan :=
  trafficPlan.run (JsonMember.ordered text)

end Configuration

end EtherRelay.Workbench
