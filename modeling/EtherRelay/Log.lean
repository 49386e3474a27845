import EtherRelay.Interface.Identity
import EtherRelay.Probe
import EtherRelay.Queues
import EtherRelay.Ring
import EtherRelay.Telemetry.Record
/-!
# Log events

What the relay reports about its own running, each kind of event as one constructor. An event
has a level, a text, and named fields in a fixed order.
-/

namespace EtherRelay

/-- The three workers of a context. -/
inductive WorkerRole where
  | receive
  | transmit
  | stats
  deriving Repr, DecidableEq

/-- The worker as messages show it. -/
def WorkerRole.text : WorkerRole → String
  | .receive => "receive"
  | .transmit => "transmit"
  | .stats => "stats"

/-- How much an event matters. -/
inductive Level where
  | warn
  | info
  | debug
  deriving Repr, DecidableEq

/-- The level as a log shows it. -/
def Level.text : Level → String
  | .warn => "WARN"
  | .info => "INFO"
  | .debug => "DEBUG"

/-- Something worth reporting. -/
inductive Event where
  | statsRingFull (context : UInt16) (ring : String)
  | relayRingFull (context : UInt16) (ring : String) (full : RingFull)
  | malformedProbe (context : UInt16) (length : Nat) (error : Probe.Error)
  | receiveStarted (context : UInt16) (interface : InterfaceId) (queues : QueueSet)
  | receiveStopped (context : UInt16)
  | transmitStarted (context : UInt16) (interface : InterfaceId) (queues : QueueSet)
  | transmitStopped (context : UInt16)
  | statsStarted (context : UInt16) (periodNs : Nat)
  | statsStopped (context : UInt16)
  | contextRunning (context : UInt16) (source destination : InterfaceId)
  | contextDrained (context : UInt16)
  | contextDestroyed (context : UInt16) (forwarded drops : UInt64)
  | contextAbandoned (context : UInt16)
  | workerPanicked (context : UInt16) (worker : WorkerRole)
  | relayStarted (contexts : Nat)
  | relayShutDown (contexts : Nat)
  | interfaceRemoved (context : UInt16) (interface : InterfaceId)
  | interfaceReset (interface : InterfaceId) (affected : Nat)
  | portReady (interface : InterfaceId)
  | deviceEventTooLate (kind : DeviceEventKind) (port : UInt16)
  | deviceEventUnknownPort (kind : DeviceEventKind) (port : UInt16)
  | deviceEventRaised (kind : DeviceEventKind) (interface : InterfaceId)
  deriving Repr

namespace Event

def level : Event → Level
  | malformedProbe .. | portReady .. => .debug
  | statsRingFull .. | relayRingFull .. | contextAbandoned .. | workerPanicked ..
  | interfaceRemoved .. | interfaceReset .. | deviceEventTooLate ..
  | deviceEventUnknownPort .. => .warn
  | _ => .info

def message : Event → String
  | statsRingFull .. => "stats ring is full, dropping latency probes"
  | relayRingFull .. => "relay ring is full, dropping whole bursts"
  | malformedProbe .. => "dropping malformed probe"
  | receiveStarted .. => "receive stage started"
  | receiveStopped .. => "receive stage stopped"
  | transmitStarted .. => "transmit stage started"
  | transmitStopped .. => "transmit stage stopped"
  | statsStarted .. => "stats worker started"
  | statsStopped .. => "stats worker stopped"
  | contextRunning .. => "forwarding context running"
  | contextDrained .. => "forwarding context drained"
  | contextDestroyed .. => "forwarding context destroyed"
  | contextAbandoned .. => "running context dropped without being joined, stopping it"
  | workerPanicked .. => "worker panicked during teardown"
  | relayStarted .. => "relay started"
  | relayShutDown .. => "relay shut down"
  | interfaceRemoved .. => "interface removed, stopping forwarding context"
  | interfaceReset .. => "interface reset"
  | portReady .. => "simulated port ready"
  | deviceEventTooLate .. => "device event scheduled after the end of the run, skipping"
  | deviceEventUnknownPort .. => "device event for unknown port, skipping"
  | deviceEventRaised .. => "raising device event"

/-- The named values of an event, as text. -/
def fields : Event → List (String × String)
  | statsRingFull context ring => [("context", toString context.toNat), ("ring", ring)]
  | relayRingFull context ring full =>
    [("context", toString context.toNat), ("ring", ring), ("requested", toString full.requested),
      ("free", toString full.free)]
  | malformedProbe context length error =>
    [("tag", contextTag context), ("len", toString length), ("error", error.message)]
  | receiveStarted context interface queues | transmitStarted context interface queues =>
    [("context", toString context.toNat), ("interface", interface.text),
      ("queues", queues.text)]
  | statsStarted context periodNs =>
    [("context", toString context.toNat),
      ("period_ms", toString (periodNs / 1000000 % UInt64.size))]
  | contextRunning context source destination =>
    [("context", toString context.toNat), ("source", source.text),
      ("destination", destination.text)]
  | contextDestroyed context forwarded drops =>
    [("context", toString context.toNat), ("forwarded", toString forwarded.toNat),
      ("drops", toString drops.toNat)]
  | receiveStopped context | transmitStopped context | statsStopped context
  | contextDrained context | contextAbandoned context =>
    [("context", toString context.toNat)]
  | workerPanicked context worker =>
    [("context", toString context.toNat), ("worker", worker.text)]
  | relayStarted contexts | relayShutDown contexts => [("contexts", toString contexts)]
  | interfaceRemoved context interface =>
    [("context", toString context.toNat), ("interface", interface.text)]
  | interfaceReset interface affected =>
    [("interface", interface.text), ("affected", toString affected)]
  | portReady interface =>
    [("interface", interface.name), ("port", toString interface.port.toNat)]
  | deviceEventTooLate kind port | deviceEventUnknownPort kind port =>
    [("kind", kind.text), ("port", toString port.toNat)]
  | deviceEventRaised kind interface => [("kind", kind.text), ("interface", interface.text)]

end Event

end EtherRelay
