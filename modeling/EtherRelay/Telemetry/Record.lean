import EtherRelay.Counters
import EtherRelay.Hardware.Snapshot
import EtherRelay.Interface.Identity
import EtherRelay.Probe
/-!
# Telemetry records

A record is one line of text: a measurement, its tag in parentheses, and fields in a fixed
order. Two measurements are made of a context: the latency that a probe shows, and a sample
of all its counters.
-/

namespace EtherRelay

/-- The measurement for counter samples. -/
def statsMeasurement : String := "Forwarder_stats"

/-- The measurement for probe latencies. -/
def latencyMeasurement : String := "Latency_stats"

/-- A measurement and what was measured. -/
structure Record where
  measurement : String
  tag : String
  fields : List (String × String)
  deriving Repr, DecidableEq

namespace Record

/-- The line, its line feed included. -/
def line (r : Record) : String :=
  r.measurement ++ "(" ++ r.tag ++ ")"
    ++ String.join (r.fields.map fun (key, value) => "," ++ key ++ "=" ++ value) ++ "\n"

end Record

/-- The tag of the records of a context. -/
def contextTag (context : UInt16) : String := s!"ctx-{context.toNat}"

/-- The record for the latencies of one probe. -/
def Probe.Latency.record (latency : Probe.Latency) (context : UInt16) : Record where
  measurement := latencyMeasurement
  tag := contextTag context
  fields := [("hop(0)", toString latency.first.toNat), ("hop(1)", toString latency.second.toNat)]

/-- The counters of one end of a context. -/
structure PortSample where
  interface : InterfaceId
  counters : InterfaceCounters
  hardware : Option Hardware.Snapshot
  deriving Repr, DecidableEq

/-- The counters of a context and of both its ends. -/
structure Sample where
  source : PortSample
  destination : PortSample
  relay : Counters
  /-- The time since the previous sample. -/
  deltaNs : UInt64
  deriving Repr, DecidableEq

namespace PortSample

/-- The names of the six interface counters in records. -/
def counterNames : List String :=
  ["rx_packets", "rx_Bytes", "rx_fail_packets", "tx_packets", "tx_Bytes", "tx_fail_packets"]

/-- The fields for the interface counters; `side` is put in front of their names. -/
def counterFields (side : String) (p : PortSample) : List (String × String) :=
  (counterNames.zip p.counters.values).map fun (name, value) =>
    (side ++ name, toString value.toNat)

/-- The fields for the hardware counters, if there are any. -/
def hardwareFields (side : String) (p : PortSample) : List (String × String) :=
  match p.hardware with
  | none => []
  | some snapshot => snapshot.fields.map fun (name, value) =>
    (side ++ "hw_" ++ name, toString value.toNat)

end PortSample

namespace Sample

/-- Put in front of the names of the source's counters. -/
def sourceSide : String := "(R)"

/-- Put in front of the names of the destination's counters. -/
def destinationSide : String := "(T)"

/-- The record for a sample of a context. -/
def record (s : Sample) (context : UInt16) : Record where
  measurement := statsMeasurement
  tag := contextTag context
  fields :=
    [(s!"rx_port({s.source.interface.port.toNat})", s.source.interface.name),
      (s!"tx_port({s.destination.interface.port.toNat})", s.destination.interface.name)]
    ++ s.source.counterFields sourceSide
    ++ s.destination.counterFields destinationSide
    ++ s.source.hardwareFields sourceSide
    ++ s.destination.hardwareFields destinationSide
    ++ s.relay.reported.map (fun (name, value) => (name, toString value.toNat))
    ++ [("DELTA_NS", toString s.deltaNs.toNat)]

end Sample

end EtherRelay
