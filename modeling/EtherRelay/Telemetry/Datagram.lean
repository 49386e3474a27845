import EtherRelay.Telemetry.Address
import EtherRelay.Telemetry.Sink
import EtherRelay.Wire.Bytes
/-!
# Telemetry in datagrams

A datagram sink sends each record as one datagram and never waits. Whether a datagram leaves
depends on the network alone: without a route every record is refused.
-/

namespace EtherRelay

/-- Sends every record to one endpoint. -/
structure DatagramSink where
  destination : Endpoint
  /-- Whether the network carries datagrams to the destination. -/
  routed : Bool := false
  /-- The datagrams that left, oldest first. -/
  sent : List Bytes := []
  deriving Repr, DecidableEq

namespace DatagramSink

def publish (s : DatagramSink) (record : String) : Except PublishError Unit × DatagramSink :=
  if s.routed then (.ok (), { s with sent := s.sent ++ [record.toUTF8.toList] })
  else (.error .io, s)

instance : Sink DatagramSink where
  publish := publish

end DatagramSink

end EtherRelay
