import EtherRelay.Capture.Block
import EtherRelay.Capture.Buffered
import EtherRelay.Number.Seconds
/-!
# Capture exporters

An exporter writes the frames that an interface transmits to a capture. Both headers are
written when it is made. A frame that can no longer be written is counted all the same and
never reported; only a flush tells of a failure.
-/

namespace EtherRelay.Capture

/-- A capture that is being written. -/
structure Exporter (ω : Type) where
  writer : Buffered ω
  /-- The frames offered so far. -/
  tracked : UInt64 := 0
  deriving Repr, DecidableEq

/-- The text for a flush that failed. -/
def flushFailure (e : DeviceError) : String := s!"failed to flush pcap writer: {e.message}"

namespace Exporter

variable {ω : Type} [Device ω]

/-- The pieces of both headers. -/
def headers : List Bytes :=
  Block.sectionHeader.pieces ++ Block.interfaceDescription.pieces

/-- Start a capture. The headers are shorter than the buffer, so no device can fail here. -/
def create (device : ω) : Exporter ω where
  writer := (({ device } : Buffered ω).writePieces headers).2

/-- A time in nanoseconds, to the nearest microsecond. The time is scaled in floating point, and the
count of microseconds passes through a time in seconds, of which each nanosecond stands for one. -/
def nearestMicrosecond (ns : Nat) : Nat :=
  let micros := ((Double.ofNanoseconds ns).mul (.ofNat 1000000)).roundHalfUp
  ((Double.ofNat micros).div (.ofNat 1000000000)).toNanoseconds

/-- Write a frame seen `ns` nanoseconds after the start. -/
def track (e : Exporter ω) (ns : Nat) (frame : Bytes) : Exporter ω where
  writer := (e.writer.writePieces (Block.packet (nearestMicrosecond ns) frame).pieces).2
  tracked := e.tracked + 1

/-- Hand everything to the device and flush it. -/
def flush (e : Exporter ω) : Except DeviceError Unit × Exporter ω :=
  let (r, writer) := e.writer.flush
  (r, { e with writer })

/-- Give up the exporter; what still waits is handed over if the device takes it. -/
def close (e : Exporter ω) : ω := e.writer.close

end Exporter

end EtherRelay.Capture
