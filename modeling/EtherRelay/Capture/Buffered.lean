import EtherRelay.Wire.Device
/-!
# Buffered writing

A buffered writer collects small writes in front of a device. A write that does not fit into
the buffer makes it flush first, and a write as large as the whole buffer goes straight to the
device. When a flush fails, the bytes that the device did not take stay in the buffer.
-/

namespace EtherRelay.Capture

/-- A device and the bytes that still wait for it. -/
structure Buffered (ω : Type) where
  device : ω
  pending : Bytes := []
  deriving Repr, DecidableEq

namespace Buffered

variable {ω : Type} [Device ω]

/-- The bytes that a buffer holds at most. -/
def capacity : Nat := 8192

/-- The bytes that still fit into the buffer. -/
def spare (b : Buffered ω) : Nat := capacity - b.pending.length

/-- Hand the waiting bytes to the device. -/
def drain (b : Buffered ω) : Except DeviceError Unit × Buffered ω :=
  let (r, rest, device) := Device.writeAll b.device b.pending
  (r, { device, pending := rest })

/-- Write bytes through the buffer. -/
def write (b : Buffered ω) (bytes : Bytes) : Except DeviceError Unit × Buffered ω :=
  let (made, b) := if b.spare < bytes.length then b.drain else (.ok (), b)
  match made with
  | .error e => (.error e, b)
  | .ok () =>
    if capacity ≤ bytes.length then
      let (r, _, device) := Device.writeAll b.device bytes
      (r, { b with device })
    else (.ok (), { b with pending := b.pending ++ bytes })

/-- Write several pieces in order, up to the first that fails. -/
def writePieces (b : Buffered ω) : List Bytes → Except DeviceError Unit × Buffered ω
  | [] => (.ok (), b)
  | piece :: pieces =>
    match b.write piece with
    | (.error e, b) => (.error e, b)
    | (.ok (), b) => b.writePieces pieces

/-- Hand the waiting bytes to the device and flush it. -/
def flush (b : Buffered ω) : Except DeviceError Unit × Buffered ω :=
  match b.drain with
  | (.error e, b) => (.error e, b)
  | (.ok (), b) =>
    let (r, device) := Device.flush b.device
    (r, { b with device })

/-- Hand over what still waits and give up the writer, whether that works or not. -/
def close (b : Buffered ω) : ω := b.drain.2.device

end Buffered

end EtherRelay.Capture
