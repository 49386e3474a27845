import EtherRelay.Wire.Bytes
/-!
# Byte devices

A device takes bytes, possibly only a part of what it is offered, and can be asked to flush.
`Device.writeAll` offers the rest again until all is taken or the device fails.

`BoundedDevice` takes bytes, possibly in small portions, until its room is used up and then refuses
every byte.
-/

namespace EtherRelay

/-- Why a device stopped. -/
inductive DeviceError where
  /-- There is no room left. -/
  | full
  | flushFailed
  /-- The device took nothing and reported no failure. -/
  | stuck
  deriving Repr, DecidableEq

/-- The text shown for a failure. -/
def DeviceError.message : DeviceError → String
  | .full => "device full"
  | .flushFailed => "flush failed"
  | .stuck => "failed to write whole buffer"

/-- A place that takes bytes. `write` answers how many of them were taken. -/
class Device (ω : Type) where
  write : ω → Bytes → Except DeviceError Nat × ω
  flush : ω → Except DeviceError Unit × ω

/-- Write until everything is taken or the device fails. The bytes that were not taken are
part of the answer. -/
def Device.writeAll {ω : Type} [Device ω] (device : ω) (bytes : Bytes) :
    Except DeviceError Unit × Bytes × ω :=
  match bytes with
  | [] => (.ok (), [], device)
  | b :: rest =>
    match Device.write device (b :: rest) with
    | (.error e, device) => (.error e, b :: rest, device)
    | (.ok 0, device) => (.error .stuck, b :: rest, device)
    | (.ok (n + 1), device) => Device.writeAll device (rest.drop n)
termination_by bytes.length
decreasing_by
  simp only [List.length_drop, List.length_cons]
  omega

/-- A device with a fixed room in total, which may be unable to flush. -/
structure BoundedDevice where
  /-- The bytes that it still takes; none if there is no bound. -/
  room : Option Nat := none
  /-- The most bytes that each of the next writes takes, at least one; later writes are not
  bounded like this. -/
  portions : List Nat := []
  failFlush : Bool := false
  /-- Whether what it takes can be read back. -/
  keeps : Bool := true
  content : Bytes := []
  flushes : Nat := 0
  deriving Repr, DecidableEq

namespace BoundedDevice

/-- Takes everything and keeps nothing. -/
def void : BoundedDevice := { keeps := false }

/-- The part of the bytes that fits. -/
def fitting (d : BoundedDevice) (bytes : Bytes) : Bytes :=
  match d.room with
  | none => bytes
  | some room => bytes.take room

/-- The part of the bytes that the next write looks at. -/
def portion (d : BoundedDevice) (bytes : Bytes) : Bytes :=
  match d.portions with
  | [] => bytes
  | most :: _ => bytes.take (max 1 most)

/-- Take a part of the bytes that fits; fail if there are bytes and none fits. -/
def write (d : BoundedDevice) (bytes : Bytes) : Except DeviceError Nat × BoundedDevice :=
  let taken := d.fitting (d.portion bytes)
  if taken.isEmpty && !bytes.isEmpty then (.error .full, d)
  else (.ok taken.length, { d with
    room := d.room.map (· - taken.length)
    portions := d.portions.tail
    content := if d.keeps then d.content ++ taken else d.content })

def flush (d : BoundedDevice) : Except DeviceError Unit × BoundedDevice :=
  (if d.failFlush then .error .flushFailed else .ok (), { d with flushes := d.flushes + 1 })

instance : Device BoundedDevice where
  write := write
  flush := flush

end BoundedDevice

end EtherRelay
