import EtherRelay.Wire.Bytes
/-!
# Frame buffers

A buffer is a stretch of storage with some room in front and a frame behind it. Appending
writes behind the frame, and fails without an effect when the storage has too little room
left. What earlier users left in the storage is never part of the frame.
-/

namespace EtherRelay

/-- Storage of which `length` bytes behind the headroom are the frame. -/
structure Buffer where
  storage : Bytes
  headroom : Nat
  length : Nat := 0
  /-- Whether the storage belongs to a pool. -/
  pooled : Bool
  deriving Repr, DecidableEq

namespace Buffer

/-- The room in front of the frame where nothing else is asked for. -/
def defaultHeadroom : Nat := 128

/-- The room for a frame where nothing else is asked for. -/
def defaultDataRoom : Nat := 2048

/-- A buffer of its own that holds exactly this frame. -/
def ofFrame (frame : Bytes) : Buffer where
  storage := List.replicate defaultHeadroom 0 ++ frame
  headroom := defaultHeadroom
  length := frame.length
  pooled := false

/-- The frame. -/
def data (b : Buffer) : Bytes := (b.storage.drop b.headroom).take b.length

def isEmpty (b : Buffer) : Bool := b.length == 0

/-- The bytes that can still be appended. -/
def tailroom (b : Buffer) : Nat := b.storage.length - b.headroom - b.length

/-- Write bytes behind the frame, if they fit. -/
def append? (b : Buffer) (bytes : Bytes) : Option Buffer :=
  if b.tailroom < bytes.length then none
  else
    let start := b.headroom + b.length
    some { b with
      storage := b.storage.take start ++ bytes ++ b.storage.drop (start + bytes.length)
      length := b.length + bytes.length }

/-- A summary of the buffer without its content. -/
def describe (b : Buffer) : String :=
  s!"PacketBuffer \x7b len: {b.length}, headroom: {b.headroom}, pooled: {b.pooled} \x7d"

end Buffer

end EtherRelay
