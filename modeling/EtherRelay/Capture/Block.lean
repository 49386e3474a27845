import EtherRelay.Wire.Bytes
/-!
# Capture file blocks

A capture is a sequence of blocks in big-endian order: a section header, the description of
the one interface, and a block for each frame. Every block starts with its type and its
length, is padded to a multiple of four bytes, and ends with its length again.

`Block.pieces` is a block as it is handed to a writer, one field after another.
-/

namespace EtherRelay.Capture

/-- A block: its type and the fields of its body. -/
structure Block where
  kind : Nat
  body : List Bytes
  deriving Repr, DecidableEq

namespace Block

/-- The zero bytes behind `length` bytes that make a multiple of four. -/
def padding (length : Nat) : Bytes :=
  List.replicate ((4 - length % 4) % 4) 0

/-- The length of the whole block. -/
def length (b : Block) : Nat := b.body.flatten.length + 12

/-- The fields of a block in the order in which they are written. -/
def pieces (b : Block) : List Bytes :=
  [Wire.bigEndian 4 b.kind, Wire.bigEndian 4 b.length] ++ b.body ++
    [Wire.bigEndian 4 b.length]

/-- The block as it stands in the file. -/
def bytes (b : Block) : Bytes := b.pieces.flatten

/-- Version 1.0 and a section of unstated length. -/
def sectionHeader : Block where
  kind := 0x0A0D0D0A
  body := [Wire.bigEndian 4 0x1A2B3C4D, Wire.bigEndian 2 1, Wire.bigEndian 2 0,
    Wire.bigEndian 8 0]

/-- An Ethernet interface of which up to 65535 bytes of a frame are kept. -/
def interfaceDescription : Block where
  kind := 1
  body := [Wire.bigEndian 2 1, Wire.bigEndian 2 0, Wire.bigEndian 4 65535]

/-- A frame of the only interface, seen at a time given in microseconds. -/
def packet (micros : Nat) (frame : Bytes) : Block where
  kind := 6
  body := [Wire.bigEndian 4 0, Wire.bigEndian 4 (micros / UInt32.size), Wire.bigEndian 4 micros,
    Wire.bigEndian 4 frame.length, Wire.bigEndian 4 frame.length, frame, padding frame.length]

end Block

end EtherRelay.Capture
