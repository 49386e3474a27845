import EtherRelay.Capture.Block
/-!
# Reading captures

A capture is read block by block. The type of a block says how its body is laid out, and the body
of a packet says itself how many bytes of the frame follow. The lengths in front of and behind a
block must agree with each other and with the bytes that were read, as far as a word of four bytes
shows them.
-/

namespace EtherRelay.Capture

/-- What a block of a capture says. -/
inductive Item where
  /-- A section of this version begins. -/
  | header (major minor : Nat)
  /-- An interface of a link type, of whose frames up to `most` bytes are kept. -/
  | interface (link most : Nat)
  /-- A frame of a numbered interface, and the length that it had on the wire. -/
  | packet (interface micros wireLength : Nat) (frame : Bytes)
  deriving Repr, DecidableEq

/-- The first `n` bytes and what follows them. -/
def takeBytes (n : Nat) (file : Bytes) : Option (Bytes × Bytes) :=
  if n ≤ file.length then some (file.take n, file.drop n) else none

/-- The number that the first `width` bytes make, and what follows them. -/
def takeWord (width : Nat) (file : Bytes) : Option (Nat × Bytes) := do
  let (bytes, rest) ← takeBytes width file
  return (Wire.ofBigEndian bytes, rest)

/-- Read the body of a section header: the mark of the byte order, the version and the length of
the section. -/
def readHeader (file : Bytes) : Option (Item × Bytes) := do
  let (order, file) ← takeWord 4 file
  let (major, file) ← takeWord 2 file
  let (minor, file) ← takeWord 2 file
  let (_, file) ← takeWord 8 file
  if order = 0x1A2B3C4D then some (.header major minor, file) else none

/-- Read the body of an interface description. -/
def readInterface (file : Bytes) : Option (Item × Bytes) := do
  let (link, file) ← takeWord 2 file
  let (_, file) ← takeWord 2 file
  let (most, file) ← takeWord 4 file
  return (.interface link most, file)

/-- Read the body of a packet. -/
def readPacket (file : Bytes) : Option (Item × Bytes) := do
  let (interface, file) ← takeWord 4 file
  let (high, file) ← takeWord 4 file
  let (low, file) ← takeWord 4 file
  let (captured, file) ← takeWord 4 file
  let (wireLength, file) ← takeWord 4 file
  let (frame, file) ← takeBytes captured file
  let (_, file) ← takeBytes (Block.padding captured).length file
  return (.packet interface (high * UInt32.size + low) wireLength frame, file)

/-- Read the body of a block of this type. -/
def readBody (kind : Nat) (file : Bytes) : Option (Item × Bytes) :=
  if kind = Block.sectionHeader.kind then readHeader file
  else if kind = Block.interfaceDescription.kind then readInterface file
  else if kind = (Block.packet 0 []).kind then readPacket file
  else none

/-- Read the first block of a file. -/
def readItem (file : Bytes) : Option (Item × Bytes) := do
  let (kind, body) ← takeWord 4 file
  let (length, body) ← takeWord 4 body
  let (item, rest) ← readBody kind body
  let (again, rest) ← takeWord 4 rest
  if again = length ∧ (file.length - rest.length) % UInt32.size = length then some (item, rest)
  else none

/-- Read a file of at most `fuel` blocks to its end. -/
def readItems : (fuel : Nat) → Bytes → Option (List Item)
  | _, [] => some []
  | 0, _ :: _ => none
  | fuel + 1, b :: file => do
    let (item, rest) ← readItem (b :: file)
    let items ← readItems fuel rest
    return item :: items

/-- Read a whole file; no block is empty. -/
def read (file : Bytes) : Option (List Item) := readItems file.length file

end EtherRelay.Capture
