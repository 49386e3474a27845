/-!
# Layout of a hardware counter block

Each MAC of the card has one block of counter registers. The blocks follow one another at a
fixed stride, and within a block every register has a fixed place: the latch register, four
packet and byte totals for each direction, and the breakdown of received frames.
-/

namespace EtherRelay.Hardware

/-- Where the first block starts. -/
def firstBlock : UInt32 := 0x8000

/-- The distance between the starts of two neighbouring blocks. -/
def blockStride : UInt32 := 0x4000

/-- The place of the latch register in its block. -/
def latchPlace : UInt32 := 0x02B0

/-- The value that, written to a latch register, latches the block. -/
def latchValue : UInt32 := 1

/-- The latch register of the topmost block, which reaches up to the last offset. -/
def lastLatch : UInt32 := 0xFFFFC2B0

/-- The totals kept for each direction. -/
structure Totals (α : Type) where
  packets : α
  goodPackets : α
  bytes : α
  goodBytes : α
  deriving Repr, DecidableEq

namespace Totals

def map {α β : Type} (f : α → β) (t : Totals α) : Totals β where
  packets := f t.packets
  goodPackets := f t.goodPackets
  bytes := f t.bytes
  goodBytes := f t.goodBytes

def toList {α : Type} (t : Totals α) : List α :=
  [t.packets, t.goodPackets, t.bytes, t.goodBytes]

end Totals

/-- The places of the transmit totals. -/
def txPlaces : Totals UInt32 := ⟨0x0500, 0x0508, 0x0510, 0x0518⟩

/-- The places of the receive totals. -/
def rxPlaces : Totals UInt32 := ⟨0x0608, 0x0610, 0x0618, 0x0620⟩

/-- The breakdown of received frames, in register order. -/
def breakdownNames : List String :=
  ["rx_pkt_64", "rx_pkt_65_127", "rx_pkt_128_255", "rx_pkt_256_511", "rx_pkt_512_1023",
    "rx_pkt_1024_1518", "rx_pkt_1519_1522", "rx_pkt_1523_1548", "rx_pkt_1549_2047",
    "rx_pkt_2048_4095", "rx_pkt_4096_8191", "rx_pkt_8192_9215", "rx_pkt_large",
    "rx_pkt_small", "rx_undersize", "rx_fragment", "rx_oversize", "rx_toolong", "rx_jabber",
    "rx_bad_fcs", "rx_pkt_bad_fcs", "rx_stomped_fcs", "rx_unicast", "rx_multicast",
    "rx_broadcast", "rx_vlan", "rx_pause", "rx_user_pause", "rx_in_range_err",
    "rx_truncated"]

/-- The place of the first breakdown register; the others follow eight bytes apart. -/
def breakdownPlace : UInt32 := 0x0628

/-- The offsets of the registers of one block. It is not the topmost block, whose end is no
offset. -/
structure Layout where
  latch : UInt32
  tx : Totals UInt32
  rx : Totals UInt32
  extended : List (String × UInt32)
  latch_ne : latch ≠ lastLatch
  deriving Repr, DecidableEq

namespace Layout

/-- The start of the block with the given number. -/
def base (index : UInt8) : UInt32 :=
  firstBlock + blockStride * index.toUInt32

/-- A block starts in the first half of the offsets, so none of its offsets wraps. -/
theorem toNat_base (index : UInt8) : (base index).toNat = 0x8000 + 0x4000 * index.toNat := by
  have hindex := index.toNat_lt
  rw [base, firstBlock, blockStride, UInt32.toNat_add, UInt32.toNat_mul, UInt8.toNat_toUInt32]
  simp
  omega

theorem toNat_base_add_latchPlace (index : UInt8) :
    (base index + latchPlace).toNat = 0x82B0 + 0x4000 * index.toNat := by
  have hindex := index.toNat_lt
  have hplace : latchPlace.toNat = 0x02B0 := rfl
  rw [UInt32.toNat_add, toNat_base, hplace]
  omega

theorem base_add_latchPlace_ne (index : UInt8) : base index + latchPlace ≠ lastLatch := by
  have hindex := index.toNat_lt
  have hlast : lastLatch.toNat = 0xFFFFC2B0 := rfl
  rw [ne_eq, ← UInt32.toNat_inj, toNat_base_add_latchPlace, hlast]
  omega

/-- The registers of the block with the given number. -/
def ofIndex (index : UInt8) : Layout where
  latch := base index + latchPlace
  tx := txPlaces.map (base index + ·)
  rx := rxPlaces.map (base index + ·)
  extended := breakdownNames.zipIdx.map fun (name, i) =>
    (name, base index + (breakdownPlace + 8 * UInt32.ofNat i))
  latch_ne := base_add_latchPlace_ne index

end Layout

end EtherRelay.Hardware
