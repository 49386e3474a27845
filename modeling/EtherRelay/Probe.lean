import EtherRelay.Text.Hex
/-!
# Latency probes

A probe is an Ethernet frame tagged with a reserved VLAN id. Behind the tag it carries one
pair of counters for each hop that it crossed, a slow sync counter and a fast tick counter,
the most recent hop first. `isProbe` looks at the headers alone, so a frame that passes may
still be too short for `Stamps.decode`.

The latency between two hops is the difference of their counters in nanoseconds, modulo
`2 ^ 64`. Whether a pair goes backwards is decided apart, by the sign of the same difference in
words of 128 bits; such a pair counts as reordered.
-/

namespace EtherRelay

namespace Probe

/-- The VLAN id that marks a probe. -/
def vlanId : UInt16 := 0x0ABC

/-- Nanoseconds in one step of the sync counter. -/
def syncPeriodNs : Nat := 1000

/-- Nanoseconds in one step of the tick counter. -/
def tickPeriodNs : Nat := 4

/-- The bytes in front of the counters: both addresses, the tag type and the tag. -/
def headerLength : Nat := 18

/-- The bytes of the counters of three hops. -/
def stampsLength : Nat := 48

/-- The length of a complete probe without padding. -/
def frameLength : Nat := headerLength + stampsLength

/-- Why a frame is no probe that can be read. -/
inductive Error where
  | notVlan
  | wrongVlan (found : UInt16)
  | truncated (length needed : Nat)
  deriving Repr, DecidableEq

/-- The text shown for a frame that cannot be read. -/
def Error.message : Error → String
  | .notVlan => "frame does not carry a VLAN header"
  | .wrongVlan found =>
    s!"frame is tagged with VLAN 0x{Hex.ofNat 4 found.toNat} instead of the probe VLAN"
  | .truncated length needed =>
    s!"frame is {length} bytes long, but a probe needs at least {needed}"

/-- The VLAN id of a tagged frame: the low twelve bits of the two bytes behind the tag type.
The tag counts as complete once the two bytes that follow it are there as well. -/
def vlanOf (frame : Bytes) : Except Error UInt16 :=
  match frame.drop 12 with
  | t₀ :: t₁ :: tag =>
    if t₀ = 0x81 ∧ t₁ = 0x00 then
      match tag with
      | high :: low :: _ :: _ :: _ =>
        .ok (UInt16.ofNat (high.toNat % 16 * 256 + low.toNat))
      | _ => .error (.truncated frame.length headerLength)
    else .error .notVlan
  | _ => .error (.truncated frame.length headerLength)

/-- Whether the frame is tagged as a probe. -/
def isProbe (frame : Bytes) : Bool :=
  match vlanOf frame with
  | .ok id => id == vlanId
  | .error _ => false

/-- The counters of one hop. -/
structure Hop where
  sync : UInt64
  tick : UInt64
  deriving Repr, DecidableEq

namespace Hop

/-- Sixteen bytes, the sync counter first. -/
def encode (hop : Hop) : Bytes :=
  Wire.littleEndian 8 hop.sync.toNat ++ Wire.littleEndian 8 hop.tick.toNat

/-- Read the first sixteen bytes. -/
def decode (bytes : Bytes) : Hop where
  sync := UInt64.ofNat (Wire.ofLittleEndian (bytes.take 8))
  tick := UInt64.ofNat (Wire.ofLittleEndian ((bytes.drop 8).take 8))

/-- The time from `older` to `newer` in nanoseconds, modulo `2 ^ 64`. -/
def latencyNs (newer older : Hop) : UInt64 :=
  (newer.sync - older.sync) * UInt64.ofNat syncPeriodNs
    + (newer.tick - older.tick) * UInt64.ofNat tickPeriodNs

/-- The exact difference in nanoseconds. -/
def elapsedNs (newer older : Hop) : Int :=
  (newer.sync.toNat - older.sync.toNat : Int) * syncPeriodNs
    + (newer.tick.toNat - older.tick.toNat : Int) * tickPeriodNs

/-- A counter as a signed word of 128 bits. -/
def widen (counter : UInt64) : BitVec 128 := counter.toBitVec.setWidth 128

/-- The difference in nanoseconds, computed with signed words of 128 bits. -/
def signedNs (newer older : Hop) : BitVec 128 :=
  (widen newer.sync - widen older.sync) * BitVec.ofNat 128 syncPeriodNs
    + (widen newer.tick - widen older.tick) * BitVec.ofNat 128 tickPeriodNs

end Hop

/-- The counters of the three hops, the most recent one first. -/
structure Stamps where
  hop₀ : Hop
  hop₁ : Hop
  hop₂ : Hop
  deriving Repr, DecidableEq

/-- The latencies that a probe shows. -/
structure Latency where
  /-- From the middle hop to the most recent one. -/
  first : UInt64
  /-- From the oldest hop to the middle one. -/
  second : UInt64
  /-- How many of the two pairs go backwards. -/
  reordered : Nat
  deriving Repr, DecidableEq

namespace Stamps

def hops (stamps : Stamps) : List Hop := [stamps.hop₀, stamps.hop₁, stamps.hop₂]

/-- The counters as they are carried behind the tag. -/
def encode (stamps : Stamps) : Bytes :=
  stamps.hop₀.encode ++ stamps.hop₁.encode ++ stamps.hop₂.encode

/-- Read the counters of three hops; more bytes may follow. -/
def decodePayload (bytes : Bytes) : Option Stamps :=
  if bytes.length < stampsLength then none
  else some ⟨Hop.decode bytes, Hop.decode (bytes.drop 16), Hop.decode (bytes.drop 32)⟩

/-- Write the counters over the front of `out`, if there is room for all of them. -/
def encodeInto (stamps : Stamps) (out : Bytes) : Option Bytes :=
  if out.length < stampsLength then none
  else some (stamps.encode ++ out.drop stampsLength)

/-- Check the tag of a frame and read the counters behind it. -/
def decode (frame : Bytes) : Except Error Stamps := do
  let id ← vlanOf frame
  if id ≠ vlanId then throw (.wrongVlan id)
  match decodePayload (frame.drop headerLength) with
  | some stamps => pure stamps
  | none => throw (.truncated frame.length frameLength)

/-- The latencies between neighbouring hops. -/
def latency (stamps : Stamps) : Latency where
  first := Hop.latencyNs stamps.hop₀ stamps.hop₁
  second := Hop.latencyNs stamps.hop₁ stamps.hop₂
  reordered :=
    (if (Hop.signedNs stamps.hop₀ stamps.hop₁).slt 0 then 1 else 0)
      + (if (Hop.signedNs stamps.hop₁ stamps.hop₂).slt 0 then 1 else 0)

/-- The addresses, the tag type, the probe tag of lowest priority and an inner IPv4 type. -/
def frameHeader : Bytes :=
  [0x52, 0x54, 0x00, 0x12, 0x34, 0x56, 0x52, 0x54, 0x00, 0x65, 0x43, 0x21,
    0x81, 0x00, 0x0A, 0xBC, 0x08, 0x00]

/-- The shortest complete probe that carries these counters. -/
def frame (stamps : Stamps) : Bytes :=
  frameHeader ++ stamps.encode

theorem length_hop_encode (hop : Hop) : hop.encode.length = 16 := by
  simp [Hop.encode]

@[simp] theorem length_encode (stamps : Stamps) : stamps.encode.length = stampsLength := by
  simp [encode, length_hop_encode, stampsLength]

@[simp] theorem length_frame (stamps : Stamps) : stamps.frame.length = frameLength := by
  rw [frame, List.length_append, length_encode]
  rfl

end Stamps

end Probe

end EtherRelay
