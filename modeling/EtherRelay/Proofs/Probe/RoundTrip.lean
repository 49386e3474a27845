import EtherRelay.Proofs.Probe.Acceptance

/-!
# Counters written and read back

The counters of three hops are written as six words of eight bytes, one behind the other. Reading
what was written gives the counters back, and so it does with anything behind them. The other way
round, the words that were read determine their bytes, so that writing them where they were read
changes nothing.

`Stamps.writeAt?` writes word by word in place. Writes that follow each other are one write of all
their bytes, which is how `Stamps.encodeInto` puts it.
-/

namespace EtherRelay.Probe

/-! ## Words and hops -/

theorem ofLittleEndian_word (word : UInt64) :
    UInt64.ofNat (Wire.ofLittleEndian (Wire.littleEndian 8 word.toNat)) = word := by
  have hspan : word.toNat < Wire.span 8 := word.toNat_lt
  rw [Wire.ofLittleEndian_littleEndian, Nat.mod_eq_of_lt hspan, UInt64.ofNat_toNat]

theorem littleEndian_word {bytes : Bytes} (h : bytes.length = 8) :
    Wire.littleEndian 8 (UInt64.ofNat (Wire.ofLittleEndian bytes)).toNat = bytes := by
  have hspan : Wire.ofLittleEndian bytes < 2 ^ 64 := by
    have hlt := Wire.ofLittleEndian_lt bytes
    rwa [h] at hlt
  rw [UInt64.toNat_ofNat', Nat.mod_eq_of_lt hspan, ← h, Wire.littleEndian_ofLittleEndian]

namespace Hop

theorem decode_encode (hop : Hop) (rest : Bytes) : decode (hop.encode ++ rest) = hop := by
  have hsync : (hop.encode ++ rest).take 8 = Wire.littleEndian 8 hop.sync.toNat := by
    rw [encode, List.append_assoc, List.take_left' (Wire.length_littleEndian _ _)]
  have htick : ((hop.encode ++ rest).drop 8).take 8 = Wire.littleEndian 8 hop.tick.toNat := by
    rw [encode, List.append_assoc, List.drop_left' (Wire.length_littleEndian _ _),
      List.take_left' (Wire.length_littleEndian _ _)]
  rw [decode, hsync, htick, ofLittleEndian_word, ofLittleEndian_word]

theorem encode_decode {bytes : Bytes} (h : 16 ≤ bytes.length) :
    (decode bytes).encode = bytes.take 16 := by
  have hsync : (bytes.take 8).length = 8 := by
    rw [List.length_take]
    omega
  have htick : ((bytes.drop 8).take 8).length = 8 := by
    rw [List.length_take, List.length_drop]
    omega
  rw [encode, decode, littleEndian_word hsync, littleEndian_word htick, ← List.take_add]

end Hop

/-! ## Counters of three hops -/

namespace Stamps

variable {stamps : Stamps} {bytes frame : Bytes}

theorem decodePayload_encode (stamps : Stamps) (rest : Bytes) :
    decodePayload (stamps.encode ++ rest) = some stamps := by
  obtain ⟨hop₀, hop₁, hop₂⟩ := stamps
  have hlong : ¬(encode ⟨hop₀, hop₁, hop₂⟩ ++ rest).length < stampsLength := by
    rw [List.length_append, length_encode]
    omega
  have hsplit : encode ⟨hop₀, hop₁, hop₂⟩ ++ rest =
      hop₀.encode ++ (hop₁.encode ++ (hop₂.encode ++ rest)) := by
    simp only [encode, List.append_assoc]
  have hdrop (hop : Hop) (more : Bytes) : (hop.encode ++ more).drop 16 = more :=
    List.drop_left' (length_hop_encode hop)
  have hthird : (encode ⟨hop₀, hop₁, hop₂⟩ ++ rest).drop 32 = hop₂.encode ++ rest := by
    rw [hsplit, ← List.drop_drop (i := 16) (j := 16), hdrop, hdrop]
  rw [decodePayload, if_neg hlong, hthird, hsplit, hdrop, Hop.decode_encode, Hop.decode_encode,
    Hop.decode_encode]

/-- Counters that were read determine the bytes that they were read from. -/
theorem encode_of_decodePayload (h : decodePayload bytes = some stamps) :
    stampsLength ≤ bytes.length ∧ stamps.encode = bytes.take stampsLength := by
  rw [decodePayload] at h
  split at h
  · cases h
  · next hshort =>
    have hlong : 48 ≤ bytes.length := Nat.le_of_not_lt hshort
    cases h
    refine ⟨hlong, ?_⟩
    have hfront : bytes.take 16 ++ (bytes.drop 16).take 16 = bytes.take 32 := List.take_add.symm
    have hall : bytes.take 32 ++ (bytes.drop 32).take 16 = bytes.take 48 := List.take_add.symm
    rw [encode, Hop.encode_decode (by omega), Hop.encode_decode (by rw [List.length_drop]; omega),
      Hop.encode_decode (by rw [List.length_drop]; omega), hfront, hall]
    rfl

theorem vlanOf_frame (stamps : Stamps) : vlanOf stamps.frame = .ok vlanId := rfl

theorem isProbe_frame (stamps : Stamps) : isProbe stamps.frame = true := by
  rw [isProbe, vlanOf_frame]
  rfl

theorem decode_frame (stamps : Stamps) : decode stamps.frame = .ok stamps := by
  have hpayload : stamps.frame.drop headerLength = stamps.encode ++ [] := by
    rw [List.append_nil]
    rfl
  rw [decode_of_ok (vlanOf_frame stamps), if_neg (not_not_intro rfl), hpayload,
    decodePayload_encode]

theorem decodePayload_of_decode (h : decode frame = .ok stamps) :
    decodePayload (frame.drop headerLength) = some stamps := by
  obtain ⟨hprobe, -, -⟩ := (decode_classified frame).ok_iff stamps |>.mp h
  rw [decode_of_ok (vlanOf_of_isProbe hprobe), if_neg (not_not_intro rfl)] at h
  cases hread : decodePayload (frame.drop headerLength) with
  | none =>
      rw [hread] at h
      cases h
  | some read =>
      rw [hread] at h
      cases h
      rfl

end Stamps

/-! ## Writing in place -/

/-- The bytes with those from `start` on replaced by `piece`. There is no answer unless the whole
piece lies inside of them. -/
def overwrite? (bytes : Bytes) (start : Nat) (piece : Bytes) : Option Bytes :=
  if start + piece.length ≤ bytes.length then
    some (bytes.take start ++ piece ++ bytes.drop (start + piece.length))
  else none

/-- Both counters of a hop, each in its place. -/
def Hop.writeAt? (hop : Hop) (bytes : Bytes) (start : Nat) : Option Bytes := do
  let bytes ← overwrite? bytes start (Wire.littleEndian 8 hop.sync.toNat)
  overwrite? bytes (start + 8) (Wire.littleEndian 8 hop.tick.toNat)

/-- The counters hop by hop, from `start` on. -/
def Stamps.writeAt? (stamps : Stamps) (bytes : Bytes) (start : Nat) : Option Bytes := do
  let bytes ← stamps.hop₀.writeAt? bytes start
  let bytes ← stamps.hop₁.writeAt? bytes (start + 16)
  stamps.hop₂.writeAt? bytes (start + 32)

/-- The answer of writing the counters to the front of `out`, and what `out` holds afterwards. -/
def Stamps.encodeOver (stamps : Stamps) (out : Bytes) : Bool × Bytes :=
  ((stamps.encodeInto out).isSome, (stamps.encodeInto out).getD out)

section Overwrite

variable {bytes : Bytes} {start : Nat} {piece : Bytes}

theorem overwrite?_of_le (h : start + piece.length ≤ bytes.length) :
    overwrite? bytes start piece =
      some (bytes.take start ++ piece ++ bytes.drop (start + piece.length)) :=
  if_pos h

theorem overwrite?_of_lt (h : bytes.length < start + piece.length) :
    overwrite? bytes start piece = none :=
  if_neg (Nat.not_le_of_lt h)

/-- Writing the bytes that are there already. -/
theorem overwrite?_self (h : start + piece.length ≤ bytes.length)
    (hpiece : (bytes.drop start).take piece.length = piece) :
    overwrite? bytes start piece = some bytes := by
  have hfront : bytes.take start ++ piece = bytes.take (start + piece.length) := by
    rw [List.take_add, hpiece]
  rw [overwrite?_of_le h, hfront, List.take_append_drop]

/-- Two writes that follow each other are one. -/
theorem overwrite?_append (bytes : Bytes) (start : Nat) (piece next : Bytes) :
    ((overwrite? bytes start piece).bind fun bytes =>
        overwrite? bytes (start + piece.length) next) =
      overwrite? bytes start (piece ++ next) := by
  by_cases hfirst : start + piece.length ≤ bytes.length
  · have hfront : (bytes.take start ++ piece).length = start + piece.length := by
      rw [List.length_append, List.length_take]
      omega
    have hlength : (bytes.take start ++ piece ++ bytes.drop (start + piece.length)).length =
        bytes.length := by
      rw [List.length_append, hfront, List.length_drop]
      omega
    rw [overwrite?_of_le hfirst, Option.bind_some]
    by_cases hboth : start + (piece ++ next).length ≤ bytes.length
    · have hnext : start + piece.length + next.length ≤ bytes.length := by
        rw [List.length_append] at hboth
        omega
      rw [overwrite?_of_le hboth, overwrite?_of_le (hlength.symm ▸ hnext), List.take_left' hfront,
        ← List.drop_drop, List.drop_left' hfront, List.drop_drop, List.length_append,
        ← Nat.add_assoc, ← List.append_assoc]
    · have hnext : bytes.length < start + piece.length + next.length := by
        rw [List.length_append] at hboth
        omega
      rw [overwrite?_of_lt (Nat.lt_of_not_le hboth), overwrite?_of_lt (hlength.symm ▸ hnext)]
  · have hboth : bytes.length < start + (piece ++ next).length := by
      rw [List.length_append]
      omega
    rw [overwrite?_of_lt (Nat.lt_of_not_le hfirst), overwrite?_of_lt hboth]
    rfl

end Overwrite

theorem Hop.writeAt?_eq (hop : Hop) (bytes : Bytes) (start : Nat) :
    hop.writeAt? bytes start = overwrite? bytes start hop.encode := by
  rw [encode, ← overwrite?_append, Wire.length_littleEndian]
  rfl

namespace Stamps

variable {stamps : Stamps} {out : Bytes}

theorem writeAt?_eq (stamps : Stamps) (bytes : Bytes) (start : Nat) :
    stamps.writeAt? bytes start = overwrite? bytes start stamps.encode := by
  have hlength : (stamps.hop₀.encode ++ stamps.hop₁.encode).length = 32 := by
    rw [List.length_append, length_hop_encode, length_hop_encode]
  rw [encode, ← overwrite?_append, hlength, ← overwrite?_append, length_hop_encode, writeAt?]
  simp only [Hop.writeAt?_eq, Option.bind_eq_bind, Option.bind_assoc]

theorem encodeInto_eq_overwrite? (stamps : Stamps) (out : Bytes) :
    stamps.encodeInto out = overwrite? out 0 stamps.encode := by
  rw [encodeInto, overwrite?, length_encode, Nat.zero_add, List.take_zero, List.nil_append]
  by_cases hshort : out.length < stampsLength
  · rw [if_pos hshort, if_neg (Nat.not_le_of_lt hshort)]
  · rw [if_neg hshort, if_pos (Nat.le_of_not_lt hshort)]

theorem encodeOver_of_le (h : stampsLength ≤ out.length) :
    stamps.encodeOver out = (true, stamps.encode ++ out.drop stampsLength) := by
  rw [encodeOver, encodeInto, if_neg (Nat.not_lt_of_le h)]
  rfl

theorem encodeOver_of_lt (h : out.length < stampsLength) :
    stamps.encodeOver out = (false, out) := by
  rw [encodeOver, encodeInto, if_pos h]
  rfl

/-- Counters written to where a frame has them leave the frame as it is. -/
theorem writeAt?_of_decode {frame : Bytes} (h : decode frame = .ok stamps) :
    stamps.writeAt? frame headerLength = some frame := by
  obtain ⟨hlong, hbytes⟩ := encode_of_decodePayload (decodePayload_of_decode h)
  have hfits : headerLength + stamps.encode.length ≤ frame.length := by
    have hpayload : 0 < stampsLength := by decide
    rw [List.length_drop] at hlong
    rw [length_encode]
    omega
  rw [writeAt?_eq]
  refine overwrite?_self hfits ?_
  rw [length_encode, hbytes]

end Stamps

/-! ## Both ways -/

/-- What is written for these counters reads as these counters, and what reads as these counters is
what is written for them. -/
structure RoundTrips (stamps : Stamps) : Prop where
  length_frame : stamps.frame.length = 66
  isProbe_frame : isProbe stamps.frame = true
  decode_frame : Stamps.decode stamps.frame = .ok stamps
  /-- The first bytes are written and no others, and they read as the counters. -/
  encodeOver_room (out : Bytes) : 48 ≤ out.length →
    ∃ front, front.length = 48 ∧ stamps.encodeOver out = (true, front ++ out.drop 48) ∧
      Stamps.decodePayload (front ++ out.drop 48) = some stamps
  encodeOver_short (out : Bytes) : out.length < 48 → stamps.encodeOver out = (false, out)
  /-- The words are written one by one, each in its place. -/
  encodeInto_eq_writeAt? (out : Bytes) : stamps.encodeInto out = stamps.writeAt? out 0
  /-- A frame that shows these counters already holds every byte that is written for them. -/
  encodeOver_decoded (frame : Bytes) : Stamps.decode frame = .ok stamps →
    stamps.writeAt? frame 18 = some frame ∧
      stamps.encodeOver (frame.drop 18) = (true, frame.drop 18)

/-- Writing and reading undo each other. -/
theorem stamps_roundTrip (stamps : Stamps) : RoundTrips stamps where
  length_frame := stamps.length_frame
  isProbe_frame := stamps.isProbe_frame
  decode_frame := stamps.decode_frame
  encodeOver_room out hroom :=
    ⟨stamps.encode, stamps.length_encode, Stamps.encodeOver_of_le hroom,
      stamps.decodePayload_encode _⟩
  encodeOver_short _ hshort := Stamps.encodeOver_of_lt hshort
  encodeInto_eq_writeAt? out := by
    rw [Stamps.encodeInto_eq_overwrite?, Stamps.writeAt?_eq]
  encodeOver_decoded frame hdecode := by
    obtain ⟨hlong, hbytes⟩ :=
      Stamps.encode_of_decodePayload (Stamps.decodePayload_of_decode hdecode)
    refine ⟨Stamps.writeAt?_of_decode hdecode, ?_⟩
    change stamps.encodeOver (frame.drop headerLength) = (true, frame.drop headerLength)
    rw [Stamps.encodeOver_of_le hlong, hbytes, List.take_append_drop]

end EtherRelay.Probe
