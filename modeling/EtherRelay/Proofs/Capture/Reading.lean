import EtherRelay.Capture.Content
import EtherRelay.Capture.Reader
import EtherRelay.Proofs.Capture.Exporting

/-!
# Captures are read back

Reading undoes writing: the complete capture of some frames reads as one section header, one
interface and then these frames, byte for byte. A frame of up to `2 ^ 32 - 1` bytes is read like
this. A reader that goes by the lengths around the blocks finds the same blocks as long as these
lengths fit into their four bytes.

Two captures of the same frames differ in the times of the packets alone.
-/

namespace EtherRelay.Capture

variable {s : Seen} {frames : List Seen} {rest : Bytes}

/-! ## Fields -/

theorem takeBytes_append {n : Nat} {front : Bytes} (h : front.length = n) (rest : Bytes) :
    takeBytes n (front ++ rest) = some (front, rest) := by
  subst h
  have hle : front.length ≤ (front ++ rest).length := by
    rw [List.length_append]
    exact Nat.le_add_right _ _
  rw [takeBytes, if_pos hle, List.take_left, List.drop_left]

theorem takeWord_append (width n : Nat) (rest : Bytes) :
    takeWord width (Wire.bigEndian width n ++ rest) = some (n % Wire.span width, rest) := by
  rw [takeWord, takeBytes_append (Wire.length_bigEndian width n), ← Wire.ofBigEndian_bigEndian]
  rfl

theorem span_four : Wire.span 4 = UInt32.size := rfl

/-- Two words of four bytes make one of eight. -/
theorem high_low (n : Nat) :
    n / UInt32.size % UInt32.size * UInt32.size + n % UInt32.size = n % UInt64.size := by
  have h32 : UInt32.size = 4294967296 := rfl
  have h64 : UInt64.size = 18446744073709551616 := rfl
  rw [h32, h64]
  omega

/-! ## Blocks -/

/-- What the block of a frame says. -/
def Seen.item (s : Seen) : Item :=
  .packet 0 (Exporter.nearestMicrosecond s.ns % UInt64.size) s.frame.length s.frame

/-- What the two headers say: version 1.0, and an Ethernet interface. -/
def headerItems : List Item := [.header 1 0, .interface 1 65535]

theorem readPacket_append (h : s.frame.length < UInt32.size) (rest : Bytes) :
    readPacket (s.block.body.flatten ++ rest) = some (s.item, rest) := by
  have hlength : s.frame.length % Wire.span 4 = s.frame.length := Nat.mod_eq_of_lt h
  simp only [Seen.block, Block.packet, List.flatten_cons, List.flatten_nil, List.append_assoc,
    List.append_nil, readPacket, takeWord_append, takeBytes_append, hlength, Option.bind_eq_bind,
    Option.bind_some]
  rw [Nat.zero_mod, span_four, high_low]
  rfl

namespace Block

variable {b : Block}

theorem bytes_eq (b : Block) :
    b.bytes = Wire.bigEndian 4 b.kind ++ (Wire.bigEndian 4 b.length ++
      (b.body.flatten ++ Wire.bigEndian 4 b.length)) := by
  simp [bytes, pieces]

@[simp] theorem length_bytes (b : Block) : b.bytes.length = b.length := by
  rw [bytes_eq]
  simp only [List.length_append, Wire.length_bigEndian, length]
  omega

end Block

/-- A block is read if its type and its body are, whatever follows. -/
theorem readItem_append {b : Block} {item : Item} (hkind : b.kind < UInt32.size)
    (hbody : ∀ rest, readBody b.kind (b.body.flatten ++ rest) = some (item, rest)) (rest : Bytes) :
    readItem (b.bytes ++ rest) = some (item, rest) := by
  have hkind' : b.kind % UInt32.size = b.kind := Nat.mod_eq_of_lt hkind
  have hlength : (b.bytes ++ rest).length = b.length + rest.length := by
    rw [List.length_append, Block.length_bytes]
  rw [readItem, hlength, Block.bytes_eq]
  simp only [List.append_assoc, takeWord_append, hkind', hbody, Option.bind_eq_bind,
    Option.bind_some, Nat.add_sub_cancel, span_four, true_and, if_true]

theorem readItem_header (rest : Bytes) :
    readItem (Block.sectionHeader.bytes ++ rest) = some (.header 1 0, rest) := by
  refine readItem_append (by decide) (fun rest => ?_) rest
  have horder : 0x1A2B3C4D % Wire.span 4 = 0x1A2B3C4D := rfl
  simp only [readBody, if_true, Block.sectionHeader, readHeader, List.flatten_cons,
    List.flatten_nil, List.append_assoc, takeWord_append, Option.bind_eq_bind, Option.bind_some,
    horder]
  rfl

theorem readItem_interface (rest : Bytes) :
    readItem (Block.interfaceDescription.bytes ++ rest) = some (.interface 1 65535, rest) := by
  refine readItem_append (by decide) (fun rest => ?_) rest
  simp only [readBody, if_true, Block.interfaceDescription, readInterface,
    List.flatten_cons, List.flatten_nil, List.append_assoc, takeWord_append, Option.bind_eq_bind,
    Option.bind_some]
  rfl

theorem readItem_seen (h : s.frame.length < UInt32.size) (rest : Bytes) :
    readItem (s.block.bytes ++ rest) = some (s.item, rest) := by
  have hkind : s.block.kind = (Block.packet 0 []).kind := by
    simp only [Seen.block, Block.packet]
  refine readItem_append (by rw [hkind]; decide) (fun rest => ?_) rest
  rw [hkind, readBody, if_neg (by decide), if_neg (by decide), if_pos rfl]
  exact readPacket_append h rest

/-! ## Files -/

theorem readItems_cons {fuel : Nat} {file : Bytes} {item : Item} (hne : file ≠ [])
    (h : readItem file = some (item, rest)) :
    readItems (fuel + 1) file = (readItems fuel rest).map (item :: ·) := by
  cases file with
  | nil => exact absurd rfl hne
  | cons b file =>
    simp only [readItems, h, Option.bind_eq_bind, Option.bind_some]
    cases readItems fuel rest with
    | none => rfl
    | some items => rfl

theorem bytes_ne_nil (b : Block) (rest : Bytes) : b.bytes ++ rest ≠ [] := by
  rw [← List.length_pos_iff, List.length_append, Block.length_bytes, Block.length]
  omega

theorem readItems_seen (h : ∀ s ∈ frames, s.frame.length < UInt32.size) {fuel : Nat}
    (hfuel : frames.length ≤ fuel) :
    readItems fuel ((frames.map Seen.block).flatMap Block.bytes) = some (frames.map Seen.item) := by
  induction frames generalizing fuel with
  | nil => cases fuel <;> rfl
  | cons s frames ih =>
    obtain ⟨hs, hframes⟩ := List.forall_mem_cons.mp h
    obtain ⟨fuel, rfl⟩ := Nat.exists_eq_succ_of_ne_zero (Nat.ne_of_gt
      (Nat.lt_of_lt_of_le (Nat.succ_pos _) hfuel))
    have hrest := ih hframes (Nat.le_of_succ_le_succ hfuel)
    rw [List.map_cons, List.flatMap_cons,
      readItems_cons (bytes_ne_nil _ _) (readItem_seen hs _), hrest]
    rfl

/-- There are at least as many bytes as blocks. -/
theorem length_le_length_flatMap (bs : List Block) :
    bs.length ≤ (bs.flatMap Block.bytes).length := by
  induction bs with
  | nil => exact Nat.le_refl 0
  | cons b bs ih =>
    rw [List.flatMap_cons, List.length_append, List.length_cons, Block.length_bytes, Block.length]
    omega

/-- A capture reads as the headers and then the frames, byte for byte. -/
theorem read_stream (h : ∀ s ∈ frames, s.frame.length < UInt32.size) :
    read (stream frames) = some (headerItems ++ frames.map Seen.item) := by
  have hcount : (blocks frames).length = frames.length + 2 := by simp [blocks]
  have hfuel : frames.length + 2 ≤ (stream frames).length :=
    hcount ▸ length_le_length_flatMap (blocks frames)
  obtain ⟨fuel, hstream⟩ := Nat.exists_eq_add_of_le' hfuel
  have hblocks : stream frames = Block.sectionHeader.bytes ++
      (Block.interfaceDescription.bytes ++ (frames.map Seen.block).flatMap Block.bytes) := rfl
  rw [read, hstream, hblocks, ← Nat.add_assoc, readItems_cons (bytes_ne_nil _ _) (readItem_header _),
    readItems_cons (bytes_ne_nil _ _) (readItem_interface _),
    readItems_seen h (Nat.le_add_left _ _)]
  rfl

/-! ## Lengths -/

/-- A block is a multiple of four bytes long, and the words behind its type and at its end both hold
this length, as far as they can. -/
structure Framed (block : Bytes) : Prop where
  four_dvd : 4 ∣ block.length
  leading_eq : Wire.ofBigEndian ((block.drop 4).take 4) = block.length % UInt32.size
  trailing_eq : Wire.ofBigEndian (block.drop (block.length - 4)) = block.length % UInt32.size

namespace Block

variable {b : Block}

theorem leading_append (b : Block) (rest : Bytes) :
    ((b.bytes ++ rest).drop 4).take 4 = Wire.bigEndian 4 b.length := by
  rw [bytes_eq]
  simp only [List.append_assoc]
  rw [List.drop_left' (Wire.length_bigEndian 4 b.kind),
    List.take_left' (Wire.length_bigEndian 4 b.length)]

theorem framed (h : 4 ∣ b.length) : Framed b.bytes where
  four_dvd := by rwa [length_bytes]
  leading_eq := by
    have hleading := b.leading_append []
    rw [List.append_nil] at hleading
    rw [hleading, Wire.ofBigEndian_bigEndian, length_bytes, span_four]
  trailing_eq := by
    have hfront : (Wire.bigEndian 4 b.kind ++ (Wire.bigEndian 4 b.length ++
        b.body.flatten)).length = b.bytes.length - 4 := by
      rw [length_bytes, length]
      simp only [List.length_append, Wire.length_bigEndian]
      omega
    rw [← hfront, length_bytes, bytes_eq]
    simp only [← List.append_assoc]
    rw [List.drop_left, Wire.ofBigEndian_bigEndian, span_four]

end Block

theorem Seen.length_block (s : Seen) :
    s.block.length = s.frame.length + (Block.padding s.frame.length).length + 32 := by
  simp only [block, Block.packet, Block.length, List.flatten_cons, List.flatten_nil,
    List.length_append, Wire.length_bigEndian, List.length_nil]
  omega

theorem mem_blocks {b : Block} (hb : b ∈ blocks frames) :
    b = .sectionHeader ∨ b = .interfaceDescription ∨ ∃ s ∈ frames, b = s.block := by
  simp only [blocks, List.cons_append, List.nil_append, List.mem_cons, List.mem_map] at hb
  rcases hb with rfl | rfl | ⟨s, hs, rfl⟩
  · exact .inl rfl
  · exact .inr (.inl rfl)
  · exact .inr (.inr ⟨s, hs, rfl⟩)

/-- The padding brings the block of a frame to a multiple of four bytes. -/
theorem framed_of_mem_blocks {b : Block} (hb : b ∈ blocks frames) : Framed b.bytes := by
  apply Block.framed
  rcases mem_blocks hb with rfl | rfl | ⟨s, -, rfl⟩
  · decide
  · decide
  · rw [Seen.length_block, Block.padding, List.length_replicate]
    omega

/-- A block is split off by its length alone if its length fits into four bytes. -/
theorem splitBlock_append {b : Block} (h : b.length < UInt32.size) (rest : Bytes) :
    splitBlock (b.bytes ++ rest) = some (b.bytes, rest) := by
  have hlength : Wire.ofBigEndian (((b.bytes ++ rest).drop 4).take 4) = b.bytes.length := by
    rw [Block.leading_append, Wire.ofBigEndian_bigEndian, Block.length_bytes]
    exact Nat.mod_eq_of_lt h
  have hwhole : ¬ (b.bytes.length < 12 ∨ (b.bytes ++ rest).length < b.bytes.length) := by
    rw [List.length_append, Block.length_bytes, Block.length]
    omega
  simp only [splitBlock, hlength, if_neg hwhole, List.take_left, List.drop_left]

theorem splitBlocks_flatMap {bs : List Block} (h : ∀ b ∈ bs, b.length < UInt32.size) {fuel : Nat}
    (hfuel : bs.length ≤ fuel) :
    splitBlocks fuel (bs.flatMap Block.bytes) = (bs.map Block.bytes, []) := by
  induction bs generalizing fuel with
  | nil => cases fuel <;> rfl
  | cons b bs ih =>
    obtain ⟨hb, hbs⟩ := List.forall_mem_cons.mp h
    obtain ⟨fuel, rfl⟩ := Nat.exists_eq_succ_of_ne_zero (Nat.ne_of_gt
      (Nat.lt_of_lt_of_le (Nat.succ_pos _) hfuel))
    have hrest := ih hbs (Nat.le_of_succ_le_succ hfuel)
    simp only [List.flatMap_cons, splitBlocks, splitBlock_append hb, hrest, List.map_cons]

/-- The lengths around the blocks lead from one block to the next as long as they fit into four
bytes. -/
theorem splitBlocks_stream (h : ∀ s ∈ frames, s.frame.length + 36 ≤ UInt32.size) :
    splitBlocks (stream frames).length (stream frames) = ((blocks frames).map Block.bytes, []) := by
  refine splitBlocks_flatMap (fun b hb => ?_) (length_le_length_flatMap (blocks frames))
  rcases mem_blocks hb with rfl | rfl | ⟨s, hs, rfl⟩
  · decide
  · decide
  · have := h s hs
    have := Seen.length_padding_lt s.frame.length
    rw [Seen.length_block]
    omega

/-! ## Times -/

/-- A packet with its time set apart. -/
def timed (time : Bytes) (frame : Bytes) : Bytes :=
  (Wire.bigEndian 4 6 ++ Wire.bigEndian 4 (Block.packet 0 frame).length ++ Wire.bigEndian 4 0) ++
    (time ++ (Wire.bigEndian 4 frame.length ++ Wire.bigEndian 4 frame.length ++ frame ++
      Block.padding frame.length ++ Wire.bigEndian 4 (Block.packet 0 frame).length))

theorem bytes_packet (micros : Nat) (frame : Bytes) :
    (Block.packet micros frame).bytes =
      timed (Wire.bigEndian 4 (micros / UInt32.size) ++ Wire.bigEndian 4 micros) frame := by
  have hlength : (Block.packet micros frame).length = (Block.packet 0 frame).length := by
    simp [Block.length, Block.packet]
  rw [Block.bytes, Block.pieces, hlength]
  simp [Block.packet, timed]

theorem clearTime_timed {time : Bytes} (h : time.length = 8) (frame : Bytes) :
    clearTime (timed time frame) = timed (List.replicate 8 0) frame := by
  have hkind : Wire.ofBigEndian ((timed time frame).take 4) = 6 := by
    simp only [timed, List.append_assoc]
    rw [List.take_left' (Wire.length_bigEndian 4 6), Wire.ofBigEndian_bigEndian]
    rfl
  have hlength : 20 ≤ (timed time frame).length := by
    simp only [timed, List.length_append, Wire.length_bigEndian]
    omega
  have hfront : (Wire.bigEndian 4 6 ++ Wire.bigEndian 4 (Block.packet 0 frame).length ++
      Wire.bigEndian 4 0).length = 12 := by
    simp
  rw [clearTime, if_pos ⟨hkind, hlength⟩, timed, List.take_left' hfront]
  have hdrop : ∀ (front rest : Bytes), front.length = 12 →
      (front ++ (time ++ rest)).drop 20 = rest := by
    intro front rest hfront
    rw [← List.append_assoc, List.drop_left']
    rw [List.length_append, hfront, h]
  rw [hdrop _ _ hfront, List.append_assoc]
  rfl

/-- Only the time of a packet depends on when its frame was seen. -/
theorem clearTime_seen (s : Seen) :
    clearTime s.block.bytes = timed (List.replicate 8 0) s.frame := by
  rw [Seen.block, bytes_packet]
  exact clearTime_timed (by simp) s.frame

/-- Two captures of the same frames differ in the times of their packets alone. -/
theorem clearTime_blocks {frames' : List Seen}
    (h : frames'.map Seen.frame = frames.map Seen.frame) :
    (blocks frames').map (clearTime ∘ Block.bytes) =
      (blocks frames).map (clearTime ∘ Block.bytes) := by
  have hseen : ∀ seen : List Seen, (seen.map Seen.block).map (clearTime ∘ Block.bytes) =
      (seen.map Seen.frame).map (timed (List.replicate 8 0)) := by
    intro seen
    rw [List.map_map, List.map_map]
    exact List.map_congr_left fun s _ => clearTime_seen s
  simp only [blocks, List.map_append]
  rw [hseen, hseen, h]

end EtherRelay.Capture
