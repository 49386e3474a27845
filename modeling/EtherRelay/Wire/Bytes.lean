/-!
# Bytes and fixed-width words

A frame, a file and a datagram are lists of bytes. A word of `width` bytes is written
least significant byte first (`littleEndian`) or last (`bigEndian`), and both readers take
bytes of any number.

Writing and then reading gives the value modulo `span width`, the number of words of that width;
reading and then writing at the number of bytes read gives the bytes back.
-/

namespace EtherRelay

/-- The content of a frame or of a file. -/
abbrev Bytes := List UInt8

namespace Wire

/-- The low `width` bytes of `n`, least significant first. -/
def littleEndian : (width n : Nat) → Bytes
  | 0, _ => []
  | width + 1, n => UInt8.ofNat n :: littleEndian width (n / 256)

/-- The number whose least significant byte comes first. -/
def ofLittleEndian : Bytes → Nat
  | [] => 0
  | b :: rest => b.toNat + 256 * ofLittleEndian rest

/-- The low `width` bytes of `n`, most significant first. -/
def bigEndian (width n : Nat) : Bytes :=
  (littleEndian width n).reverse

/-- The number whose most significant byte comes first. -/
def ofBigEndian (bytes : Bytes) : Nat :=
  ofLittleEndian bytes.reverse

/-- The number of words of `width` bytes. -/
def span : (width : Nat) → Nat
  | 0 => 1
  | width + 1 => 256 * span width

@[simp] theorem length_littleEndian (width n : Nat) : (littleEndian width n).length = width := by
  induction width generalizing n with
  | zero => rfl
  | succ width ih => simp [littleEndian, ih]

@[simp] theorem length_bigEndian (width n : Nat) : (bigEndian width n).length = width := by
  simp [bigEndian]

theorem ofLittleEndian_lt (bytes : Bytes) : ofLittleEndian bytes < span bytes.length := by
  induction bytes with
  | nil => simp [ofLittleEndian, span]
  | cons b rest ih =>
    have := b.toNat_lt
    simp only [ofLittleEndian, List.length_cons, span]
    omega

theorem ofLittleEndian_littleEndian (width n : Nat) :
    ofLittleEndian (littleEndian width n) = n % span width := by
  induction width generalizing n with
  | zero => simp [littleEndian, ofLittleEndian, span, Nat.mod_one]
  | succ width ih =>
    have byte : (UInt8.ofNat n).toNat = n % 256 := UInt8.toNat_ofNat'
    rw [littleEndian, ofLittleEndian, ih, byte, span, Nat.mod_mul]

theorem littleEndian_ofLittleEndian (bytes : Bytes) :
    littleEndian bytes.length (ofLittleEndian bytes) = bytes := by
  induction bytes with
  | nil => rfl
  | cons b rest ih =>
    have hb := b.toNat_lt
    have low : UInt8.ofNat (b.toNat + 256 * ofLittleEndian rest) = b := by
      apply UInt8.toNat_inj.mp
      rw [UInt8.toNat_ofNat']
      omega
    have high : (b.toNat + 256 * ofLittleEndian rest) / 256 = ofLittleEndian rest := by omega
    simp [littleEndian, ofLittleEndian, low, high, ih]

theorem ofBigEndian_bigEndian (width n : Nat) :
    ofBigEndian (bigEndian width n) = n % span width := by
  simp [ofBigEndian, bigEndian, ofLittleEndian_littleEndian]

end Wire

end EtherRelay
